import SandboxLisp.Eval.Sequences
import SandboxLisp.Registry

/-!
# The evaluator

Symbols stand for their bindings, or for their own names if they have none, and other atoms for
themselves.  A list is evaluated by the first rule that applies: the special form that its head
names, the function bound to that name, the primitive of that name, or the function that is the
value of the head.

The rule for one expression is `step`, which is given the evaluation of the parts.  `evaluateFor`
ties the knot for a number of levels, so evaluation ends whatever the expression is.
-/

namespace SandboxLisp

namespace Eval

/-- The rule of a special form. -/
def form (recur : Datum → Eval Datum) : Form → List Datum → Eval Datum
  | .conditional => conditional recur
  | .letIn => letIn recur
  | .cond => cond recur
  | .begin => begin recur
  | .quote => quote
  | .lambda => lambda
  | .define => definition recur
  | .apply => apply recur
  | .filter => filter recur
  | .map => map recur
  | .find => find recur
  | .findIndex => findIndex recur
  | .sortBy => sortBy recur
  | .count => count recur
  | .reduce => reduce recur

/-- The name under which a head is reported that is no function. -/
def headName : Datum → Eval String
  | .symbol name => pure name
  | head => text .source head

/-- A call whose head is an expression. -/
def callValue (recur : Datum → Eval Datum) (head : Datum) (operands : List Datum) : Eval Datum := do
  match (← recur head).closure? with
  | some function => applyClosure recur function (← operands.mapM recur)
  | none => fail (.unknownFunction (← headName head))

/-- A call whose head is a name that names no special form. -/
def callName (registry : Registry) (recur : Datum → Eval Datum) (name : String)
    (operands : List Datum) : Eval Datum := do
  match (Table.get? (← scope) name).bind Datum.closure? with
  | some function => applyClosure recur function (← operands.mapM recur)
  | none =>
      match registry.get? name with
      | some primitive => primitive recur (← operands.mapM recur)
      | none => callValue recur (.symbol name) operands

/-- The value of a list that is not empty. -/
def list (registry : Registry) (recur : Datum → Eval Datum) (head : Datum) (operands : List Datum) :
    Eval Datum :=
  match head with
  | .symbol name =>
      match Form.ofName? name with
      | some found => form recur found operands
      | none => callName registry recur name operands
  | _ => callValue recur head operands

/-- The value of an expression, given the evaluation of its parts. -/
def step (registry : Registry) (recur : Datum → Eval Datum) : Datum → Eval Datum
  | .symbol name => do return (Table.get? (← scope) name).getD (.string name)
  | .list _ [] => pure (.list none [])
  | .list _ (head :: operands) => list registry recur head operands
  | .object mark fields => do fail (.type (.cannotEvaluate (← text .debug (.object mark fields))))
  | atom => pure atom

/-- The failure of an evaluation that goes too deep. -/
def tooDeep : Eval Datum := do
  fail (← surroundings).tooDeep

/-- The value of an expression that may be evaluated through a number of levels. -/
def evaluateFor (registry : Registry) : Nat → Datum → Eval Datum
  | 0, _ => tooDeep
  | levels + 1, expression => step registry (evaluateFor registry levels) expression

end Eval

/-- An evaluator: a depth limit and a registry. -/
structure Evaluator where
  maxDepth : Nat
  registry : Registry

namespace Evaluator

/-- The evaluator with a given limit, which may be left to the variable, and the host's offers. -/
def create (maxDepth : Datum) (offers : List Offer) (setting : Option String) :
    Except SettingsError Evaluator := do
  let limit ← Settings.maxDepth maxDepth setting
  return ⟨limit, ← Registry.ofOffers offers⟩

/-- What an evaluation runs in at a given time. -/
def surroundings (evaluator : Evaluator) (clock : Number) : Surroundings :=
  ⟨evaluator.maxDepth, some levelBound, clock⟩

/-- The number of levels of an evaluation, the first one included. -/
def levels (around : Surroundings) : Nat :=
  match around.levels with
  | some bound => min around.maxDepth bound + 1
  | none => around.maxDepth + 1

/-- Evaluates an expression in surroundings. -/
def evaluateIn (registry : Registry) (around : Surroundings) (expression : Datum) (world : World) :
    Except EvalError Datum × World :=
  Eval.evaluateFor registry (levels around) expression around world

/-- Evaluates an expression in a world. -/
def evaluate (evaluator : Evaluator) (clock : Number) (expression : Datum) (world : World) :
    Except EvalError Datum × World :=
  let (outcome, after) :=
    evaluateIn evaluator.registry (evaluator.surroundings clock) expression world
  (outcome.mapError EvalError.reported, after)

/-- Reads and evaluates a text in a world. -/
def evaluateText (evaluator : Evaluator) (clock : Number) (source : String) (world : World) :
    Except EvalError Datum × World :=
  match Reader.parse source.toList with
  | .ok expression => evaluator.evaluate clock expression world
  | .error error => (.error (.reading error), world)

end Evaluator

/-- A world in which nothing has happened yet. -/
def World.ofScope (scope : Scope) (nextMark : Mark) : World :=
  ⟨scope, [], nextMark, 0⟩

/-- Runs an evaluation in a scope of its own, leaving the scope of the world as it is. -/
def World.withScope {α : Type} (world : World) (scope : Scope)
    (run : World → Except EvalError α × World) : Except EvalError α × World :=
  let (outcome, after) := run { world with scope }
  (outcome, { after with scope := world.scope })

end SandboxLisp
