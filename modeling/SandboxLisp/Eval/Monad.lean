import SandboxLisp.Datum.Bounded
import SandboxLisp.Eval.Error

/-!
# Computations of the evaluator

A computation runs in fixed surroundings, changes a world, and ends in a value or a failure.  The
world as it is at the end comes out in either case, so what was bound or logged before a failure
remains.
-/

namespace SandboxLisp

/-- What does not change while an expression is evaluated. -/
structure Surroundings where
  /-- The depth beyond which evaluation fails. -/
  maxDepth : Nat
  /-- How many levels of data an operation may go through, if that is bounded. -/
  levels : Option Nat
  /-- The time in seconds. -/
  clock : Number

namespace Surroundings

/-- The failure of what goes too deep. -/
def tooDeep (around : Surroundings) : EvalError :=
  .limitExceeded around.maxDepth

/-- What is found at a bounded depth, unless that is too deep. -/
def reached {α : Type} (around : Surroundings) : Option α → Except EvalError α
  | some value => .ok value
  | none => .error around.tooDeep

/-- Whether two data are equal under a way of looking at booleans. -/
def equal (around : Surroundings) (matching : Datum.Matching) (first second : Datum) :
    Except EvalError Bool :=
  match around.levels with
  | some bound => around.reached (first.equalWithin matching bound second)
  | none => .ok (first.equalBy matching second)

/-- Whether a relation holds of two data; the data that have no order are the inner error. -/
def relate (around : Surroundings) (relation : Relation) (first second : Datum) :
    Except EvalError (Except (Datum × Datum) Bool) :=
  match around.levels with
  | some bound => around.reached (first.relateWithin relation bound second)
  | none => .ok (first.relate relation second)

/-- The text of a datum in one form. -/
def text (around : Surroundings) (form : TextForm) (datum : Datum) : Except EvalError String :=
  (datum.textWithin form around.levels).mapError fun
    | .tooDeep => around.tooDeep
    | .integerTooLong => .number .integerTooLong

end Surroundings

/-- What evaluation changes. -/
structure World where
  /-- The bindings of the place that is evaluated. -/
  scope : Scope
  /-- The lines that were logged, in order. -/
  log : List String
  /-- The next mark that no datum carries. -/
  nextMark : Mark
  /-- What the next random number is made from. -/
  seed : Nat

/-- A computation of the evaluator. -/
def Eval (α : Type) : Type :=
  Surroundings → World → Except EvalError α × World

namespace Eval

variable {α β : Type}

/-- The computation that gives a value and changes nothing. -/
def done (value : α) : Eval α :=
  fun _ world => (.ok value, world)

/-- One computation after another; a failure of the first ends both. -/
def andThen (first : Eval α) (next : α → Eval β) : Eval β :=
  fun surroundings world =>
    match first surroundings world with
    | (.ok value, world) => next value surroundings world
    | (.error error, world) => (.error error, world)

instance : Monad Eval where
  pure := done
  bind := andThen

/-- The computation that fails and changes nothing. -/
def fail (error : EvalError) : Eval α :=
  fun _ world => (.error error, world)

/-- A value runs to itself. -/
@[simp] theorem pure_apply (value : α) (surroundings : Surroundings) (world : World) :
    (pure value : Eval α) surroundings world = (.ok value, world) := rfl

/-- A failure runs to itself. -/
@[simp] theorem fail_apply (error : EvalError) (surroundings : Surroundings) (world : World) :
    (fail error : Eval α) surroundings world = (.error error, world) := rfl

/-- A sequence runs its first part and goes on with the value. -/
theorem bind_apply (first : Eval α) (next : α → Eval β) (surroundings : Surroundings)
    (world : World) :
    (first >>= next) surroundings world =
      match first surroundings world with
      | (.ok value, world) => next value surroundings world
      | (.error error, world) => (.error error, world) := rfl

/-- A computation followed by nothing is itself. -/
theorem andThen_done (computation : Eval α) : andThen computation done = computation := by
  funext surroundings world
  simp only [andThen, done]
  cases computation surroundings world with
  | mk outcome after => cases outcome <;> rfl

/-- Sequencing is associative. -/
theorem andThen_assoc {γ : Type} (computation : Eval α) (next : α → Eval β) (last : β → Eval γ) :
    andThen (andThen computation next) last =
      andThen computation fun value => andThen (next value) last := by
  funext surroundings world
  simp only [andThen]
  cases computation surroundings world with
  | mk outcome after => cases outcome <;> rfl

instance : LawfulMonad Eval :=
  LawfulMonad.mk' Eval (fun computation => andThen_done computation) (fun _ _ => rfl)
    (fun computation next last => andThen_assoc computation next last)

/-- The surroundings. -/
def surroundings : Eval Surroundings :=
  fun surroundings world => (.ok surroundings, world)

/-- The bindings of the current place. -/
def scope : Eval Scope :=
  fun _ world => (.ok world.scope, world)

/-- Binds a name in the current scope. -/
def define (name : String) (value : Datum) : Eval Unit :=
  fun _ world => (.ok (), { world with scope := Table.put world.scope name value })

/-- Runs a computation in a scope of its own; the current scope is untouched by it. -/
def inScope (inner : Scope) (computation : Eval α) : Eval α :=
  fun surroundings world =>
    let (outcome, after) := computation surroundings { world with scope := inner }
    (outcome, { after with scope := world.scope })

/-- Logs a line. -/
def logLine (line : String) : Eval Unit :=
  fun _ world => (.ok (), { world with log := world.log ++ [line] })

/-- A mark that no datum carries yet. -/
def freshMark : Eval Mark :=
  fun _ world => (.ok world.nextMark, { world with nextMark := world.nextMark + 1 })

/-- The state behind the random numbers moves on by one step. -/
def nextSeed : Eval Nat :=
  fun _ world =>
    let seed := (world.seed * 6364136223846793005 + 1442695040888963407) % 2 ^ 64
    (.ok seed, { world with seed })

/-- The value of a conversion that may fail. -/
def ofNumber : Except NumberError α → Eval α
  | .ok value => pure value
  | .error error => fail (.number error)

/-- The datum of a number; a result that is not a number is a new one. -/
def number : Number → Eval Datum
  | .int value => pure (.int value)
  | .double value => pure (.double value)
  | .nan => do return .nan (← freshMark)

/-- The value of an outcome. -/
def ofExcept : Except EvalError α → Eval α
  | .ok value => pure value
  | .error error => fail error

/-- Fails as if the depth were exceeded when lists are nested too deep to be gone through. -/
def checkNesting (datum : Datum) : Eval Unit := do
  let around ← surroundings
  if datum.exceeds around.levels then fail around.tooDeep else pure ()

/-- The text of a datum in one form. -/
def text (form : TextForm) (datum : Datum) : Eval String := do
  ofExcept ((← surroundings).text form datum)

/-- Whether two data are equal. -/
def equal (first second : Datum) : Eval Bool := do
  ofExcept ((← surroundings).equal .strict first second)

/-- A list made now. -/
def newList (items : List Datum) : Eval Datum := do
  return .list (some (← freshMark)) items

/-- An object made now. -/
def newObject (fields : List (String × Datum)) : Eval Datum := do
  return .object (← freshMark) fields

/-- A function made now. -/
def closure (params : List String) (body : Datum) (self : Option String) : Eval Datum := do
  let mark ← freshMark
  return .closure mark params body (← scope) self

end Eval

end SandboxLisp
