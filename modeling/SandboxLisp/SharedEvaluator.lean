import SandboxLisp.Evaluator

/-!
# The shared evaluator

A program that sets nothing up uses one evaluator that is made when it is first asked for.  It is
kept under the value that the variable has then, and made anew for another value, so a change of the
variable takes effect at the next use.

A use reads the variable twice: its value is the key under which an evaluator may be kept, and an
evaluator that is made takes its limit from the variable by itself.
-/

namespace SandboxLisp

/-- The evaluator that is kept, with the key that it is kept under. -/
structure SharedEvaluator where
  kept : Option (Option String × Evaluator)

namespace SharedEvaluator

/-- Before the first use nothing is kept. -/
def empty : SharedEvaluator := ⟨none⟩

/-- A new evaluator while the variable has a value. -/
def make (setting : Option String) : Except SettingsError Evaluator :=
  Evaluator.create .nil [] setting

/-- The evaluator under a key while the variable has a value, and what is kept afterwards. -/
def getUnder (shared : SharedEvaluator) (key setting : Option String) :
    Except SettingsError Evaluator × SharedEvaluator :=
  match shared.kept with
  | some (known, evaluator) =>
      if known = key then (.ok evaluator, shared) else renew shared key setting
  | none => renew shared key setting
where
  /-- A new evaluator, which is kept from now on; a failure leaves what was kept. -/
  renew (shared : SharedEvaluator) (key setting : Option String) :
      Except SettingsError Evaluator × SharedEvaluator :=
    match make setting with
    | .ok evaluator => (.ok evaluator, ⟨some (key, evaluator)⟩)
    | .error error => (.error error, shared)

/-- The evaluator for a value of the variable, and what is kept afterwards. -/
def get (shared : SharedEvaluator) (setting : Option String) :
    Except SettingsError Evaluator × SharedEvaluator :=
  shared.getUnder setting setting

/-- What the shared evaluator is used for: to have the evaluator, or to evaluate an expression or a
text in a world. -/
inductive Use where
  | evaluator
  | evaluate (clock : Number) (expression : Datum) (world : World)
  | evaluateText (clock : Number) (source : String) (world : World)

/-- What comes of a use. -/
inductive Answer where
  | evaluator (evaluator : Evaluator)
  | ended (outcome : Except EvalError Datum) (after : World)

/-- What an evaluator gives for a use. -/
def Use.answer (evaluator : Evaluator) : Use → Answer
  | .evaluator => .evaluator evaluator
  | .evaluate clock expression world =>
      let (outcome, after) := evaluator.evaluate clock expression world
      .ended outcome after
  | .evaluateText clock source world =>
      let (outcome, after) := evaluator.evaluateText clock source world
      .ended outcome after

/-- What comes of a use while the variable has a value, and what is kept afterwards; without an
evaluator nothing is read or evaluated. -/
def serve (shared : SharedEvaluator) (setting : Option String) (use : Use) :
    Except SettingsError Answer × SharedEvaluator :=
  let (found, kept) := shared.get setting
  (found.map fun evaluator => use.answer evaluator, kept)

end SharedEvaluator

/-- A program that uses the shared evaluator: the value of its variable, and what is kept. -/
structure Program where
  setting : Option String
  shared : SharedEvaluator

namespace Program

/-- A program that starts with a value of the variable. -/
def start (setting : Option String) : Program := ⟨setting, .empty⟩

/-- What a program does: it sets the variable, or unsets it, or uses the shared evaluator. -/
inductive Act where
  | set (value : String)
  | unset
  | use (use : SharedEvaluator.Use)

/-- What comes of an act, if it is a use, and the program after it. -/
def perform (program : Program) :
    Act → Option (Except SettingsError SharedEvaluator.Answer) × Program
  | .set value => (none, { program with setting := some value })
  | .unset => (none, { program with setting := none })
  | .use use =>
      let (answer, shared) := program.shared.serve program.setting use
      (some answer, { program with shared })

end Program

end SandboxLisp
