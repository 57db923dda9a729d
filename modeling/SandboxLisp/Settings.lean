import SandboxLisp.Datum.Rendering
import SandboxLisp.Number.Numeral
import SandboxLisp.Text.Blank

/-!
# Settings of an evaluator

The depth limit is the one that the host gives, or else that of an environment variable, or else a
default.  A limit is a positive integer.  The variable holds an integer in decimal digits of any
script, with single underscores allowed between digits and blanks around it.
-/

namespace SandboxLisp

/-- Why an evaluator cannot be set up. -/
inductive SettingsError where
  | notAnInteger (name : String) (shown : String)
  | notPositive (shown : String)
  | nameNotString (shown : String)
  | notCallable (shown : String)
  | number (error : NumberError)
  /-- What is to be shown is nested beyond the levels that are gone through. -/
  | tooDeep
deriving DecidableEq, Repr

namespace SettingsError

/-- The words for a failure. -/
def message : SettingsError → String
  | .notAnInteger name shown => Text.sentence [name, " must be an integer, got ", shown]
  | .notPositive shown => Text.sentence ["max_depth must be a positive integer, got ", shown]
  | .nameNotString shown => Text.sentence ["Primitive names must be strings, got ", shown]
  | .notCallable shown => Text.sentence ["Primitive ", shown, " is not callable"]
  | .number error => error.message
  | .tooDeep => "maximum recursion depth exceeded while getting the repr of an object"

/-- A failure that shows a datum. -/
def showing (cause : String → SettingsError) (datum : Datum) : SettingsError :=
  match datum.textWithin .debug (some levelBound) with
  | .ok shown => cause shown
  | .error .integerTooLong => .number .integerTooLong
  | .error .tooDeep => .tooDeep

end SettingsError

namespace Settings

/-- The limit that holds if none is given. -/
def defaultMaxDepth : Nat := 100

/-- The name of the variable that may hold the limit. -/
def variableName : String := "SEVAL_MAX_DEPTH"

/-- The digits of a text of digits in which single underscores stand between digits only. -/
def separatedDigits? : List Char → Option (List Nat)
  | [] => none
  | [character] => (Text.digitValue? character).map ([·])
  | character :: '_' :: rest => do
      let digit ← Text.digitValue? character
      return digit :: (← separatedDigits? rest)
  | character :: rest => do
      let digit ← Text.digitValue? character
      return digit :: (← separatedDigits? rest)

/-- The integer that a text without blanks around it holds, if it is not too long. -/
def integer? (characters : List Char) : Option Int := do
  let (negative, unsigned) := Numeral.takeSign characters
  let digits ← separatedDigits? unsigned
  if NumberError.digitLimit < digits.length then none
  else
    let magnitude : Int := Numeral.ofDigits 10 digits
    return if negative then -magnitude else magnitude

/-- A limit checked. -/
def validate : Datum → Except SettingsError Nat
  | .int value =>
      if 1 ≤ value then .ok value.toNat else .error (.showing .notPositive (.int value))
  | other => .error (.showing .notPositive other)

/-- The limit that the variable gives; a variable that is not set or blank leaves the default. -/
def ofVariable : Option String → Except SettingsError Nat
  | none => validate (.int defaultMaxDepth)
  | some raw =>
      match Text.trim raw.toList with
      | [] => validate (.int defaultMaxDepth)
      | trimmed =>
          match integer? trimmed with
          | some value => validate (.int value)
          | none => .error (.notAnInteger variableName (Text.quotedString raw))

/-- The limit of an evaluator: the given one, or that of the variable if nil is given. -/
def maxDepth (given : Datum) (setting : Option String) : Except SettingsError Nat :=
  match given with
  | .nil => ofVariable setting
  | other => validate other

example : integer? "1_000".toList = some 1000 := by decide +kernel
example : integer? "1__0".toList = none := by decide +kernel
example : integer? "-7".toList = some (-7) := by decide +kernel

end Settings

end SandboxLisp
