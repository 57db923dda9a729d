import SandboxLisp.Datum.Basic

/-!
# Equality of data

Lists are equal item by item and objects field by field in any order; numbers are equal by value,
whichever way they are held; functions and results that are not a number are equal only to
themselves.  Strict equality keeps booleans apart from numbers; the loose one, which underlies the
order, takes them as zero and one.
-/

namespace SandboxLisp

namespace Datum

/-- How equality looks at booleans. -/
inductive Matching where
  | strict
  | loose
deriving DecidableEq, Repr

/-- The number that a boolean counts as. -/
def numberOfBool (value : Bool) : Number :=
  .int (if value then 1 else 0)

/-- The number that equality or order compares, if it compares numbers. -/
def measure? (matching : Matching) : Datum → Option Number
  | .bool value =>
      match matching with
      | .strict => none
      | .loose => some (numberOfBool value)
  | .int value => some (.int value)
  | .double value => some (.double value)
  | _ => none

/-- Equality of data that have no parts. -/
def atomsEqual (matching : Matching) (first second : Datum) : Bool :=
  match first.measure? matching, second.measure? matching with
  | some left, some right => left.equal right
  | none, none =>
      match first, second with
      | .nil, .nil => true
      | .bool left, .bool right => left == right
      | .nan left, .nan right => left == right
      | .string left, .string right => left == right
      | .symbol left, .symbol right => left == right
      | .closure left _ _ _ _, .closure right _ _ _ _ => left == right
      | _, _ => false
  | _, _ => false

mutual

/-- Equality of data under a way of looking at booleans. -/
def equalBy (matching : Matching) : Datum → Datum → Bool
  | .list _ items, second =>
      match second with
      | .list _ items' => itemsEqualBy matching items items'
      | _ => false
  | .object _ fields, second =>
      match second with
      | .object _ fields' =>
          fields.length == fields'.length && fieldsEqualBy matching fields fields'
      | _ => false
  | .nil, second => atomsEqual matching .nil second
  | .bool value, second => atomsEqual matching (.bool value) second
  | .int value, second => atomsEqual matching (.int value) second
  | .double value, second => atomsEqual matching (.double value) second
  | .nan mark, second => atomsEqual matching (.nan mark) second
  | .string text, second => atomsEqual matching (.string text) second
  | .symbol name, second => atomsEqual matching (.symbol name) second
  | .closure mark params body captured self, second =>
      atomsEqual matching (.closure mark params body captured self) second
termination_by structural first => first

/-- Whether two lists have equal items at all places. -/
def itemsEqualBy (matching : Matching) : List Datum → List Datum → Bool
  | [], items' => items'.isEmpty
  | item :: rest, items' =>
      match items' with
      | [] => false
      | item' :: rest' => equalBy matching item item' && itemsEqualBy matching rest rest'
termination_by structural items => items

/-- Whether each of the first fields has an equal field of its name among the second. -/
def fieldsEqualBy (matching : Matching) : List (String × Datum) → List (String × Datum) → Bool
  | [], _ => true
  | (name, value) :: rest, fields' =>
      (match Table.get? fields' name with
        | some value' => equalBy matching value value'
        | none => false) && fieldsEqualBy matching rest fields'
termination_by structural fields => fields

end

/-- Equality in the language, which keeps booleans apart from numbers. -/
def equal (first second : Datum) : Bool :=
  equalBy .strict first second

end Datum

end SandboxLisp
