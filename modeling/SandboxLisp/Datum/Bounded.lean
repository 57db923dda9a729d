import SandboxLisp.Datum.Order

/-!
# Comparison to a bounded depth

Equality and order of data when no more than a number of levels of lists and objects is gone
through.  There is no answer if it takes more levels, but only then: the comparison goes from left
to right and stops at the first difference, lists of different lengths and objects of different
names are not entered, and neither are two that are one.

The order is consulted where the first items differ, and two lists that are compared by it are
entered even if they are one.
-/

namespace SandboxLisp

namespace Datum

/-- Whether two marks show that two lists are one. -/
def sameMark (first second : Option Mark) : Bool :=
  match first, second with
  | some mark, some mark' => mark == mark'
  | _, _ => false

/-- Whether each name of the first fields is one of the second. -/
def namesAmong (fields fields' : List (String × Datum)) : Bool :=
  fields.all fun field => Table.has fields' field.1

mutual

/-- Equality of data through a number of levels; none if it takes more. -/
def equalWithin (matching : Matching) (levels : Nat) : Datum → Datum → Option Bool
  | .list mark items, second =>
      match second with
      | .list mark' items' =>
          if sameMark mark mark' then some true
          else if items.length ≠ items'.length then some false
          else if levels = 0 then none
          else itemsEqualWithin matching (levels - 1) items items'
      | _ => some false
  | .object mark fields, second =>
      match second with
      | .object mark' fields' =>
          if mark = mark' then some true
          else if fields.length ≠ fields'.length then some false
          else if matching = .strict ∧ namesAmong fields fields' = false then some false
          else if levels = 0 then none
          else fieldsEqualWithin matching (levels - 1) fields fields'
      | _ => some false
  | .nil, second => some (atomsEqual matching .nil second)
  | .bool value, second => some (atomsEqual matching (.bool value) second)
  | .int value, second => some (atomsEqual matching (.int value) second)
  | .double value, second => some (atomsEqual matching (.double value) second)
  | .nan mark, second => some (atomsEqual matching (.nan mark) second)
  | .string text, second => some (atomsEqual matching (.string text) second)
  | .symbol name, second => some (atomsEqual matching (.symbol name) second)
  | .closure mark params body captured self, second =>
      some (atomsEqual matching (.closure mark params body captured self) second)
termination_by structural first => first

/-- Whether two lists of the same length have equal items at all places. -/
def itemsEqualWithin (matching : Matching) (levels : Nat) :
    List Datum → List Datum → Option Bool
  | [], _ => some true
  | item :: rest, items' =>
      match items' with
      | [] => some false
      | item' :: rest' =>
          match equalWithin matching levels item item' with
          | some true => itemsEqualWithin matching levels rest rest'
          | answer => answer
termination_by structural items => items

/-- Whether each of the first fields has an equal field of its name among the second. -/
def fieldsEqualWithin (matching : Matching) (levels : Nat) :
    List (String × Datum) → List (String × Datum) → Option Bool
  | [], _ => some true
  | (name, value) :: rest, fields' =>
      match Table.get? fields' name with
      | none => some false
      | some value' =>
          match equalWithin matching levels value value' with
          | some true => fieldsEqualWithin matching levels rest fields'
          | answer => answer
termination_by structural fields => fields

end

mutual

/-- Whether a relation holds of two data, through a number of levels; the data that have no order
are the error. -/
def relateWithin (relation : Relation) (levels : Nat) :
    Datum → Datum → Option (Except (Datum × Datum) Bool)
  | .list mark items, second =>
      match second with
      | .list _ items' =>
          if levels = 0 then none else relateItemsWithin relation (levels - 1) items items'
      | _ => some (.error (.list mark items, second))
  | .nil, second => some (relateAtoms relation .nil second)
  | .bool value, second => some (relateAtoms relation (.bool value) second)
  | .int value, second => some (relateAtoms relation (.int value) second)
  | .double value, second => some (relateAtoms relation (.double value) second)
  | .nan mark, second => some (relateAtoms relation (.nan mark) second)
  | .string text, second => some (relateAtoms relation (.string text) second)
  | .symbol name, second => some (relateAtoms relation (.symbol name) second)
  | .object mark fields, second => some (relateAtoms relation (.object mark fields) second)
  | .closure mark params body captured self, second =>
      some (relateAtoms relation (.closure mark params body captured self) second)
termination_by structural first => first

/-- Whether a relation holds of two lists: the first items that are not loosely equal decide. -/
def relateItemsWithin (relation : Relation) (levels : Nat) :
    List Datum → List Datum → Option (Except (Datum × Datum) Bool)
  | [], items' => some (.ok (relation.holds (if items'.isEmpty then .eq else .lt)))
  | item :: rest, items' =>
      match items' with
      | [] => some (.ok (relation.holds .gt))
      | item' :: rest' =>
          match equalWithin .loose levels item item' with
          | none => none
          | some true => relateItemsWithin relation levels rest rest'
          | some false => relateWithin relation levels item item'
termination_by structural items => items

end

end Datum

end SandboxLisp
