import SandboxLisp.Datum.Equality

/-!
# Order of data

Numbers are ordered by value, with booleans as zero and one, strings by the codes of their
characters, and lists by their first items that are not loosely equal, or by length if there are
none.  Other pairs of data have no order.
-/

namespace SandboxLisp

/-- The four order relations. -/
inductive Relation where
  | less
  | greater
  | lessOrEqual
  | greaterOrEqual
deriving DecidableEq, Repr

namespace Relation

/-- The name of the relation in the language. -/
def name : Relation → String
  | .less => "<"
  | .greater => ">"
  | .lessOrEqual => "<="
  | .greaterOrEqual => ">="

/-- Whether the relation holds of two data in a given order. -/
def holds : Relation → Ordering → Bool
  | .less, ordering => ordering == .lt
  | .greater, ordering => ordering == .gt
  | .lessOrEqual, ordering => ordering != .gt
  | .greaterOrEqual, ordering => ordering != .lt

end Relation

namespace Datum

/-- The order of two texts by the codes of their characters. -/
def compareCodes : List Char → List Char → Ordering
  | [], [] => .eq
  | [], _ :: _ => .lt
  | _ :: _, [] => .gt
  | first :: rest, first' :: rest' =>
      match Ord.compare first.toNat first'.toNat with
      | .eq => compareCodes rest rest'
      | ordering => ordering

/-- The number that a datum is compared by. -/
def orderNumber? : Datum → Option Number
  | .bool value => some (numberOfBool value)
  | datum => datum.number?

/-- The relation of two data without items; if they have no order, they are the error. -/
def relateAtoms (relation : Relation) (first second : Datum) : Except (Datum × Datum) Bool :=
  match first.orderNumber?, second.orderNumber? with
  | some left, some right =>
      match left.compare? right with
      | some ordering => .ok (relation.holds ordering)
      | none => .ok false
  | _, _ =>
      match first, second with
      | .string left, .string right =>
          .ok (relation.holds (compareCodes left.toList right.toList))
      | _, _ => .error (first, second)

mutual

/-- Whether a relation holds of two data; the data that have no order are the error. -/
def relate (relation : Relation) : Datum → Datum → Except (Datum × Datum) Bool
  | .list mark items, second =>
      match second with
      | .list _ items' => relateItems relation items items'
      | _ => .error (.list mark items, second)
  | .nil, second => relateAtoms relation .nil second
  | .bool value, second => relateAtoms relation (.bool value) second
  | .int value, second => relateAtoms relation (.int value) second
  | .double value, second => relateAtoms relation (.double value) second
  | .nan mark, second => relateAtoms relation (.nan mark) second
  | .string text, second => relateAtoms relation (.string text) second
  | .symbol name, second => relateAtoms relation (.symbol name) second
  | .object mark fields, second => relateAtoms relation (.object mark fields) second
  | .closure mark params body captured self, second =>
      relateAtoms relation (.closure mark params body captured self) second
termination_by structural first => first

/-- Whether a relation holds of two lists: the first items that are not loosely equal decide. -/
def relateItems (relation : Relation) : List Datum → List Datum → Except (Datum × Datum) Bool
  | [], items' => .ok (relation.holds (if items'.isEmpty then .eq else .lt))
  | item :: rest, items' =>
      match items' with
      | [] => .ok (relation.holds .gt)
      | item' :: rest' =>
          if equalBy .loose item item' then relateItems relation rest rest'
          else relate relation item item'
termination_by structural items => items

end

end Datum

end SandboxLisp
