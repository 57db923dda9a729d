import SandboxLisp.Proofs.Data.Sameness

/-!
# Places inside of data

A path leads from a datum to one of its parts, step by step: to the item at an index of a list, or
to the value of a field of an object.  What is said of all places of a datum at any depth is said of
its paths.
-/

namespace SandboxLisp.Datum

/-- A step from a datum to a part of it. -/
inductive Step where
  | item (index : Nat)
  | field (name : String)

/-- The part that a step leads to, if it leads to one. -/
def child? : Datum → Step → Option Datum
  | .list _ items, .item index => items[index]?
  | .object _ fields, .field name => Table.get? fields name
  | _, _ => none

/-- The part at the end of a path, if the path leads to one. -/
def at? : Datum → List Step → Option Datum
  | datum, [] => some datum
  | datum, step :: path => (datum.child? step).bind fun part => part.at? path

@[simp] theorem at?_nil (datum : Datum) : datum.at? [] = some datum := rfl

@[simp] theorem at?_cons (datum : Datum) (step : Step) (path : List Step) :
    datum.at? (step :: path) = (datum.child? step).bind fun part => part.at? path := rfl

@[simp] theorem child?_list_item (mark : Option Mark) (items : List Datum) (index : Nat) :
    (Datum.list mark items).child? (.item index) = items[index]? := rfl

/-- A path that starts at an item of a list goes on inside of the item. -/
theorem at?_item {mark : Option Mark} {items : List Datum} {index : Nat} {item : Datum}
    (isItem : items[index]? = some item) (path : List Step) :
    (Datum.list mark items).at? (.item index :: path) = item.at? path := by
  rw [at?_cons, child?_list_item, isItem, Option.bind_some]

/-- No step leads into a datum without parts. -/
theorem child?_of_isAtom {datum : Datum} (isAtom : datum.isAtom) (step : Step) :
    datum.child? step = none := by
  cases datum with
  | list => cases isAtom
  | object => cases isAtom
  | _ => cases step <;> rfl

/-- The only place of a datum without parts is the datum itself. -/
theorem at?_eq_some_of_isAtom {datum part : Datum} {path : List Step} (isAtom : datum.isAtom) :
    datum.at? path = some part ↔ path = [] ∧ part = datum := by
  cases path with
  | nil => simp [eq_comm]
  | cons step path => simp [child?_of_isAtom isAtom]

end SandboxLisp.Datum
