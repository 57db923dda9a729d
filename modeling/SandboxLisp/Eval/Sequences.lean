import SandboxLisp.Eval.Calls
import SandboxLisp.Form
import SandboxLisp.Sorting

/-!
# Sequences: a function for each item

The forms of this module evaluate something for each item of a list.  It is written as a function,
which is called with the item, or as an expression, which is evaluated with the item bound to the
names `@` and `it`.  A symbol or a function literal counts as a function if its value is one; if the
value of an expression is a function, that function is called with the item.
-/

namespace SandboxLisp.Eval

/-- Whether an expression is taken for a function and evaluated once, before the items. -/
def isFunctionPlace : Datum → Bool
  | .symbol _ => true
  | .list _ (.symbol head :: _) => Form.isLambdaName head
  | _ => false

/-- A scope in which an item is bound to its two names. -/
def itemScope (scope : Scope) (item : Datum) : Scope :=
  Table.putAll scope [("@", item), ("it", item)]

/-- An expression evaluated for an item. -/
def inlineItem (recur : Datum → Eval Datum) (expression item : Datum) : Eval Datum := do
  let value ← inScope (itemScope (← scope) item) (recur expression)
  match value.closure? with
  | some closure => applyClosure recur closure [item]
  | none => return value

/-- What is evaluated for each item. -/
def itemFunction (recur : Datum → Eval Datum) (expression : Datum) :
    Eval (Datum → Eval Datum) := do
  if isFunctionPlace expression then
    match (← recur expression).closure? with
    | some closure => return fun item => applyClosure recur closure [item]
    | none => return inlineItem recur expression
  else return inlineItem recur expression

/-- The items whose value counts as true. -/
def keep (function : Datum → Eval Datum) : List Datum → Eval (List Datum)
  | [] => pure []
  | item :: rest => do
      let value ← function item
      let kept ← keep function rest
      return if value.isTruthy then item :: kept else kept

/-- The first item whose value counts as true, with its index counted from `index`. -/
def search (function : Datum → Eval Datum) (index : Nat) : List Datum → Eval (Option (Nat × Datum))
  | [] => pure none
  | item :: rest => do
      if (← function item).isTruthy then return some (index, item)
      else search function (index + 1) rest

/-- `(filter fn list)` gives the items whose value counts as true. -/
def filter (recur : Datum → Eval Datum) : List Datum → Eval Datum
  | [expression, list] => do
      let function ← itemFunction recur expression
      let items ← expectList "filter" (← recur list)
      newList (← keep function items)
  | operands => fail (operandsError "filter" [2] operands)

/-- `(map fn list)` gives the values of all items. -/
def map (recur : Datum → Eval Datum) : List Datum → Eval Datum
  | [expression, list] => do
      let function ← itemFunction recur expression
      let items ← expectList "map" (← recur list)
      newList (← items.mapM function)
  | operands => fail (operandsError "map" [2] operands)

/-- `(find list fn)` gives the first item whose value counts as true, or nil. -/
def find (recur : Datum → Eval Datum) : List Datum → Eval Datum
  | [list, expression] => do
      let items ← expectList "find" (← recur list)
      let function ← itemFunction recur expression
      match ← search function 0 items with
      | some (_, item) => return item
      | none => return .nil
  | operands => fail (operandsError "find" [2] operands)

/-- `(find-index list fn)` gives the index of the first item whose value counts as true, or -1. -/
def findIndex (recur : Datum → Eval Datum) : List Datum → Eval Datum
  | [list, expression] => do
      let items ← expectList "find-index" (← recur list)
      let function ← itemFunction recur expression
      match ← search function 0 items with
      | some (index, _) => return .int index
      | none => return .int (-1)
  | operands => fail (operandsError "find-index" [2] operands)

/-- `(count list [fn])` gives the number of items, or of those whose value counts as true. -/
def count (recur : Datum → Eval Datum) : List Datum → Eval Datum
  | [list] => do
      let items ← expectList "count" (← recur list)
      return .int items.length
  | [list, expression] => do
      let items ← expectList "count" (← recur list)
      let function ← itemFunction recur expression
      return .int (← keep function items).length
  | operands => fail (operandsError "count" [1, 2] operands)

/-- An item of a list that is sorted: its key, its place, and itself. -/
structure Keyed where
  key : Datum
  place : Nat
  item : Datum

/-- The keys of the items, from the place `place` on. -/
def keyed (function : Datum → Eval Datum) (place : Nat) : List Datum → Eval (List Keyed)
  | [] => pure []
  | item :: rest => do
      let key ← function item
      let others ← keyed function (place + 1) rest
      return ⟨key, place, item⟩ :: others

/-- Whether one item goes before another: equal keys leave it to the place, and keys without an
order are a failure. -/
def goesBefore (around : Surroundings) (first second : Keyed) : Except EvalError Bool := do
  if ← around.equal .loose first.key second.key then return first.place < second.place
  else
    match ← around.relate .less first.key second.key with
    | .ok answer => return answer
    | .error (left, right) =>
        throw (.type (.incomparableKeys left.operandName right.operandName))

/-- `(sort-by list fn)` gives the items in the order of their values; equal values keep the order of
the list. -/
def sortBy (recur : Datum → Eval Datum) : List Datum → Eval Datum
  | [list, expression] => do
      let items ← expectList "sort-by" (← recur list)
      let function ← itemFunction recur expression
      let keys ← keyed function 0 items
      let sorted ← ofExcept (Sorting.sort (goesBefore (← surroundings)) keys)
      newList (sorted.map Keyed.item)
  | operands => fail (operandsError "sort-by" [2] operands)

end SandboxLisp.Eval
