import SandboxLisp.Primitive.Basic
import SandboxLisp.Text.Search

/-!
# List primitives

Lists are never changed: every primitive gives a new list.  An index outside a list gives nil.
-/

namespace SandboxLisp.Primitive

open Eval

/-- `(list x...)` is the list of the arguments. -/
def list : Primitive :=
  variadic newList

/-- The most items that a list can have. -/
def listBound : Nat := 2 ^ 40

/-- The numbers from `current` on by steps up to the end, behind the numbers of `before`, which is in
reverse order.  A step that does not move has no end, and neither it nor a list beyond the bound
fits into memory. -/
def steps (bound : Nat) (finish step : Number) (current : Number) (before : List Number) :
    Except NumberError (List Number) :=
  let goesOn := if (Number.int 0).less step then current.less finish else finish.less current
  if goesOn then
    match bound with
    | 0 => .error .listTooLarge
    | bound + 1 => do
        let next ← current.add step
        if next = current then .error .listTooLarge
        else steps bound finish step next (current :: before)
  else .ok before.reverse

/-- The numbers from a start up to an end, without it, by a step; a step of zero counts as one. -/
def progression (start finish step : Number) : Except NumberError (List Number) :=
  steps listBound finish (if step.isZero then .int 1 else step) start []

/-- `(range end)`, `(range start end)` and `(range start end step)` list numbers. -/
def range : Primitive :=
  oneToThree "range" fun first second third => do
    let (start, finish) ← match second with
      | none => do pure (Number.int 0, ← expectNumber "range" first)
      | some finish => do pure (← expectNumber "range" first, ← expectNumber "range" finish)
    let step ← match third with
      | none => pure (Number.int 1)
      | some argument => expectNumber "range" argument
    let numbers ← ofNumber (progression start finish step)
    newList (← numbers.mapM number)

/-- `(length list-or-str)` is the number of items or characters. -/
def length : Primitive :=
  unary "length" fun argument =>
    match argument with
    | .list _ items => return .int items.length
    | .string characters => return .int characters.length
    | other => fail (expectedError "length" .listOrString other)

/-- `(first list)` is the first item, or nil. -/
def first : Primitive :=
  unary "first" fun argument => return (← expectList "first" argument).head?.getD .nil

/-- `(rest list)` is the list without its first item. -/
def rest : Primitive :=
  unary "rest" fun argument => do newList ((← expectList "rest" argument).drop 1)

/-- `(last list)` is the last item, or nil. -/
def last : Primitive :=
  unary "last" fun argument => return (← expectList "last" argument).getLast?.getD .nil

/-- The item at an index, if there is one. -/
def itemAt? {α : Type} (items : List α) (index : Int) : Option α :=
  if index < 0 then none else items[index.toNat]?

/-- `(nth list i)` is the item at an index, or nil. -/
def nth : Primitive :=
  binary "nth" fun list index => do
    let items ← expectList "nth" list
    return (itemAt? items (← expectInteger "nth" index)).getD .nil

/-- `(append list x)` puts an item behind the others. -/
def append : Primitive :=
  binary "append" fun list item => do newList ((← expectList "append" list) ++ [item])

/-- `(prepend list x)` puts an item before the others. -/
def prepend : Primitive :=
  binary "prepend" fun list item => do newList (item :: (← expectList "prepend" list))

/-- `(concat-lists list...)` joins lists. -/
def concatLists : Primitive :=
  variadic fun arguments => do newList (← arguments.mapM (expectList "concat-lists")).flatten

/-- The place that an index stands for: a negative one counts from the end, and all are moved into
the list. -/
def slicePlace (size : Nat) (index : Int) : Nat :=
  if index < 0 then (index + size).toNat else min index.toNat size

/-- `(slice list [start] [end])` is a part of a list; negative indices count from the end. -/
def slice : Primitive :=
  oneToThree "slice" fun list startArgument endArgument => do
    let items ← expectList "slice" list
    let start ← match given? startArgument with
      | some argument => slicePlace items.length <$> expectInteger "slice" argument
      | none => pure 0
    let stop ← match given? endArgument with
      | some argument => slicePlace items.length <$> expectInteger "slice" argument
      | none => pure items.length
    newList ((items.drop start).take (stop - start))

/-- `(reverse list)` is the list in reverse order. -/
def reverse : Primitive :=
  unary "reverse" fun argument => do newList (← expectList "reverse" argument).reverse

/-- `(empty? list-or-str)` tells whether there are no items or characters. -/
def isEmpty : Primitive :=
  unary "empty?" fun argument =>
    match argument with
    | .list _ items => return .bool items.isEmpty
    | .string characters => return .bool characters.isEmpty
    | other => fail (expectedError "empty?" .listOrString other)

/-- The index of the first item that is equal to a datum, counted from `index`. -/
def indexAmong (needle : Datum) (index : Nat) : List Datum → Eval (Option Nat)
  | [] => pure none
  | item :: rest => do
      if ← equal item needle then return some index
      else indexAmong needle (index + 1) rest

/-- The index of an item in a list or of a part in a string. -/
def indexIn (haystack needle : Datum) : Eval (Option Nat) :=
  match haystack, needle with
  | .string characters, .string pattern => return Text.find? pattern.toList characters.toList
  | .string _, _ => return none
  | .list _ items, _ => indexAmong needle 0 items
  | other, _ => fail (expectedError "index-of" .list other)

/-- `(contains list-or-str x)` tells whether there is an equal item or such a part. -/
def contains : Primitive :=
  binary "contains" fun haystack needle => return .bool (← indexIn haystack needle).isSome

/-- `(index-of list-or-str x)` is the index of the first equal item or such part, or -1. -/
def indexOf : Primitive :=
  binary "index-of" fun haystack needle => do
    match ← indexIn haystack needle with
    | some index => return .int index
    | none => return .int (-1)

/-- The list primitives by name. -/
def lists : List (String × Primitive) :=
  [("list", list), ("length", length), ("first", first), ("rest", rest), ("last", last),
    ("nth", nth), ("append", append), ("prepend", prepend), ("concat-lists", concatLists),
    ("slice", slice), ("reverse", reverse), ("range", range), ("empty?", isEmpty),
    ("contains", contains), ("index-of", indexOf)]

end SandboxLisp.Primitive
