import SandboxLisp.Primitive.Lists

/-!
# Object primitives

The keys of an object are strings; any other key stands for its display text.  Objects keep the
order in which their keys were first written, and are never changed.
-/

namespace SandboxLisp.Primitive

open Eval

/-- The key that a datum stands for. -/
def keyOf : Datum → Eval String
  | .string text => pure text
  | other => text .display other

/-- Fields written in order from keys and values by turns; a last key without a value gets nil. -/
def writePairs (fields : List (String × Datum)) : List Datum → Eval (List (String × Datum))
  | [] => pure fields
  | [key] => do return Table.put fields (← keyOf key) .nil
  | key :: value :: rest => do
      let name ← keyOf key
      writePairs (Table.put fields name value) rest

/-- `(obj k v ...)` is the object with the given fields. -/
def object : Primitive :=
  variadic fun arguments => do newObject (← writePairs [] arguments)

/-- What a key leads to from a datum; nil if it leads nowhere. -/
def follow (current key : Datum) : Eval Datum :=
  match current with
  | .object _ fields => do return (Table.get? fields (← keyOf key)).getD .nil
  | .list _ items =>
      return match key.number?.bind Number.toInt? with
        | some index => (itemAt? items index).getD .nil
        | none => .nil
  | .string characters =>
      return match key.number?.bind Number.toInt? with
        | some index => ((itemAt? characters.toList index).map fun found => ofChars [found]).getD .nil
        | none => .nil
  | _ => return .nil

/-- Follows keys one after another; nil ends the way. -/
def followAll (current : Datum) : List Datum → Eval Datum
  | [] => pure current
  | key :: rest => do
      match current with
      | .nil => return .nil
      | _ => followAll (← follow current key) rest

/-- `(get target key...)` follows keys through objects, lists and strings. -/
def get : Primitive :=
  atLeastOne "get" followAll

/-- `(keys obj)` is the list of keys. -/
def keys : Primitive :=
  unary "keys" fun argument => do
    newList ((← expectObject "keys" argument).map fun field => .string field.1)

/-- `(values obj)` is the list of values. -/
def values : Primitive :=
  unary "values" fun argument => do
    newList ((← expectObject "values" argument).map fun field => field.2)

/-- `(has-key obj k)` tells whether an object has a key. -/
def hasKey : Primitive :=
  binary "has-key" fun target key => do
    let name ← keyOf key
    return .bool (Table.has (← expectObject "has-key" target) name)

/-- `(set obj k v)` is the object with a field written; nil counts as the empty object. -/
def set : Primitive :=
  ternary "set" fun target key value => do
    let fields ← match target with
      | .nil => pure []
      | other => expectObject "set" other
    newObject (Table.put fields (← keyOf key) value)

/-- The largest index that can be asked for. -/
def indexBound : Nat := 2 ^ 63

/-- A list with an item written at an index; nil fills the places up to it. -/
def writeAt (items : List Datum) (index : Nat) (item : Datum) : List Datum :=
  if index < items.length then items.set index item
  else items ++ List.replicate (index - items.length) .nil ++ [item]

/-- `(update-at list i x)` is the list with an item written at an index. -/
def updateAt : Primitive :=
  ternary "update-at" fun list indexArgument item => do
    let items ← expectList "update-at" list
    let index ← expectInteger "update-at" indexArgument
    if index < 0 then
      if Datum.isWritableInteger index then fail (.type (.negativeIndex index))
      else fail (.number .integerTooLong)
    else if indexBound ≤ index.toNat + 1 - items.length then fail (.number .indexTooLarge)
    else if listBound ≤ index.toNat then fail (.number .listTooLarge)
    else newList (writeAt items index.toNat item)

/-- Writes the fields of several objects one after another; nil counts as the empty object. -/
def mergeAll (fields : List (String × Datum)) : List Datum → Eval (List (String × Datum))
  | [] => pure fields
  | .nil :: rest => mergeAll fields rest
  | argument :: rest => do
      let others ← expectObject "merge" argument
      mergeAll (Table.putAll fields others) rest

/-- `(merge obj...)` is the object with the fields of all; later values win. -/
def merge : Primitive :=
  variadic fun arguments => do newObject (← mergeAll [] arguments)

/-- The object primitives by name. -/
def objects : List (String × Primitive) :=
  [("obj", object), ("get", get), ("set", set), ("keys", keys), ("values", values),
    ("has-key", hasKey), ("update-at", updateAt), ("merge", merge)]

end SandboxLisp.Primitive
