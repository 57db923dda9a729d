import SandboxLisp.Number.Basic
import SandboxLisp.Table

/-!
# Data

Expressions and values are data of one type: what is read from a text is a datum, and evaluating it
gives a datum.  Symbols stand for names in expressions; closures arise only from evaluation.

Two closures are the same only if one evaluation made them both, and two results that are not a
number likewise, so these two carry a mark that is drawn afresh whenever one of them is made.  The
lists and objects that evaluation makes carry a mark too: those with one mark are one, and need not
be gone through to be known as equal.  The lists of an expression carry none.
-/

namespace SandboxLisp

/-- Tells apart data that are made at different moments. -/
abbrev Mark := Nat

/-- An expression or a value. -/
inductive Datum where
  | nil
  | bool (value : Bool)
  | int (value : Int)
  | double (value : Double)
  /-- A result that is not a number. -/
  | nan (mark : Mark)
  | string (text : String)
  | symbol (name : String)
  /-- Items in order, with the mark of a list that evaluation made. -/
  | list (mark : Option Mark) (items : List Datum)
  /-- Named fields in order of insertion. -/
  | object (mark : Mark) (fields : List (String × Datum))
  /-- A function: the names of its parameters, its body, the scope in which it was made, and the
  name by which its body may call it, if it has one. -/
  | closure (mark : Mark) (params : List String) (body : Datum) (captured : List (String × Datum))
      (self : Option String)
deriving Inhabited

/-- How many levels an evaluation or a walk through nested data may take at most, whatever the limit.

This is an idealisation.  The host bounds the frames of its stack, of which a level takes several,
and how many depends on the walk, so it may give up at some hundred levels already.  What is stated
of bounded walks is therefore stated for every bound. -/
def levelBound : Nat := 1000

/-- The bindings that are visible at one place of a program. -/
abbrev Scope := List (String × Datum)

/-- A function value, taken apart. -/
structure Closure where
  mark : Mark
  params : List String
  body : Datum
  captured : Scope
  self : Option String

namespace Closure

/-- The datum of a function. -/
def toDatum (closure : Closure) : Datum :=
  .closure closure.mark closure.params closure.body closure.captured closure.self

/-- The scope that the function was made in; a function with a name of its own sees itself. -/
def scope (closure : Closure) : Scope :=
  match closure.self with
  | none => closure.captured
  | some name => Table.put closure.captured name closure.toDatum

/-- The scope of a call: parameters are bound in order, surplus arguments are dropped, and a
parameter without an argument stays unbound. -/
def bind (closure : Closure) (arguments : List Datum) : Scope :=
  Table.putAll closure.scope (closure.params.zip arguments)

end Closure

namespace Datum

/-- The function that a datum is, if it is one. -/
def closure? : Datum → Option Closure
  | .closure mark params body captured self => some ⟨mark, params, body, captured, self⟩
  | _ => none

/-- The number that a datum is, if it is one. -/
def number? : Datum → Option Number
  | .int value => some (.int value)
  | .double value => some (.double value)
  | .nan _ => some .nan
  | _ => none

/-- Whether the datum is a number. -/
def isNumber (datum : Datum) : Bool :=
  datum.number?.isSome

/-- Everything counts as true except nil and false. -/
def isTruthy : Datum → Bool
  | .nil => false
  | .bool value => value
  | _ => true

/-- Nil, false, a zero, and an empty string, list or object leave an option unset. -/
def isUnset : Datum → Bool
  | .nil => true
  | .bool value => !value
  | .int value => value == 0
  | .double value => value.isZero
  | .string text => text.isEmpty
  | .list _ items => items.isEmpty
  | .object _ fields => fields.isEmpty
  | _ => false

/-- The name of the datum's type in the language. -/
def typeName : Datum → String
  | .nil => "null"
  | .bool _ => "boolean"
  | .int _ | .double _ | .nan _ => "number"
  | .string _ => "string"
  | .symbol _ => "Symbol"
  | .list _ _ => "list"
  | .object _ _ => "object"
  | .closure _ _ _ _ _ => "function"

/-- The name of the datum's type in messages about operands of an order. -/
def operandName : Datum → String
  | .nil => "NoneType"
  | .bool _ => "bool"
  | .int _ => "int"
  | .double _ | .nan _ => "float"
  | .string _ => "str"
  | .symbol _ => "Symbol"
  | .list _ _ => "list"
  | .object _ _ => "dict"
  | .closure _ _ _ _ _ => "Closure"

mutual

/-- How deep lists are nested in a datum. -/
def nesting : Datum → Nat
  | .list _ items => itemNesting items + 1
  | _ => 0
termination_by structural datum => datum

/-- The deepest nesting among the items of a list. -/
def itemNesting : List Datum → Nat
  | [] => 0
  | item :: rest => max (nesting item) (itemNesting rest)
termination_by structural items => items

end

/-- Whether lists are nested beyond the levels that are gone through, if these are bounded. -/
def exceeds (datum : Datum) (levels : Option Nat) : Bool :=
  levels.any (· < datum.nesting)

/-- The function of a closure's datum is the closure. -/
@[simp] theorem closure?_toDatum (closure : Closure) : closure.toDatum.closure? = some closure := rfl

/-- Only the datum of a function is a function. -/
theorem eq_toDatum_of_closure? {datum : Datum} {closure : Closure}
    (found : datum.closure? = some closure) : datum = closure.toDatum := by
  cases datum <;> simp only [closure?, Option.some.injEq, reduceCtorEq] at found
  subst found
  rfl

end Datum

end SandboxLisp
