import SandboxLisp.Eval.Calls

/-!
# Primitives

A primitive is given a way to evaluate an expression one level deeper in the caller's scope, and its
arguments, which are evaluated already.  It runs in the caller's scope.  The combinators of this
module check the number of arguments, and the expectations check their types.
-/

namespace SandboxLisp

/-- An operation that evaluated code can call by name. -/
abbrev Primitive := (Datum → Eval Datum) → List Datum → Eval Datum

namespace Primitive

open Eval

/-- The failure of a primitive with a wrong number of arguments. -/
def argumentsError (name : String) (least : Nat) (most : Option Nat) (arguments : List Datum) :
    EvalError :=
  .arity (.arguments name least most arguments.length)

/-- A primitive with any number of arguments. -/
def variadic (body : List Datum → Eval Datum) : Primitive :=
  fun _ arguments => body arguments

/-- A primitive with at least one argument. -/
def atLeastOne (name : String) (body : Datum → List Datum → Eval Datum) : Primitive :=
  fun _ arguments =>
    match arguments with
    | first :: rest => body first rest
    | [] => fail (argumentsError name 1 none [])

/-- A primitive with one argument. -/
def unary (name : String) (body : Datum → Eval Datum) : Primitive :=
  fun _ arguments =>
    match arguments with
    | [argument] => body argument
    | _ => fail (argumentsError name 1 (some 1) arguments)

/-- A primitive with two arguments. -/
def binary (name : String) (body : Datum → Datum → Eval Datum) : Primitive :=
  fun _ arguments =>
    match arguments with
    | [first, second] => body first second
    | _ => fail (argumentsError name 2 (some 2) arguments)

/-- A primitive with three arguments. -/
def ternary (name : String) (body : Datum → Datum → Datum → Eval Datum) : Primitive :=
  fun _ arguments =>
    match arguments with
    | [first, second, third] => body first second third
    | _ => fail (argumentsError name 3 (some 3) arguments)

/-- A primitive with one or two arguments. -/
def oneOrTwo (name : String) (body : Datum → Option Datum → Eval Datum) : Primitive :=
  fun _ arguments =>
    match arguments with
    | [first] => body first none
    | [first, second] => body first (some second)
    | _ => fail (argumentsError name 1 (some 2) arguments)

/-- A primitive with two or three arguments. -/
def twoOrThree (name : String) (body : Datum → Datum → Option Datum → Eval Datum) : Primitive :=
  fun _ arguments =>
    match arguments with
    | [first, second] => body first second none
    | [first, second, third] => body first second (some third)
    | _ => fail (argumentsError name 2 (some 3) arguments)

/-- A primitive with one to three arguments. -/
def oneToThree (name : String) (body : Datum → Option Datum → Option Datum → Eval Datum) :
    Primitive :=
  fun _ arguments =>
    match arguments with
    | [first] => body first none none
    | [first, second] => body first (some second) none
    | [first, second, third] => body first (some second) (some third)
    | _ => fail (argumentsError name 1 (some 3) arguments)

/-- The number that an argument has to be. -/
def expectNumber (name : String) (argument : Datum) : Eval Number :=
  match argument.number? with
  | some number => pure number
  | none => fail (expectedError name .number argument)

/-- The integer that an argument has to be equal to. -/
def expectInteger (name : String) (argument : Datum) : Eval Int :=
  match argument.number? with
  | some number =>
      match number.toInt? with
      | some value => pure value
      | none => fail (expectedError name .integer argument)
  | none => fail (expectedError name .integer argument)

/-- The characters of an argument that has to be a string. -/
def expectString (name : String) : Datum → Eval (List Char)
  | .string text => pure text.toList
  | other => fail (expectedError name .string other)

/-- The fields of an argument that has to be an object. -/
def expectObject (name : String) : Datum → Eval (List (String × Datum))
  | .object _ fields => pure fields
  | other => fail (expectedError name .object other)

/-- An argument that may be left out, or be nil to the same effect. -/
def given? : Option Datum → Option Datum
  | some .nil => none
  | argument => argument

/-- The datum of a text. -/
def ofChars (characters : List Char) : Datum :=
  .string (String.ofList characters)

/-- The display text of a datum, or nothing for nil. -/
def displayOrNothing : Datum → Eval String
  | .nil => pure ""
  | other => text .display other

end Primitive

end SandboxLisp
