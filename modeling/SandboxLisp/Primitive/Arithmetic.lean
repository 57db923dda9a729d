import SandboxLisp.Primitive.Basic

/-!
# Arithmetic primitives

Addition also joins strings: one string among the arguments turns all of them into text.  Booleans
can be added but take part in no other arithmetic.
-/

namespace SandboxLisp.Primitive

open Eval

/-- Whether the datum is a string. -/
def isString : Datum → Bool
  | .string _ => true
  | _ => false

/-- The sum of numbers, added one after another to the integer zero. -/
def sum (terms : List Number) : Except NumberError Number :=
  terms.foldlM Number.add (.int 0)

/-- `(+ x...)` adds numbers, or joins display texts if there is a string among the arguments. -/
def add : Primitive :=
  variadic fun arguments => do
    if arguments.any isString then
      return .string (String.join (← arguments.mapM displayOrNothing))
    else
      match arguments.mapM Datum.orderNumber? with
      | some terms => number (← ofNumber (sum terms))
      | none => fail (.type .notAddable)

/-- `(- x y...)` subtracts from the first number, or changes the sign of a single one. -/
def subtract : Primitive :=
  atLeastOne "-" fun first rest => do
    let start ← expectNumber "-" first
    let others ← rest.mapM (expectNumber "-")
    match others with
    | [] => number start.neg
    | _ => number (← ofNumber (others.foldlM Number.sub start))

/-- `(* x...)` multiplies numbers. -/
def multiply : Primitive :=
  variadic fun arguments => do
    let product ← arguments.foldlM (fun product argument => do
      let factor ← expectNumber "*" argument
      ofNumber (product.mul factor)) (Number.int 1)
    number product

/-- Divides a number by several, one after another. -/
def divideAll (start : Number) (divisors : List Number) : Eval Number :=
  divisors.foldlM (fun quotient divisor =>
    if divisor.isZero then fail (.arithmetic .divisionByZero)
    else ofNumber (quotient.div divisor)) start

/-- `(/ x y...)` divides the first number by the others, and gives a single one back. -/
def divide : Primitive :=
  atLeastOne "/" fun first rest => do
    let start ← expectNumber "/" first
    let divisors ← rest.mapM (expectNumber "/")
    match divisors with
    | [] => return first
    | _ => number (← divideAll start divisors)

/-- `(% n d)` is the remainder with the sign of the first number. -/
def modulo : Primitive :=
  binary "%" fun first second => do
    let dividend ← expectNumber "%" first
    let divisor ← expectNumber "%" second
    if divisor.isZero then fail (.arithmetic .moduloByZero)
    else number (← ofNumber (dividend.remainder divisor))

/-- The arithmetic primitives by name. -/
def arithmetic : List (String × Primitive) :=
  [("+", add), ("-", subtract), ("*", multiply), ("/", divide), ("%", modulo)]

end SandboxLisp.Primitive
