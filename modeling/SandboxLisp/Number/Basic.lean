import SandboxLisp.Double.Arithmetic
import SandboxLisp.Number.Error

/-!
# Numbers

A number is an integer of any size, a double, or the result that is not a number.  Arithmetic on two
integers is exact; if either operand is a double, the other is converted to the nearest double
first.  Comparison is exact for every mixture.
-/

namespace SandboxLisp

/-- A number. -/
inductive Number where
  | int (value : Int)
  | double (value : Double)
  | nan
deriving DecidableEq, Inhabited

namespace Number

/-- The number for the result of an operation on doubles. -/
def ofResult : Option Double → Number
  | some value => .double value
  | none => .nan

/-- The double nearest to a number; `none` stands for what is not a number. -/
def toDouble : Number → Except NumberError (Option Double)
  | .int value =>
      (Double.ofInt? value).elim (.error .integerTooLarge) fun nearest => .ok (some nearest)
  | .double value => .ok (some value)
  | .nan => .ok none

/-- An operation on two doubles, carried over to results. -/
def onDoubles (operation : Double → Double → Option Double) (first second : Number) :
    Except NumberError Number := do
  let left ← first.toDouble
  let right ← second.toDouble
  return ofResult do operation (← left) (← right)

/-- An operation that is exact on integers and goes through doubles otherwise. -/
def arithmetic (onIntegers : Int → Int → Int) (operation : Double → Double → Option Double) :
    Number → Number → Except NumberError Number
  | .int first, .int second => .ok (.int (onIntegers first second))
  | first, second => onDoubles operation first second

/-- The sum of two numbers. -/
def add : Number → Number → Except NumberError Number :=
  arithmetic (· + ·) Double.add

/-- The difference of two numbers. -/
def sub : Number → Number → Except NumberError Number :=
  arithmetic (· - ·) Double.sub

/-- The product of two numbers. -/
def mul : Number → Number → Except NumberError Number :=
  arithmetic (· * ·) Double.mul

/-- The quotient of two numbers, the second of which is not zero; of two integers it is the double
nearest to the exact quotient. -/
def div : Number → Number → Except NumberError Number
  | .int first, .int second =>
      (Double.ofRatio? first second).elim (.error .quotientTooLarge) fun quotient =>
        .ok (.double quotient)
  | first, second => onDoubles Double.div first second

/-- The number with the opposite sign. -/
def neg : Number → Number
  | .int value => .int (-value)
  | .double value => .double value.neg
  | .nan => .nan

/-- The number without its sign. -/
def abs : Number → Number
  | .int value => .int value.natAbs
  | .double value => .double value.abs
  | .nan => .nan

/-- The order of two numbers; none if either is not a number. -/
def compare? : Number → Number → Option Ordering
  | .int first, .int second => some (Ord.compare first second)
  | .int first, .double second => some (second.compareInt first)
  | .double first, .int second => some (first.compareInt second).swap
  | .double first, .double second => some (first.compare second)
  | _, _ => none

/-- Whether two numbers are numerically equal. -/
def equal (first second : Number) : Bool :=
  compare? first second == some .eq

/-- Whether the first number is below the second. -/
def less (first second : Number) : Bool :=
  compare? first second == some .lt

/-- Whether the number is a zero. -/
def isZero : Number → Bool
  | .int value => value == 0
  | .double value => value.isZero
  | .nan => false

/-- The remainder of a division whose quotient is rounded towards zero, so that it has the sign of
the first number; the second is not zero. -/
def remainder (first second : Number) : Except NumberError Number := do
  let rest ← arithmetic (fun a b => a % b) Double.remainder first.abs second.abs
  return if first.less (.int 0) then rest.neg else rest

/-- The largest integer that is not above a number. -/
def floor : Number → Except NumberError Int
  | .int value => .ok value
  | .double value => value.floor?.elim (.error .infinityToInteger) .ok
  | .nan => .error .nanToInteger

/-- The smallest integer that is not below a number. -/
def ceil : Number → Except NumberError Int
  | .int value => .ok value
  | .double value => value.ceil?.elim (.error .infinityToInteger) .ok
  | .nan => .error .nanToInteger

/-- A number without its fraction. -/
def truncate : Number → Except NumberError Int
  | .int value => .ok value
  | .double value => value.truncate?.elim (.error .infinityToInteger) .ok
  | .nan => .error .nanToInteger

/-- The double one half. -/
def half : Double := Double.nearest false Double.unitsPerOne 2

/-- The floor of the number increased by one half, the increase taken as a double. -/
def round (number : Number) : Except NumberError Int := do
  floor (← add number (.double half))

/-- The integer that a number is equal to, whichever way it is held. -/
def toInt? : Number → Option Int
  | .int value => some value
  | .double value => value.toInt?
  | .nan => none

end Number

end SandboxLisp
