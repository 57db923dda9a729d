import SandboxLisp.Double.Basic

/-!
# Elementary functions of doubles

The sign, exponent and fraction of a double make up a word of 64 bits.  Through the word a double
passes to the machine's own numbers, whose library computes roots, powers, exponentials, logarithms
and the circular functions.
-/

namespace SandboxLisp.Double

/-- The word of a double.  A magnitude is numbered by its shift and mantissa together. -/
def toBits : Double → UInt64
  | .finite negative magnitude =>
      signBit negative ||| UInt64.ofNat (magnitude.shift * 2 ^ 52 + magnitude.mantissa)
  | .infinite negative => signBit negative ||| 0x7ff0000000000000
where
  signBit (negative : Bool) : UInt64 := if negative then 0x8000000000000000 else 0

/-- The double of a word; none if the word is not a number. -/
def ofBits? (word : UInt64) : Option Double :=
  let negative := 0x8000000000000000 ≤ word
  let code := (word &&& 0x7fffffffffffffff).toNat
  if code < 2 ^ 53 then (Magnitude.ofParts? code 0).map (.finite negative)
  else if code < 0x7ff0000000000000 then
    let shift := code / 2 ^ 52 - 1
    (Magnitude.ofParts? (code - shift * 2 ^ 52) shift).map (.finite negative)
  else if code = 0x7ff0000000000000 then some (.infinite negative)
  else none

/-- The machine's number for a double. -/
def toFloat (value : Double) : Float :=
  Float.ofBits value.toBits

/-- The double for a machine's number; none if it is not a number. -/
def ofFloat? (value : Float) : Option Double :=
  ofBits? value.toBits

/-- The square root; none below zero. -/
def sqrt (value : Double) : Option Double :=
  ofFloat? value.toFloat.sqrt

/-- The sine; none of an infinite argument. -/
def sin (value : Double) : Option Double :=
  ofFloat? value.toFloat.sin

/-- The cosine; none of an infinite argument. -/
def cos (value : Double) : Option Double :=
  ofFloat? value.toFloat.cos

/-- The tangent; none of an infinite argument. -/
def tan (value : Double) : Option Double :=
  ofFloat? value.toFloat.tan

/-- The exponential; infinite beyond the range of doubles. -/
def exp (value : Double) : Option Double :=
  ofFloat? value.toFloat.exp

/-- The natural logarithm; none below zero. -/
def log (value : Double) : Option Double :=
  ofFloat? value.toFloat.log

/-- The power of a base; none for a negative base and an exponent that is not whole. -/
def pow (base exponent : Double) : Option Double :=
  ofFloat? (base.toFloat.pow exponent.toFloat)

end SandboxLisp.Double
