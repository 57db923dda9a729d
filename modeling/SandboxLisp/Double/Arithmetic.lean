import SandboxLisp.Double.Basic

/-!
# Arithmetic of doubles

Each operation takes the exact result and rounds it once; a result that is not a number is `none`.
A zero result of an addition is negative only if both terms are, and a zero result of a product or
quotient has the sign of the product of the signs.
-/

namespace SandboxLisp.Double

/-- The double with the opposite sign. -/
def neg : Double → Double
  | .finite negative magnitude => .finite (!negative) magnitude
  | .infinite negative => .infinite (!negative)

/-- The double without its sign. -/
def abs : Double → Double
  | .finite _ magnitude => .finite false magnitude
  | .infinite _ => .infinite false

/-- The sum of two doubles. -/
def add : Double → Double → Option Double
  | .finite negative magnitude, .finite negative' magnitude' =>
      let sum := signedUnits negative magnitude + signedUnits negative' magnitude'
      if sum = 0 then some (.zero (negative && negative'))
      else some (nearest (sum < 0) sum.natAbs 1)
  | .infinite negative, .infinite negative' =>
      if negative = negative' then some (.infinite negative) else none
  | .infinite negative, .finite _ _ => some (.infinite negative)
  | .finite _ _, .infinite negative => some (.infinite negative)

/-- The difference of two doubles. -/
def sub (first second : Double) : Option Double :=
  add first (neg second)

/-- The product of two doubles. -/
def mul : Double → Double → Option Double
  | .finite negative magnitude, .finite negative' magnitude' =>
      some (nearest (negative != negative') (magnitude.units * magnitude'.units) unitsPerOne)
  | first, second =>
      if first.isZero || second.isZero then none
      else some (.infinite (first.isNegative != second.isNegative))

/-- The quotient of two doubles. -/
def div : Double → Double → Option Double
  | .finite negative magnitude, .finite negative' magnitude' =>
      if magnitude'.mantissa = 0 then
        if magnitude.mantissa = 0 then none else some (.infinite (negative != negative'))
      else
        some (nearest (negative != negative') (magnitude.units * unitsPerOne) magnitude'.units)
  | .infinite _, .infinite _ => none
  | .infinite negative, .finite negative' _ => some (.infinite (negative != negative'))
  | .finite negative _, .infinite negative' => some (.zero (negative != negative'))

/-- The remainder of the magnitudes of two doubles, which is exact. -/
def remainder : Double → Double → Option Double
  | .finite _ magnitude, .finite _ magnitude' =>
      if magnitude'.mantissa = 0 then none
      else some (nearest false (magnitude.units % magnitude'.units) 1)
  | .finite _ magnitude, .infinite _ => some (.finite false magnitude)
  | .infinite _, _ => none

end SandboxLisp.Double
