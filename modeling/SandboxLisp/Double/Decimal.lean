import SandboxLisp.Double.Basic

/-!
# Decimals and doubles

A decimal is a whole number of digits times a power of ten.  Reading one gives the nearest double.
Of the decimals that read back as a magnitude the shortest is the one with the fewest digits, of
several the nearest, and of two equally near ones that with an even last digit.

The decimals with a given number of digits form a grid.  If a point of the grid reads back, so does
one of the two neighbours of the exact value, because rounding keeps order.  So the neighbours are
tried on the grids of one, two, ... seventeen digits, and seventeen are always enough; the exact
decimal, which stands at the end of the search, is there to make that plain.
-/

namespace SandboxLisp

/-- The decimal digits of a natural number. -/
def decimalDigits (value : Nat) : List Char :=
  Nat.toDigits 10 value

/-- A decimal number `digits * 10 ^ exponent`. -/
structure Decimal where
  digits : Nat
  exponent : Int
deriving DecidableEq, Repr, Inhabited

namespace Decimal

/-- Ten to a power as a fraction: a numerator and a denominator. -/
def tenPower (exponent : Int) : Nat × Nat :=
  if 0 ≤ exponent then (10 ^ exponent.toNat, 1) else (1, 10 ^ (-exponent).toNat)

/-- The magnitude nearest to a decimal; none if the decimal is too large. -/
def magnitude? (decimal : Decimal) : Option Magnitude :=
  let (numerator, denominator) := tenPower decimal.exponent
  Magnitude.nearest? (decimal.digits * numerator * Double.unitsPerOne) denominator

/-- The number of digits before the point; below one it counts down with the zeros after the
point. -/
def place (decimal : Decimal) : Int :=
  decimal.exponent + (decimalDigits decimal.digits).length

/-- An exponent of ten that the decimal reaches, if it is not zero: ten binary digits make more than
three decimal ones. -/
def exponentBelow (decimal : Decimal) : Int :=
  decimal.exponent + (3 * decimal.digits.log2 / 10 : Nat)

/-- An exponent of ten that the decimal does not reach: a decimal digit makes more than three binary
ones. -/
def exponentAbove (decimal : Decimal) : Int :=
  decimal.exponent + (decimal.digits.log2 / 3 + 1 : Nat)

/-- The double nearest to a signed decimal; infinite if the decimal is too large.  A decimal that lies
far outside the range of doubles is not worked out. -/
def toDouble (negative : Bool) (decimal : Decimal) : Double :=
  if decimal.digits = 0 ∨ decimal.exponentAbove < -400 then .zero negative
  else if 400 < decimal.exponentBelow then .infinite negative
  else
    decimal.magnitude?.elim (.infinite negative) (.finite negative)

/-- The decimal without zeros at its end; `fuel` bounds the number of zeros. -/
def withoutZeros : Nat → Decimal → Decimal
  | 0, decimal => decimal
  | fuel + 1, decimal =>
      if decimal.digits % 10 = 0 then withoutZeros fuel ⟨decimal.digits / 10, decimal.exponent + 1⟩
      else decimal

end Decimal

namespace Magnitude

/-- The number of digits before the point of the decimal value; below one it counts down with the
zeros after the point. -/
def pointPlace (magnitude : Magnitude) : Int :=
  let guess := ((magnitude.units.log2 : Int) - 1074) * 30103 / 100000
  let reaches (exponent : Int) : Bool :=
    let (numerator, denominator) := Decimal.tenPower exponent
    numerator * Double.unitsPerOne ≤ magnitude.units * denominator
  if reaches (guess + 1) then guess + 2 else if reaches guess then guess + 1 else guess

/-- The neighbour below the value among the multiples of ten to `exponent`, and whether the
neighbour above is nearer; of two equally near ones the even one counts as nearer. -/
def neighbourBelow (magnitude : Magnitude) (exponent : Int) : Nat × Bool :=
  let (numerator, denominator) := Decimal.tenPower exponent
  let dividend := magnitude.units * denominator
  let divisor := numerator * Double.unitsPerOne
  let below := dividend / divisor
  let twice := 2 * (dividend % divisor)
  (below, divisor < twice || (divisor == twice && below % 2 == 1))

/-- The neighbour that reads back and is nearest to the value, among the multiples of ten to
`exponent`. -/
def onGrid? (magnitude : Magnitude) (exponent : Int) : Option Decimal :=
  let (below, nearerAbove) := magnitude.neighbourBelow exponent
  let lower : Decimal := ⟨below, exponent⟩
  let upper : Decimal := ⟨below + 1, exponent⟩
  let candidates := if nearerAbove then [upper, lower] else [lower, upper]
  candidates.find? fun decimal => decimal.magnitude? = some magnitude

/-- The numbers of digits that are tried, fewest first. -/
def digitCounts : List Nat :=
  (List.range 17).map (· + 1)

/-- One unit of `2 ^ -1074` counted in units of `10 ^ -1074`. -/
@[irreducible] def decimalUnit : Nat := 5 ^ 1074

/-- The decimal that is equal to a magnitude. -/
def exactly (magnitude : Magnitude) : Decimal :=
  ⟨magnitude.units * decimalUnit, -1074⟩

/-- The shortest decimal of a magnitude that is not zero. -/
def shortest (magnitude : Magnitude) : Decimal :=
  let place := magnitude.pointPlace
  let found := digitCounts.findSome? fun (count : Nat) => magnitude.onGrid? (place - count)
  found.elim magnitude.exactly (Decimal.withoutZeros 17)

/-- What is found on a grid reads back. -/
theorem magnitude?_of_onGrid? {magnitude : Magnitude} {exponent : Int} {decimal : Decimal}
    (found : magnitude.onGrid? exponent = some decimal) :
    decimal.magnitude? = some magnitude := by
  unfold onGrid? at found
  simpa using List.find?_some found

end Magnitude

end SandboxLisp
