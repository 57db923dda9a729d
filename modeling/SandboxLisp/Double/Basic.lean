import SandboxLisp.Power

/-!
# Double-precision numbers

A double is finite or infinite.  The magnitude of a finite one is a mantissa below `2 ^ 53` shifted
to the left, counted in units of `2 ^ -1074`; the mantissa is as long as it can be, so every
magnitude has one form.  Results that are not a number are `none`, so `Option Double` is the type
of a result.

`Double.nearest` rounds a fraction of units to the nearest double, and of two nearest ones to that
with an even mantissa.  All of arithmetic and the reading of decimals round through it.
-/

namespace SandboxLisp

/-- The magnitude of a finite double: `mantissa * 2 ^ shift` units of `2 ^ -1074`. -/
structure Magnitude where
  mantissa : Nat
  shift : Nat
  mantissa_lt : mantissa < 2 ^ 53
  shift_le : shift ≤ 2045
  longest : shift = 0 ∨ 2 ^ 52 ≤ mantissa
deriving DecidableEq

namespace Magnitude

/-- The magnitude of zero. -/
def zero : Magnitude := ⟨0, 0, by decide, by decide, .inl rfl⟩

instance : Inhabited Magnitude := ⟨zero⟩

/-- The magnitude counted in units of `2 ^ -1074`. -/
def units (magnitude : Magnitude) : Nat :=
  magnitude.mantissa * 2 ^ magnitude.shift

/-- The magnitude with a given mantissa and shift, if that is a form of a magnitude. -/
def ofParts? (mantissa shift : Nat) : Option Magnitude :=
  if h : mantissa < 2 ^ 53 ∧ shift ≤ 2045 ∧ (shift = 0 ∨ 2 ^ 52 ≤ mantissa) then
    some ⟨mantissa, shift, h.1, h.2.1, h.2.2⟩
  else none

/-- Two magnitudes of one form are one magnitude. -/
theorem ext {first second : Magnitude} (mantissa : first.mantissa = second.mantissa)
    (shift : first.shift = second.shift) : first = second := by
  cases first
  cases second
  simp_all

/-- The parts of a magnitude give it back. -/
theorem ofParts?_self (magnitude : Magnitude) :
    ofParts? magnitude.mantissa magnitude.shift = some magnitude := by
  exact dif_pos ⟨magnitude.mantissa_lt, magnitude.shift_le, magnitude.longest⟩

end Magnitude

/-- A quotient of naturals rounded to the nearest natural, a half to the even one. -/
def roundDiv (numerator denominator : Nat) : Nat :=
  let whole := numerator / denominator
  let twice := 2 * (numerator % denominator)
  if twice < denominator then whole
  else if denominator < twice then whole + 1
  else if whole % 2 = 0 then whole else whole + 1

/-- A whole quotient is not rounded. -/
theorem roundDiv_mul (whole : Nat) {denominator : Nat} (positive : 0 < denominator) :
    roundDiv (whole * denominator) denominator = whole := by
  simp [roundDiv, Nat.mul_mod_left, Nat.mul_div_left _ positive, positive]

/-- How far the mantissa of a whole number of units is shifted. -/
def shiftFor (whole : Nat) : Nat :=
  whole.log2 - 52

/-- The magnitude nearest to a fraction of units; none if the fraction is too large. -/
def Magnitude.nearest? (numerator denominator : Nat) : Option Magnitude :=
  let shift := shiftFor (numerator / denominator)
  let mantissa := roundDiv numerator (denominator * 2 ^ shift)
  if mantissa = 2 ^ 53 then ofParts? (2 ^ 52) (shift + 1) else ofParts? mantissa shift

/-- A double-precision number. -/
inductive Double where
  | finite (negative : Bool) (magnitude : Magnitude)
  | infinite (negative : Bool)
deriving DecidableEq, Inhabited

namespace Double

/-- The number of units that make one. -/
@[irreducible] def unitsPerOne : Nat := 2 ^ 1074

/-- There are units in one. -/
theorem unitsPerOne_pos : 0 < unitsPerOne := by
  unfold unitsPerOne
  apply Nat.pow_pos
  decide

/-- Zero with a sign. -/
def zero (negative : Bool) : Double := .finite negative .zero

/-- One. -/
def one : Double := .finite false ⟨2 ^ 52, 1022, by decide, by decide, .inr (by decide)⟩

/-- The double nearest to a signed fraction of units; infinite if the fraction is too large. -/
def nearest (negative : Bool) (numerator denominator : Nat) : Double :=
  (Magnitude.nearest? numerator denominator).elim (.infinite negative) (.finite negative)

/-- A finite double counted in units, with its sign. -/
def signedUnits (negative : Bool) (magnitude : Magnitude) : Int :=
  if negative then -(magnitude.units : Int) else magnitude.units

/-- The sign of a double; a zero has one too. -/
def isNegative : Double → Bool
  | .finite negative _ => negative
  | .infinite negative => negative

/-- Whether the double is finite. -/
def isFinite : Double → Bool
  | .finite _ _ => true
  | .infinite _ => false

/-- Whether the double is a zero. -/
def isZero : Double → Bool
  | .finite _ magnitude => magnitude.mantissa == 0
  | .infinite _ => false

/-- The double nearest to an integer; none if the integer is too large. -/
def ofInt? (value : Int) : Option Double :=
  (Magnitude.nearest? (value.natAbs * unitsPerOne) 1).map (.finite (value < 0))

/-- The double nearest to the quotient of two integers, the second of which is not zero; none if
the quotient is too large. -/
def ofRatio? (numerator denominator : Int) : Option Double :=
  (Magnitude.nearest? (numerator.natAbs * unitsPerOne) denominator.natAbs).map
    (.finite ((numerator < 0) != (denominator < 0)))

/-- Whether the double is finite and whole. -/
def isWhole : Double → Bool
  | .finite _ magnitude => magnitude.units % unitsPerOne == 0
  | .infinite _ => false

/-- The largest integer that is not above a finite double. -/
def floor? : Double → Option Int
  | .finite negative magnitude => some (signedUnits negative magnitude / (unitsPerOne : Int))
  | .infinite _ => none

/-- The smallest integer that is not below a finite double. -/
def ceil? : Double → Option Int
  | .finite negative magnitude => some (-(-(signedUnits negative magnitude) / (unitsPerOne : Int)))
  | .infinite _ => none

/-- A finite double without its fraction. -/
def truncate? : Double → Option Int
  | .finite negative magnitude =>
      some ((signedUnits negative magnitude).tdiv (unitsPerOne : Int))
  | .infinite _ => none

/-- The integer that a double is equal to. -/
def toInt? (value : Double) : Option Int :=
  if value.isWhole then value.truncate? else none

/-- The order of two doubles. -/
def compare : Double → Double → Ordering
  | .finite negative magnitude, .finite negative' magnitude' =>
      Ord.compare (signedUnits negative magnitude) (signedUnits negative' magnitude')
  | .infinite true, .infinite true => .eq
  | .infinite false, .infinite false => .eq
  | .infinite true, _ => .lt
  | .infinite false, _ => .gt
  | _, .infinite true => .gt
  | _, .infinite false => .lt

/-- The order of an integer and a double. -/
def compareInt (value : Int) : Double → Ordering
  | .finite negative magnitude =>
      Ord.compare (value * (unitsPerOne : Int)) (signedUnits negative magnitude)
  | .infinite true => .gt
  | .infinite false => .lt

end Double

end SandboxLisp
