import SandboxLisp.Double.Decimal

/-!
# Rounding to doubles

The magnitude nearest to a fraction depends on the value of the fraction alone, so a decimal may be
written with more or fewer zeros at its end.  A magnitude is the nearest one to itself.  Hence the
shortest decimal of a magnitude reads back as the magnitude, and the bounds beyond which a decimal
is not worked out lie outside the range of doubles.
-/

namespace SandboxLisp

/-- Rounding a quotient does not depend on how the fraction is expanded. -/
theorem roundDiv_mul_mul {factor : Nat} (positive : 0 < factor) (numerator denominator : Nat) :
    roundDiv (factor * numerator) (factor * denominator) = roundDiv numerator denominator := by
  have twice : 2 * (factor * (numerator % denominator)) =
      factor * (2 * (numerator % denominator)) := by
    rw [Nat.mul_left_comm]
  simp only [roundDiv, Nat.mul_div_mul_left _ _ positive, Nat.mul_mod_mul_left, twice,
    Nat.mul_lt_mul_left positive]

/-- A quotient below one half is rounded to zero. -/
theorem roundDiv_of_twice_lt {numerator denominator : Nat} (small : 2 * numerator < denominator) :
    roundDiv numerator denominator = 0 := by
  have below : numerator < denominator := by omega
  simp [roundDiv, Nat.mod_eq_of_lt below, Nat.div_eq_of_lt below, small]

namespace Magnitude

/-- The magnitude nearest to a fraction does not depend on how the fraction is expanded. -/
theorem nearest?_mul_mul {factor : Nat} (positive : 0 < factor) (numerator denominator : Nat) :
    nearest? (factor * numerator) (factor * denominator) = nearest? numerator denominator := by
  simp only [nearest?, Nat.mul_div_mul_left _ _ positive, Nat.mul_assoc,
    roundDiv_mul_mul positive]

/-- Equal fractions have the same nearest magnitude. -/
theorem nearest?_congr {numerator numerator' denominator denominator' : Nat}
    (positive : 0 < denominator) (positive' : 0 < denominator')
    (equal : numerator * denominator' = numerator' * denominator) :
    nearest? numerator denominator = nearest? numerator' denominator' :=
  calc nearest? numerator denominator
      = nearest? (denominator' * numerator) (denominator' * denominator) :=
        (nearest?_mul_mul positive' _ _).symm
    _ = nearest? (denominator * numerator') (denominator * denominator') := by
        rw [Nat.mul_comm denominator' numerator, equal, Nat.mul_comm numerator' denominator,
          Nat.mul_comm denominator' denominator]
    _ = nearest? numerator' denominator' := nearest?_mul_mul positive _ _

/-- Less than half a unit is rounded to zero. -/
theorem nearest?_of_twice_lt {numerator denominator : Nat} (small : 2 * numerator < denominator) :
    nearest? numerator denominator = some zero := by
  have shift : shiftFor (numerator / denominator) = 0 := by
    rw [Nat.div_eq_of_lt (by omega)]
    rfl
  simp only [nearest?, shift, Nat.pow_zero, Nat.mul_one, roundDiv_of_twice_lt small]
  rfl

/-- No magnitude is nearest to what lies far above the range of doubles. -/
theorem nearest?_eq_none {numerator denominator : Nat} (bits : Nat) (beyond : 2098 ≤ bits)
    (large : 2 ^ bits ≤ numerator / denominator) : nearest? numerator denominator = none := by
  have positive : 0 < numerator / denominator := Nat.lt_of_lt_of_le (Nat.two_pow_pos bits) large
  have log : bits ≤ (numerator / denominator).log2 :=
    (Nat.le_log2 (Nat.ne_of_gt positive)).2 large
  have above : 2045 < shiftFor (numerator / denominator) := by
    unfold shiftFor
    omega
  simp only [nearest?]
  split
  · rw [ofParts?, dif_neg (by omega)]
  · rw [ofParts?, dif_neg (by omega)]

/-- The units of a magnitude are shifted as far as its mantissa is. -/
theorem shiftFor_units (magnitude : Magnitude) : shiftFor magnitude.units = magnitude.shift := by
  obtain ⟨mantissa, shift, small, -, longest⟩ := magnitude
  simp only [units, shiftFor]
  by_cases zero : mantissa = 0
  · subst zero
    rcases longest with rfl | long
    · rfl
    · exact absurd long (by decide)
  · have positive : 0 < 2 ^ shift := Nat.two_pow_pos shift
    have high : mantissa * 2 ^ shift < 2 ^ (53 + shift) := by
      rw [Nat.pow_add]
      exact Nat.mul_lt_mul_of_pos_right small positive
    have below := (Nat.log2_lt (Nat.mul_ne_zero zero (Nat.ne_of_gt positive))).2 high
    rcases longest with rfl | long
    · omega
    · have low : 2 ^ (52 + shift) ≤ mantissa * 2 ^ shift := by
        rw [Nat.pow_add]
        exact Nat.mul_le_mul_right _ long
      have above := (Nat.le_log2 (Nat.mul_ne_zero zero (Nat.ne_of_gt positive))).2 low
      omega

/-- A magnitude is the nearest one to itself. -/
theorem nearest?_units (magnitude : Magnitude) : nearest? magnitude.units 1 = some magnitude := by
  have shift := magnitude.shiftFor_units
  have whole : roundDiv magnitude.units (1 * 2 ^ magnitude.shift) = magnitude.mantissa := by
    rw [Nat.one_mul]
    exact roundDiv_mul magnitude.mantissa (Nat.two_pow_pos magnitude.shift)
  simp only [nearest?, Nat.div_one, shift, whole]
  rw [if_neg (Nat.ne_of_lt magnitude.mantissa_lt)]
  exact magnitude.ofParts?_self

end Magnitude

namespace Decimal

/-- Ten to a power below zero. -/
theorem tenPower_neg (exponent : Nat) : tenPower (-(exponent : Int)) = (1, 10 ^ exponent) := by
  unfold tenPower
  split
  · have zero : exponent = 0 := by omega
    subst zero
    rfl
  · simp

/-- Ten to a power from zero on. -/
theorem tenPower_natCast (exponent : Nat) : tenPower (exponent : Int) = (10 ^ exponent, 1) := by
  simp [tenPower]

theorem tenPower_pos (exponent : Int) : 0 < (tenPower exponent).2 := by
  unfold tenPower
  split
  · exact Nat.one_pos
  · exact Nat.pow_pos (by decide)

/-- A zero at the end of a decimal makes up for a smaller exponent. -/
theorem magnitude?_mul_ten (digits : Nat) (exponent : Int) :
    magnitude? ⟨digits * 10, exponent⟩ = magnitude? ⟨digits, exponent + 1⟩ := by
  simp only [magnitude?]
  apply Magnitude.nearest?_congr (tenPower_pos _) (tenPower_pos _)
  have power : 10 * (tenPower exponent).1 * (tenPower (exponent + 1)).2 =
      (tenPower (exponent + 1)).1 * (tenPower exponent).2 := by
    rcases Int.eq_nat_or_neg exponent with ⟨size, rfl | rfl⟩
    · have next : (size : Int) + 1 = (size + 1 : Nat) := by omega
      rw [next, tenPower_natCast, tenPower_natCast]
      simp [Nat.pow_succ, Nat.mul_comm]
    · cases size with
      | zero => rfl
      | succ size =>
          have next : -((size + 1 : Nat) : Int) + 1 = -(size : Int) := by omega
          rw [next, tenPower_neg, tenPower_neg]
          simp [Nat.pow_succ, Nat.mul_comm]
  calc digits * 10 * (tenPower exponent).1 * Double.unitsPerOne * (tenPower (exponent + 1)).2
      = digits * Double.unitsPerOne *
          (10 * (tenPower exponent).1 * (tenPower (exponent + 1)).2) := by ac_rfl
    _ = digits * Double.unitsPerOne *
          ((tenPower (exponent + 1)).1 * (tenPower exponent).2) := by rw [power]
    _ = digits * (tenPower (exponent + 1)).1 * Double.unitsPerOne * (tenPower exponent).2 := by
        ac_rfl

/-- Zeros at the end of a decimal make up for a smaller exponent. -/
theorem magnitude?_mul_pow (digits count : Nat) (exponent : Int) :
    magnitude? ⟨digits * 10 ^ count, exponent⟩ = magnitude? ⟨digits, exponent + count⟩ := by
  induction count generalizing exponent with
  | zero => simp
  | succ count ih =>
      rw [Nat.pow_succ, ← Nat.mul_assoc, magnitude?_mul_ten, ih]
      congr 2
      omega

/-- A decimal with some zeros at its end is the same decimal. -/
theorem magnitude?_padded (decimal : Decimal) (count : Nat) :
    magnitude? ⟨decimal.digits * 10 ^ count, decimal.exponent - count⟩ = decimal.magnitude? := by
  cases decimal with
  | mk digits exponent => rw [magnitude?_mul_pow, Int.sub_add_cancel]

/-- Leaving out zeros at the end keeps the magnitude. -/
theorem magnitude?_withoutZeros (fuel : Nat) (decimal : Decimal) :
    (withoutZeros fuel decimal).magnitude? = decimal.magnitude? := by
  fun_induction withoutZeros fuel decimal with
  | case1 => rfl
  | case2 fuel decimal divides ih =>
      rw [ih, ← magnitude?_mul_ten, Nat.div_mul_cancel (Nat.dvd_of_mod_eq_zero divides)]
  | case3 => rfl

end Decimal

namespace Magnitude

/-- The exact decimal of a magnitude reads back. -/
theorem magnitude?_exactly (magnitude : Magnitude) :
    magnitude.exactly.magnitude? = some magnitude := by
  have tenth (count : Nat) : Decimal.tenPower (-(count : Int)) = (1, 5 ^ count * 2 ^ count) := by
    rw [Decimal.tenPower_neg, ← Nat.mul_pow]
  have power : Decimal.tenPower (-1074) = (1, decimalUnit * Double.unitsPerOne) := by
    unfold decimalUnit Double.unitsPerOne
    exact tenth 1074
  have positive : 0 < decimalUnit * Double.unitsPerOne := by
    have := Decimal.tenPower_pos (-1074)
    rwa [power] at this
  rw [← magnitude.nearest?_units]
  simp only [exactly, Decimal.magnitude?, power]
  apply nearest?_congr positive Nat.one_pos
  rw [Nat.mul_one, Nat.mul_one, Nat.mul_assoc]

/-- The shortest decimal of a magnitude reads back. -/
theorem magnitude?_shortest (magnitude : Magnitude) :
    magnitude.shortest.magnitude? = some magnitude := by
  simp only [shortest]
  cases found : digitCounts.findSome? fun (count : Nat) =>
      magnitude.onGrid? (magnitude.pointPlace - count) with
  | none => exact magnitude.magnitude?_exactly
  | some decimal =>
      obtain ⟨count, -, onGrid⟩ := List.exists_of_findSome?_eq_some found
      rw [Option.elim_some, Decimal.magnitude?_withoutZeros]
      exact magnitude?_of_onGrid? onGrid

end Magnitude

namespace Decimal

/-- The digits of a decimal do not reach the power of ten that its bound is above them. -/
theorem digits_lt_pow (digits : Nat) : digits < 10 ^ (digits.log2 / 3 + 1) := by
  calc digits < 2 ^ (digits.log2 + 1) := Nat.lt_log2_self
    _ ≤ 2 ^ (3 * (digits.log2 / 3 + 1)) := Nat.pow_le_pow_right (by decide) (by omega)
    _ = 8 ^ (digits.log2 / 3 + 1) := by rw [Nat.pow_mul]
    _ ≤ 10 ^ (digits.log2 / 3 + 1) := Nat.pow_le_pow_left (by decide) _

/-- The digits of a decimal that is not zero reach the power of ten that its bound is below them. -/
theorem pow_le_digits {digits : Nat} (notZero : digits ≠ 0) :
    10 ^ (3 * digits.log2 / 10) ≤ digits := by
  have tenth : (10 ^ (3 * digits.log2 / 10)) ^ 10 ≤ (2 ^ digits.log2) ^ 10 := by
    calc (10 ^ (3 * digits.log2 / 10)) ^ 10
        = 10 ^ (3 * digits.log2 / 10 * 10) := (Nat.pow_mul ..).symm
      _ ≤ 10 ^ (3 * digits.log2) := Nat.pow_le_pow_right (by decide) (by omega)
      _ = 1000 ^ digits.log2 := by rw [Nat.pow_mul]
      _ ≤ 1024 ^ digits.log2 := Nat.pow_le_pow_left (by decide) _
      _ = (2 ^ digits.log2) ^ 10 := by rw [← Nat.pow_mul, Nat.mul_comm, Nat.pow_mul]
  exact Nat.le_trans ((Nat.pow_le_pow_iff_left (by decide)).1 tenth)
    ((Nat.le_log2 notZero).1 (Nat.le_refl _))

/-- Three binary digits make less than one decimal digit. -/
theorem two_pow_le_ten_pow {bits count : Nat} (few : bits ≤ 3 * count) : 2 ^ bits ≤ 10 ^ count := by
  calc 2 ^ bits ≤ 2 ^ (3 * count) := Nat.pow_le_pow_right (by decide) few
    _ = 8 ^ count := by rw [Nat.pow_mul]
    _ ≤ 10 ^ count := Nat.pow_le_pow_left (by decide) count

/-- A decimal far below the range of doubles is rounded to zero. -/
theorem magnitude?_of_exponentAbove {decimal : Decimal} (below : decimal.exponentAbove < -400) :
    decimal.magnitude? = some .zero := by
  obtain ⟨digits, exponent⟩ := decimal
  simp only [exponentAbove] at below
  obtain ⟨spare, split⟩ :
      ∃ spare : Nat, exponent = -((digits.log2 / 3 + 1 + (spare + 1) : Nat) : Int) :=
    ⟨(-exponent).toNat - (digits.log2 / 3 + 2), by omega⟩
  have half : 2 * Double.unitsPerOne ≤ 10 ^ (spare + 1) := by
    unfold Double.unitsPerOne
    calc 2 * 2 ^ 1074 ≤ 10 * 10 ^ spare :=
          Nat.mul_le_mul (by decide) (two_pow_le_ten_pow (by omega))
      _ = 10 ^ (spare + 1) := Nat.pow_succ'.symm
  simp only [magnitude?, split, tenPower_neg, Nat.mul_one]
  apply Magnitude.nearest?_of_twice_lt
  calc 2 * (digits * Double.unitsPerOne) = digits * (2 * Double.unitsPerOne) := by ac_rfl
    _ ≤ digits * 10 ^ (spare + 1) := Nat.mul_le_mul_left _ half
    _ < 10 ^ (digits.log2 / 3 + 1) * 10 ^ (spare + 1) :=
        Nat.mul_lt_mul_of_pos_right (digits_lt_pow digits) (Nat.pow_pos (by decide))
    _ = 10 ^ (digits.log2 / 3 + 1 + (spare + 1)) := (Nat.pow_add ..).symm

/-- A decimal far above the range of doubles has no nearest magnitude. -/
theorem magnitude?_of_exponentBelow {decimal : Decimal} (notZero : decimal.digits ≠ 0)
    (above : 400 < decimal.exponentBelow) : decimal.magnitude? = none := by
  obtain ⟨digits, exponent⟩ := decimal
  simp only [exponentBelow] at above notZero
  have digitsLarge := pow_le_digits notZero
  generalize 3 * digits.log2 / 10 = reached at above digitsLarge
  have shifted (count bits : Nat) : 2 ^ (3 * count + bits) ≤ 10 ^ count * 2 ^ bits := by
    rw [Nat.pow_add]
    exact Nat.mul_le_mul_right _ (two_pow_le_ten_pow (Nat.le_refl _))
  have units (count : Nat) : 2 ^ (3 * count + 1074) ≤ 10 ^ count * Double.unitsPerOne := by
    unfold Double.unitsPerOne
    exact shifted count 1074
  obtain ⟨size, rfl | rfl⟩ := Int.eq_nat_or_neg exponent
  · simp only [magnitude?, tenPower_natCast]
    apply Magnitude.nearest?_eq_none (3 * (reached + size) + 1074) (by omega)
    rw [Nat.div_one]
    refine Nat.le_trans (units (reached + size)) (Nat.mul_le_mul_right _ ?_)
    rw [Nat.pow_add]
    exact Nat.mul_le_mul_right _ digitsLarge
  · obtain ⟨spare, rfl⟩ : ∃ spare, reached = spare + size := ⟨reached - size, by omega⟩
    simp only [magnitude?, tenPower_neg, Nat.mul_one]
    apply Magnitude.nearest?_eq_none (3 * spare + 1074) (by omega)
    rw [Nat.le_div_iff_mul_le (Nat.pow_pos (by decide))]
    calc 2 ^ (3 * spare + 1074) * 10 ^ size
        ≤ 10 ^ spare * Double.unitsPerOne * 10 ^ size := Nat.mul_le_mul_right _ (units spare)
      _ = 10 ^ (spare + size) * Double.unitsPerOne := by rw [Nat.pow_add]; ac_rfl
      _ ≤ digits * Double.unitsPerOne := Nat.mul_le_mul_right _ digitsLarge

/-- A decimal with a nearest magnitude that is not zero is read as that magnitude. -/
theorem toDouble_of_magnitude? {decimal : Decimal} {magnitude : Magnitude}
    (nearest : decimal.magnitude? = some magnitude) (notZero : magnitude.mantissa ≠ 0)
    (negative : Bool) : decimal.toDouble negative = .finite negative magnitude := by
  have digits : decimal.digits ≠ 0 := by
    intro zero
    have small : decimal.magnitude? = some .zero := by
      simp only [magnitude?, zero, Nat.zero_mul]
      exact Magnitude.nearest?_of_twice_lt (tenPower_pos _)
    rw [small] at nearest
    exact notZero (congrArg Magnitude.mantissa (Option.some.inj nearest)).symm
  have reached : ¬ decimal.exponentAbove < -400 := by
    intro below
    rw [magnitude?_of_exponentAbove below] at nearest
    exact notZero (congrArg Magnitude.mantissa (Option.some.inj nearest)).symm
  have inRange : ¬ 400 < decimal.exponentBelow := by
    intro above
    rw [magnitude?_of_exponentBelow digits above] at nearest
    cases nearest
  rw [toDouble, if_neg (by simp [digits, reached]), if_neg inRange, nearest, Option.elim_some]

end Decimal

end SandboxLisp
