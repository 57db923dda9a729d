import Mathlib.Tactic.Ring
import SandboxLisp.Evaluator
import SandboxLisp.Primitive.Mathematics
import SandboxLisp.Proofs.Number.Nearest

/-!
# Rounding halves up

`round` adds one half to a number and takes the floor.  The sum is rounded to a double, so it can
reach a whole number that the exact sum does not reach.  `Double.ediv_roundedUnits_add_halfAt` finds
where: just below one half, and at the odd numbers that are too large for halves
(`Double.slips`).  Everywhere else the floor is that of the exact sum, which is the nearest whole
number (`Double.isNearest_iff`).

The cases are told apart by how far the sum and the summand are shifted.  If the sum is shifted no
further, it is exact or a tie; if it is shifted further, it has passed a power of two.
-/

namespace SandboxLisp

/-- Of the two whole numbers that a half lies between, rounding takes the even one. -/
theorem roundDiv_tie (whole : Nat) {half : Nat} (positive : 0 < half) :
    roundDiv (whole * (2 * half) + half) (2 * half) = whole + whole % 2 := by
  have quotient : (whole * (2 * half) + half) / (2 * half) = whole := by
    rw [Nat.mul_comm, Nat.mul_add_div (by omega), Nat.div_eq_of_lt (by omega), Nat.add_zero]
  have rest : (whole * (2 * half) + half) % (2 * half) = half := by
    rw [Nat.mul_comm, Nat.mul_add_mod, Nat.mod_eq_of_lt (by omega)]
  simp only [roundDiv, quotient, rest, Nat.lt_irrefl, if_false]
  split <;> omega

/-- Two multiples of a number that are less than it apart are the same. -/
theorem eq_of_dvd_of_close {step first second : Int} (divides : step ∣ first)
    (divides' : step ∣ second) (below : first < second + step) (above : second < first + step) :
    first = second := by
  have zero := Int.eq_zero_of_dvd_of_natAbs_lt_natAbs (Int.dvd_sub divides divides') (by omega)
  omega

namespace Double

variable {units half : Int} {places : Nat}

/-! ### Sums with a half -/

section HalfUp

/-- Where the sum with a half is shifted further than the summand, it has passed a power of two. -/
theorem passes (nonneg : 0 ≤ half)
    (passed : shiftFor units.natAbs < shiftFor (units + half).natAbs) :
    units < (2 ^ (52 + shiftFor (units + half).natAbs) : Nat) ∧
      (2 ^ (52 + shiftFor (units + half).natAbs) : Nat) ≤ units + half := by
  have low := two_pow_le_of_shiftFor (Nat.ne_zero_of_lt passed)
  have high : units.natAbs < 2 ^ (52 + shiftFor (units + half).natAbs) :=
    Nat.lt_of_lt_of_le (lt_two_pow_shiftFor _) (Nat.pow_le_pow_right (by decide) (by omega))
  generalize shiftFor (units + half).natAbs = shift at *
  generalize 2 ^ (52 + shift) = power at *
  omega

/-- A whole number and a half, where only whole numbers are left by the shift. -/
theorem roundedUnits_tie {whole : Int} {shift : Nat}
    (shifted : shiftFor (whole * (2 * (2 ^ shift : Nat)) + (2 ^ shift : Nat)).natAbs = shift + 1) :
    roundedUnits (whole * (2 * (2 ^ shift : Nat)) + (2 ^ shift : Nat)) =
      (whole + whole % 2) * (2 * (2 ^ shift : Nat)) := by
  have positive := Nat.two_pow_pos shift
  have twice : 2 ^ (shift + 1) = 2 * 2 ^ shift := Nat.pow_succ'
  rcases Int.lt_or_le whole 0 with negative | nonneg
  · obtain ⟨count, rfl⟩ : ∃ count : Nat, whole = -(count + 1 : Nat) := ⟨whole.natAbs - 1, by omega⟩
    have opposite : (-(count + 1 : Nat) * (2 * (2 ^ shift : Nat)) + (2 ^ shift : Nat) : Int) =
        -((count * (2 * 2 ^ shift) + 2 ^ shift : Nat) : Int) := by
      push_cast
      ring
    have even : -((count + 1 : Nat) : Int) + -((count + 1 : Nat) : Int) % 2 =
        -((count + count % 2 : Nat) : Int) := by
      omega
    rw [opposite] at shifted ⊢
    rw [Int.natAbs_neg, Int.natAbs_natCast] at shifted
    rw [roundedUnits_of_neg (by omega), Int.natAbs_neg, Int.natAbs_natCast, Magnitude.rounded,
      shifted, twice, roundDiv_tie count positive, even]
    push_cast
    ring
  · obtain ⟨count, rfl⟩ := Int.eq_ofNat_of_zero_le nonneg
    have same : ((count : Int) * (2 * (2 ^ shift : Nat)) + (2 ^ shift : Nat) : Int) =
        ((count * (2 * 2 ^ shift) + 2 ^ shift : Nat) : Int) := by
      push_cast
      ring
    rw [same] at shifted ⊢
    rw [Int.natAbs_natCast] at shifted
    rw [roundedUnits_of_nonneg (by omega), Int.natAbs_natCast, Magnitude.rounded, shifted,
      twice, roundDiv_tie count positive]
    push_cast
    rfl

/-- One half, when the last digit of the numbers just below it counts `2 ^ places` units. -/
def halfAt (places : Nat) : Int :=
  (2 ^ (53 + places) : Nat)

theorem halfAt_pos (places : Nat) : 0 < halfAt places :=
  Int.natCast_pos.2 (Nat.two_pow_pos _)

theorem digit_lt_halfAt (places : Nat) :
    0 < ((2 ^ places : Nat) : Int) ∧ ((2 ^ places : Nat) : Int) < halfAt places :=
  ⟨Int.natCast_pos.2 (Nat.two_pow_pos _),
    Int.ofNat_lt.2 (Nat.pow_lt_pow_right (by decide) (by omega))⟩

theorem two_mul_halfAt (places : Nat) : 2 * halfAt places = (2 ^ (54 + places) : Nat) := by
  rw [halfAt, show 54 + places = 53 + places + 1 by omega, Nat.pow_succ']
  push_cast
  rfl

theorem halfAt_dvd {places shift : Nat} (long : 54 + places ≤ shift) :
    2 * halfAt places ∣ (2 ^ shift : Nat) := by
  rw [two_mul_halfAt]
  exact Int.natCast_dvd_natCast.2 (Nat.pow_dvd_pow 2 long)

section Cases

variable (granular : ((2 ^ shiftFor units.natAbs : Nat) : Int) ∣ units)

include granular

/-- A sum that is shifted no further than one half and the other summand is exact. -/
theorem roundedUnits_add_halfAt
    (kept : shiftFor (units + halfAt places).natAbs ≤ shiftFor units.natAbs)
    (short : shiftFor (units + halfAt places).natAbs ≤ 53 + places) :
    roundedUnits (units + halfAt places) = units + halfAt places := by
  apply roundedUnits_of_dvd
  apply Int.dvd_add
  · exact Int.dvd_trans (Int.natCast_dvd_natCast.2 (Nat.pow_dvd_pow 2 kept)) granular
  · exact Int.natCast_dvd_natCast.2 (Nat.pow_dvd_pow 2 short)

/-- A number whose last digit counts ones is whole. -/
theorem exists_whole (long : 54 + places ≤ shiftFor units.natAbs) :
    ∃ whole : Int, units = whole * (2 * halfAt places) ∧ 2 ^ 52 ≤ whole.natAbs := by
  have shifted : shiftFor units.natAbs ≠ 0 := by omega
  have low := two_pow_le_of_shiftFor shifted
  obtain ⟨whole, parts⟩ := Int.dvd_trans (halfAt_dvd long) granular
  rw [Int.mul_comm] at parts
  refine ⟨whole, parts, ?_⟩
  have size : units.natAbs = whole.natAbs * 2 ^ (54 + places) := by
    rw [parts, Int.natAbs_mul, two_mul_halfAt, Int.natAbs_natCast]
  have least : 2 ^ 52 * 2 ^ (54 + places) ≤ whole.natAbs * 2 ^ (54 + places) := by
    rw [← Nat.pow_add, ← size]
    exact Nat.le_trans (Nat.pow_le_pow_right (by decide) (by omega)) low
  exact Nat.le_of_mul_le_mul_right least (Nat.two_pow_pos _)

/-- Where only multiples of two are left, adding one half changes nothing. -/
theorem roundedUnits_of_longer
    (kept : shiftFor (units + halfAt places).natAbs ≤ shiftFor units.natAbs)
    (long : 55 + places ≤ shiftFor (units + halfAt places).natAbs) :
    roundedUnits (units + halfAt places) = units := by
  have positive := halfAt_pos places
  have divides := Int.dvd_trans (Int.natCast_dvd_natCast.2 (Nat.pow_dvd_pow 2 kept)) granular
  have fourfold : 4 * halfAt places ≤ (2 ^ shiftFor (units + halfAt places).natAbs : Nat) := by
    have more : 4 * 2 ^ (53 + places) ≤ 2 ^ shiftFor (units + halfAt places).natAbs := by
      calc 4 * 2 ^ (53 + places) = 2 ^ (2 + (53 + places)) := (Nat.pow_add 2 2 _).symm
        _ ≤ _ := Nat.pow_le_pow_right (by decide) (by omega)
    rw [halfAt] at *
    omega
  have error := roundDiv_error (units + halfAt places).natAbs
    (Nat.two_pow_pos (shiftFor (units + halfAt places).natAbs))
  rw [← Magnitude.rounded] at error
  apply eq_of_dvd_of_close (dvd_roundedUnits _) divides
  all_goals
    rw [roundedUnits]
    split <;> omega

/-- The floor of the sum, where the summand has no digits below those of the sum. -/
theorem ediv_of_kept (kept : shiftFor (units + halfAt places).natAbs ≤ shiftFor units.natAbs)
    (even : ∀ whole : Int, units = whole * (2 * halfAt places) → 2 ^ 52 < whole.natAbs →
      whole % 2 = 0) :
    roundedUnits (units + halfAt places) / (2 * halfAt places) =
      (units + halfAt places) / (2 * halfAt places) := by
  have positive := halfAt_pos places
  rcases Nat.lt_or_ge (shiftFor (units + halfAt places).natAbs) (54 + places) with short | long
  · rw [roundedUnits_add_halfAt granular kept (by omega)]
  obtain ⟨whole, parts, large⟩ := exists_whole granular (Nat.le_trans long kept)
  have result : roundedUnits (units + halfAt places) = units := by
    rcases Nat.eq_or_lt_of_le long with exactly | longer
    · have isEven : whole % 2 = 0 := by
        rcases Nat.eq_or_lt_of_le large with same | larger
        · omega
        · exact even whole parts larger
      rw [parts] at exactly ⊢
      have shifted : shiftFor (whole * (2 * halfAt places) + halfAt places).natAbs =
          53 + places + 1 := by
        omega
      have tie := roundedUnits_tie shifted
      rwa [isEven, Int.add_zero] at tie
    · exact roundedUnits_of_longer granular kept (by omega)
  have floor : (units + halfAt places) / (2 * halfAt places) = whole :=
    (Int.ediv_eq_iff_of_pos (by omega)).2 (by omega)
  rw [result, floor, parts, Int.mul_ediv_cancel _ (by omega)]

/-- Far above one half, a sum with it that passes a power of two is that power. -/
theorem roundedUnits_of_passed_far
    (passed : shiftFor units.natAbs < shiftFor (units + halfAt places).natAbs)
    (long : 54 + places ≤ shiftFor (units + halfAt places).natAbs) :
    roundedUnits (units + halfAt places) = units + halfAt places := by
  obtain ⟨below, above⟩ := passes (Int.le_of_lt (halfAt_pos places)) passed
  generalize total : units + halfAt places = sum at *
  generalize shiftFor sum.natAbs = shift at *
  have half_le : 2 ^ (53 + places) ≤ 2 ^ (shift - 1) :=
    Nat.pow_le_pow_right (by decide) (by omega)
  have power : 2 ^ (52 + shift) = 2 ^ (53 + (shift - 1)) := by congr 1; omega
  have power' : 2 ^ (53 + (shift - 1)) = 2 * 2 ^ (52 + (shift - 1)) := by
    rw [← Nat.pow_succ']
    congr 1
    omega
  have larger : 2 ^ (shift - 1) ≤ 2 ^ (52 + (shift - 1)) :=
    Nat.pow_le_pow_right (by decide) (by omega)
  have half_eq : halfAt places = (2 ^ (53 + places) : Nat) := rfl
  have shifted : shiftFor units.natAbs = shift - 1 := by
    apply shiftFor_eq <;> omega
  have digits : ((2 ^ (shift - 1) : Nat) : Int) ∣ (2 ^ (52 + shift) : Nat) - units := by
    apply Int.dvd_sub
    · exact Int.natCast_dvd_natCast.2 (Nat.pow_dvd_pow 2 (by omega))
    · rwa [shifted] at granular
  have least := Int.le_of_dvd (by omega) digits
  apply roundedUnits_eq_self (2 ^ 53) (shift - 1) (Nat.le_refl _)
  rw [← Nat.pow_add]
  omega

omit granular in
/-- Above one half, a sum with it that passes a power of two lies within a half of that power. -/
theorem ediv_of_passed
    (passed : shiftFor units.natAbs < shiftFor (units + halfAt places).natAbs)
    (short : shiftFor (units + halfAt places).natAbs ≤ 53 + places)
    (long : 2 + places ≤ shiftFor (units + halfAt places).natAbs) :
    roundedUnits (units + halfAt places) / (2 * halfAt places) =
      (units + halfAt places) / (2 * halfAt places) := by
  obtain ⟨below, above⟩ := passes (Int.le_of_lt (halfAt_pos places)) passed
  have positive := halfAt_pos places
  generalize total : units + halfAt places = sum at *
  generalize shiftFor sum.natAbs = shift at *
  obtain ⟨whole, power⟩ := halfAt_dvd (show 54 + places ≤ 52 + shift by omega)
  rw [Int.mul_comm] at power
  have low : ((2 ^ (52 + shift) : Nat) : Int) ≤ roundedUnits sum := by
    have same : roundedUnits (2 ^ (52 + shift) : Nat) = (2 ^ (52 + shift) : Nat) := by
      apply roundedUnits_eq_self (2 ^ 52) shift (by decide)
      rw [Int.natAbs_natCast, Nat.pow_add]
    rw [← same]
    exact roundedUnits_mono above
  have high : roundedUnits sum ≤ (2 ^ (52 + shift) : Nat) + halfAt places := by
    have most : 2 ^ (53 + places - shift) ≤ 2 ^ 52 :=
      Nat.pow_le_pow_right (by decide) (by omega)
    have same : roundedUnits ((2 ^ (52 + shift) : Nat) + halfAt places) =
        (2 ^ (52 + shift) : Nat) + halfAt places := by
      apply roundedUnits_eq_self (2 ^ 52 + 2 ^ (53 + places - shift)) shift (by omega)
      rw [Nat.add_mul, ← Nat.pow_add, ← Nat.pow_add, Nat.sub_add_cancel short, halfAt]
      exact Int.natAbs_natCast _
    rw [← same]
    exact roundedUnits_mono (by omega)
  have floor : sum / (2 * halfAt places) = whole :=
    (Int.ediv_eq_iff_of_pos (by omega)).2 (by omega)
  rw [floor]
  exact (Int.ediv_eq_iff_of_pos (by omega)).2 (by omega)

/-- The floor of a sum below one is zero, except just below one half. -/
theorem ediv_of_passed_one
    (passed : shiftFor units.natAbs < shiftFor (units + halfAt places).natAbs)
    (short : shiftFor (units + halfAt places).natAbs ≤ 1 + places)
    (notBelow : units ≠ halfAt places - (2 ^ places : Nat)) :
    roundedUnits (units + halfAt places) / (2 * halfAt places) =
      (units + halfAt places) / (2 * halfAt places) := by
  obtain ⟨below, above⟩ := passes (Int.le_of_lt (halfAt_pos places)) passed
  have positive := halfAt_pos places
  have power_le : 2 ^ (52 + shiftFor (units + halfAt places).natAbs) ≤ 2 ^ (53 + places) :=
    Nat.pow_le_pow_right (by decide) (by omega)
  have half_eq : halfAt places = (2 ^ (53 + places) : Nat) := rfl
  have double : 2 ^ (1 + places) = 2 * 2 ^ places := Nat.pow_add 2 1 places
  have digits : 2 ^ (53 + places) = 2 ^ 53 * 2 ^ places := Nat.pow_add ..
  have digits' : 2 ^ (52 + places) = 2 ^ 52 * 2 ^ places := Nat.pow_add ..
  have bounded : units + halfAt places ≤ 2 * halfAt places - (2 ^ (1 + places) : Nat) := by
    by_contra above
    have shifted : shiftFor units.natAbs = places := by
      apply shiftFor_eq <;> omega
    rw [shifted] at granular
    have divides : ((2 ^ places : Nat) : Int) ∣ halfAt places - units :=
      Int.dvd_sub (Int.natCast_dvd_natCast.2 (Nat.pow_dvd_pow 2 (by omega))) granular
    have same : halfAt places - units = (2 ^ places : Nat) := by
      have least := Int.le_of_dvd (by omega) divides
      apply eq_of_dvd_of_close divides (Int.dvd_refl _) <;> omega
    omega
  have nonneg : 0 ≤ units + halfAt places := Int.le_trans (Int.natCast_nonneg _) above
  have low : 0 ≤ roundedUnits (units + halfAt places) := roundedUnits_mono nonneg
  have high : roundedUnits (units + halfAt places) ≤
      2 * halfAt places - (2 ^ (1 + places) : Nat) := by
    have same : roundedUnits (2 * halfAt places - (2 ^ (1 + places) : Nat)) =
        2 * halfAt places - (2 ^ (1 + places) : Nat) :=
      roundedUnits_eq_self (2 ^ 53 - 1) (1 + places) (by decide) (by omega)
    rw [← same]
    exact roundedUnits_mono bounded
  rw [Int.ediv_eq_zero_of_lt low (by omega), Int.ediv_eq_zero_of_lt nonneg (by omega)]

/-- Adding one half as a double and taking the floor gives the floor of the exact sum, except for
the number just below one half and for odd numbers so large that a half is not kept. -/
theorem ediv_roundedUnits_add_halfAt (notBelow : units ≠ halfAt places - (2 ^ places : Nat))
    (even : ∀ whole : Int, units = whole * (2 * halfAt places) → 2 ^ 52 < whole.natAbs →
      whole % 2 = 0) :
    roundedUnits (units + halfAt places) / (2 * halfAt places) =
      (units + halfAt places) / (2 * halfAt places) := by
  rcases Nat.lt_or_ge (shiftFor units.natAbs) (shiftFor (units + halfAt places).natAbs)
    with passed | kept
  · rcases Nat.lt_or_ge (shiftFor (units + halfAt places).natAbs) (54 + places) with short | long
    · rcases Nat.lt_or_ge (shiftFor (units + halfAt places).natAbs) (2 + places)
        with shorter | longer
      · exact ediv_of_passed_one granular passed (by omega) notBelow
      · exact ediv_of_passed passed (by omega) longer
    · rw [roundedUnits_of_passed_far granular passed long]
  · exact ediv_of_kept granular kept even

end Cases

/-- The sum of the number just below one half and one half becomes one. -/
theorem roundedUnits_below_half (places : Nat) :
    roundedUnits (halfAt places - (2 ^ places : Nat) + halfAt places) = 2 * halfAt places := by
  have positive := Nat.two_pow_pos places
  have half_eq : halfAt places = (2 ^ (53 + places) : Nat) := rfl
  have digits : 2 ^ (53 + places) = 2 ^ 53 * 2 ^ places := Nat.pow_add ..
  have tie : halfAt places - (2 ^ places : Nat) + halfAt places =
      (2 ^ 53 - 1) * (2 * (2 ^ places : Nat)) + (2 ^ places : Nat) := by
    omega
  have size : ((2 ^ 53 - 1) * (2 * (2 ^ places : Nat)) + (2 ^ places : Nat) : Int).natAbs =
      (2 ^ 54 - 1) * 2 ^ places := by
    omega
  have shifted := shiftFor_mul_two_pow (show 2 ^ 53 ≤ 2 ^ 54 - 1 by decide) (by decide) places
  rw [← size] at shifted
  rw [tie, roundedUnits_tie shifted]
  omega

/-- The sum of an odd number that is too large for halves and one half becomes the next number. -/
theorem roundedUnits_odd {whole : Int} (odd : whole % 2 = 1) (large : 2 ^ 52 < whole.natAbs)
    (small : whole.natAbs < 2 ^ 53) :
    roundedUnits (whole * (2 * halfAt places) + halfAt places) =
      (whole + 1) * (2 * halfAt places) := by
  have parts : whole * (2 * halfAt places) + halfAt places = (2 * whole + 1) * halfAt places := by
    ring
  have size : (whole * (2 * halfAt places) + halfAt places).natAbs =
      (2 * whole + 1).natAbs * 2 ^ (53 + places) := by
    rw [parts, Int.natAbs_mul]
    rfl
  have shifted := shiftFor_mul_two_pow (show 2 ^ 53 ≤ (2 * whole + 1).natAbs by omega) (by omega)
    (53 + places)
  rw [← size] at shifted
  have tie := roundedUnits_tie shifted
  rwa [odd] at tie

end HalfUp

/-! ### Doubles -/

/-- The magnitude just below one half. -/
def belowHalfMagnitude : Magnitude :=
  ⟨2 ^ 53 - 1, 1020, Magnitude.largest.mantissa_lt, by decide, .inr (by decide)⟩

/-- The double just below one half. -/
def belowHalf : Double :=
  .finite false belowHalfMagnitude

/-- The doubles whose sum with one half is rounded up to the next whole number: the one just below
one half, and the odd ones that are too large for halves. -/
def slips (value : Double) : Bool :=
  value == belowHalf ||
    value.toInt?.any fun whole => decide (whole % 2 = 1 ∧ 2 ^ 52 < whole.natAbs)

/-- The whole number that is nearest to a finite double: the double is at most one half below it,
and less than one half above it. -/
def IsNearest (whole : Int) (negative : Bool) (magnitude : Magnitude) : Prop :=
  (2 * whole - 1) * unitsPerOne ≤ 2 * signedUnits negative magnitude ∧
    2 * signedUnits negative magnitude < (2 * whole + 1) * unitsPerOne

theorem unitsPerOne_eq : (unitsPerOne : Int) = 2 * halfAt 1020 := by
  have exponents : 54 + 1020 = 1074 := rfl
  rw [two_mul_halfAt, exponents]
  unfold unitsPerOne
  rfl

/-- The mantissa of a power of two is not too long. -/
theorem twoPow_mantissa_lt : 2 ^ 52 < 2 ^ 53 := by decide

/-- The magnitude of one half. -/
def halfMagnitude : Magnitude :=
  ⟨2 ^ 52, 1021, twoPow_mantissa_lt, by decide, .inr (by decide)⟩

theorem signedUnits_eq_halfAt {magnitude : Magnitude} (mantissa : magnitude.mantissa = 2 ^ 52)
    (shift : magnitude.shift = 1 + places) : signedUnits false magnitude = halfAt places := by
  rw [signedUnits, if_neg Bool.false_ne_true, Magnitude.units, mantissa, shift, ← Nat.pow_add,
    halfAt, ← Nat.add_assoc]

theorem signedUnits_halfMagnitude : signedUnits false halfMagnitude = halfAt 1020 :=
  signedUnits_eq_halfAt rfl rfl

theorem half_eq : Number.half = .finite false halfMagnitude := by
  have counted : (halfMagnitude.units : Int) = halfAt 1020 := signedUnits_halfMagnitude
  have twice : unitsPerOne * 1 = halfMagnitude.units * 2 := by
    have units := unitsPerOne_eq
    omega
  rw [Number.half, nearest, Magnitude.nearest?_congr (by decide) (by decide) twice,
    halfMagnitude.nearest?_units]
  rfl

theorem roundedUnits_full {magnitude : Magnitude} (full : magnitude.mantissa = 2 ^ 53 - 1)
    (long : 55 + places ≤ magnitude.shift) :
    roundedUnits (magnitude.units + halfAt places) = magnitude.units := by
  have shift := magnitude.shiftFor_units
  have units : magnitude.units = (2 ^ 53 - 1) * 2 ^ magnitude.shift := by rw [Magnitude.units, full]
  have shift' : shiftFor ((magnitude.units : Int) + halfAt places).natAbs = magnitude.shift := by
    have low : 2 ^ (52 + magnitude.shift) = 2 ^ 52 * 2 ^ magnitude.shift := Nat.pow_add ..
    have high : 2 ^ (53 + magnitude.shift) = 2 ^ 53 * 2 ^ magnitude.shift := Nat.pow_add ..
    have small : 2 ^ (53 + places) < 2 ^ magnitude.shift :=
      Nat.pow_lt_pow_right (by decide) (by omega)
    have positive := halfAt_pos places
    have half_eq : halfAt places = (2 ^ (53 + places) : Nat) := rfl
    apply shiftFor_eq <;> omega
  have granular :
      ((2 ^ shiftFor (magnitude.units : Int).natAbs : Nat) : Int) ∣ magnitude.units := by
    rw [Int.natAbs_natCast, shift]
    exact Int.natCast_dvd_natCast.2 (Nat.dvd_mul_left _ _)
  apply roundedUnits_of_longer granular
  · rw [shift', Int.natAbs_natCast, shift]
  · rwa [shift']

/-- The sum of a double and one half is rounded within the range of doubles. -/
theorem exists_add_half (negative : Bool) (magnitude : Magnitude) :
    ∃ negative' magnitude',
      add (.finite negative magnitude) Number.half = some (.finite negative' magnitude') ∧
        signedUnits negative' magnitude' =
          roundedUnits (signedUnits negative magnitude + halfAt 1020) := by
  have largest : roundedUnits (Magnitude.largest.units + halfAt 1020) = Magnitude.largest.units :=
    roundedUnits_full rfl (by decide)
  have size := natAbs_signedUnits negative magnitude
  have size_le := magnitude.units_le_largest
  have positive := halfAt_pos 1020
  have high : roundedUnits (signedUnits negative magnitude + halfAt 1020) ≤
      Magnitude.largest.units := by
    rw [← largest]
    exact roundedUnits_mono (by omega)
  have low : -(Magnitude.largest.units : Int) ≤
      roundedUnits (signedUnits negative magnitude + halfAt 1020) := by
    have same := roundedUnits_signedUnits true Magnitude.largest
    rw [signedUnits, if_pos rfl] at same
    rw [← same]
    exact roundedUnits_mono (by omega)
  have within : (roundedUnits (signedUnits negative magnitude + halfAt 1020)).natAbs ≤
      Magnitude.largest.units := by
    omega
  obtain ⟨sum, added, rank⟩ := rank?_add negative false magnitude halfMagnitude
  rw [← half_eq] at added
  rw [signedUnits_halfMagnitude, rankOf_of_le within] at rank
  cases sum with
  | finite negative' magnitude' =>
    exact ⟨negative', magnitude', added, Rank.at.inj (Option.some.inj rank)⟩
  | infinite below => cases below <;> cases rank

/-- `round` takes the floor of the rounded sum with one half. -/
theorem round_finite (negative : Bool) (magnitude : Magnitude) :
    (Number.double (.finite negative magnitude)).round =
      .ok (roundedUnits (signedUnits negative magnitude + halfAt 1020) / (2 * halfAt 1020)) := by
  obtain ⟨negative', magnitude', sum, units⟩ := exists_add_half negative magnitude
  have added : (Number.double (.finite negative magnitude)).add (.double Number.half) =
      .ok (.double (.finite negative' magnitude')) := by
    have run : (Number.double (.finite negative magnitude)).add (.double Number.half) =
      .ok (Number.ofResult (add (.finite negative magnitude) Number.half)) := rfl
    rw [run, sum]
    rfl
  rw [Number.round, added, ← units, ← unitsPerOne_eq]
  rfl

theorem granular_signedUnits (negative : Bool) (magnitude : Magnitude) :
    ((2 ^ shiftFor (signedUnits negative magnitude).natAbs : Nat) : Int) ∣
      signedUnits negative magnitude := by
  rw [Int.ofNat_dvd_left, natAbs_signedUnits, magnitude.shiftFor_units]
  exact Nat.dvd_mul_left _ _

theorem signedUnits_eq_belowHalf {magnitude : Magnitude}
    (mantissa : magnitude.mantissa = 2 ^ 53 - 1) (shift : magnitude.shift = places) :
    signedUnits false magnitude = halfAt places - (2 ^ places : Nat) := by
  have digits : 2 ^ (53 + places) = 2 ^ 53 * 2 ^ places := Nat.pow_add ..
  rw [signedUnits, if_neg Bool.false_ne_true, Magnitude.units, mantissa, shift, halfAt]
  omega

/-- A double is the one just below one half if its units are those of it. -/
theorem eq_belowHalf_iff {negative : Bool} {magnitude : Magnitude} :
    finite negative magnitude = belowHalf ↔
      signedUnits negative magnitude = halfAt 1020 - (2 ^ 1020 : Nat) := by
  have units : signedUnits false belowHalfMagnitude = halfAt 1020 - (2 ^ 1020 : Nat) :=
    signedUnits_eq_belowHalf rfl rfl
  constructor
  · rintro ⟨⟩
    exact units
  · intro same
    have above := digit_lt_halfAt 1020
    rw [← units] at same
    cases negative with
    | true =>
      rw [units, signedUnits, if_pos rfl] at same
      omega
    | false => rw [belowHalf, Magnitude.units_injective (Int.ofNat_inj.1 same)]

/-- The nearest whole number is the floor of the exact sum with one half. -/
theorem isNearest_iff {whole : Int} {negative : Bool} {magnitude : Magnitude} :
    IsNearest whole negative magnitude ↔
      (signedUnits negative magnitude + halfAt 1020) / (2 * halfAt 1020) = whole := by
  have positive := halfAt_pos 1020
  have low : (2 * whole - 1) * unitsPerOne =
      2 * (whole * (2 * halfAt 1020)) - 2 * halfAt 1020 := by
    rw [unitsPerOne_eq]
    ring
  have high : (2 * whole + 1) * unitsPerOne =
      2 * (whole * (2 * halfAt 1020)) + 2 * halfAt 1020 := by
    rw [unitsPerOne_eq]
    ring
  rw [IsNearest, low, high, Int.ediv_eq_iff_of_pos (by omega)]
  omega

/-- A whole number is the nearest one to the double that is equal to it. -/
theorem isNearest_of_toInt? {negative : Bool} {magnitude : Magnitude} {whole : Int}
    (equal : toInt? (.finite negative magnitude) = some whole) :
    IsNearest whole negative magnitude := by
  have units := toInt?_eq_some_iff.1 equal
  have positive := halfAt_pos 1020
  rw [unitsPerOne_eq] at units
  exact isNearest_iff.2 ((Int.ediv_eq_iff_of_pos (by omega)).2 (by omega))

/-- An odd number that a double is equal to is below `2 ^ 53`. -/
theorem natAbs_lt_of_odd {negative : Bool} {magnitude : Magnitude} {whole : Int}
    (odd : whole % 2 = 1) (units : signedUnits negative magnitude = whole * (2 * halfAt places)) :
    whole.natAbs < 2 ^ 53 := by
  have size : whole.natAbs * 2 ^ (54 + places) = magnitude.mantissa * 2 ^ magnitude.shift := by
    rw [← Magnitude.units, ← natAbs_signedUnits negative, units, two_mul_halfAt, Int.natAbs_mul,
      Int.natAbs_natCast]
  have short : magnitude.shift ≤ 54 + places := by
    by_contra long
    have divides : 2 ^ (1 + (54 + places)) ∣ whole.natAbs * 2 ^ (54 + places) := by
      rw [size]
      exact Nat.dvd_trans (Nat.pow_dvd_pow 2 (by omega)) (Nat.dvd_mul_left _ _)
    rw [Nat.pow_add] at divides
    have even := Nat.dvd_of_mul_dvd_mul_right (Nat.two_pow_pos _) divides
    omega
  have below : whole.natAbs * 2 ^ (54 + places) < 2 ^ 53 * 2 ^ (54 + places) := by
    calc whole.natAbs * 2 ^ (54 + places)
        = magnitude.mantissa * 2 ^ magnitude.shift := size
      _ ≤ magnitude.mantissa * 2 ^ (54 + places) :=
        Nat.mul_le_mul_left _ (Nat.pow_le_pow_right (by decide) short)
      _ < 2 ^ 53 * 2 ^ (54 + places) :=
        Nat.mul_lt_mul_of_pos_right magnitude.mantissa_lt (Nat.two_pow_pos _)
  exact Nat.lt_of_mul_lt_mul_right below

theorem slips_iff {value : Double} :
    value.slips = true ↔ value = belowHalf ∨
      ∃ whole, value.toInt? = some whole ∧ whole % 2 = 1 ∧ 2 ^ 52 < whole.natAbs := by
  rw [slips, Bool.or_eq_true, beq_iff_eq, Option.any_eq_true]
  simp only [decide_eq_true_eq]

/-- `round` of a double is the nearest whole number, or the next one if the double slips. -/
theorem round_nearest (negative : Bool) (magnitude : Magnitude) :
    ∃ whole, IsNearest whole negative magnitude ∧
      (∀ other, IsNearest other negative magnitude → other = whole) ∧
      (Number.double (.finite negative magnitude)).round =
        .ok (if slips (.finite negative magnitude) then whole + 1 else whole) := by
  refine ⟨_, isNearest_iff.2 rfl, fun other nearest => (isNearest_iff.1 nearest).symm, ?_⟩
  have positive := halfAt_pos 1020
  rw [round_finite]
  congr 1
  split
  · next slipped =>
    rcases slips_iff.1 slipped with below | ⟨whole, equal, odd, large⟩
    · have digit := digit_lt_halfAt 1020
      rw [eq_belowHalf_iff.1 below, roundedUnits_below_half, Int.ediv_self (by omega),
        Int.ediv_eq_zero_of_lt (by omega) (by omega)]
      rfl
    · have units := toInt?_eq_some_iff.1 equal
      rw [unitsPerOne_eq] at units
      have near := isNearest_iff.1 (isNearest_of_toInt? equal)
      rw [near, units, roundedUnits_odd odd large (natAbs_lt_of_odd odd units),
        Int.mul_ediv_cancel _ (by omega)]
  · next steady =>
    rw [slips_iff, not_or] at steady
    apply ediv_roundedUnits_add_halfAt (granular_signedUnits negative magnitude)
    · exact fun same => steady.1 (eq_belowHalf_iff.2 same)
    · intro whole units large
      by_contra odd
      rw [← unitsPerOne_eq] at units
      exact steady.2 ⟨whole, toInt?_eq_some_iff.2 units, by omega, large⟩

/-! ### Integers -/

/-- The double nearest to an integer is whole, and is the integer or too large for odd numbers. -/
theorem exists_roundedUnits_whole (places : Nat) (value : Int) :
    ∃ whole, roundedUnits (value * (2 * halfAt places)) = whole * (2 * halfAt places) ∧
      (whole = value ∨ 2 ^ 53 ≤ whole.natAbs) := by
  have size (whole : Int) :
      (whole * (2 * halfAt places)).natAbs = whole.natAbs * 2 ^ (54 + places) := by
    rw [two_mul_halfAt, Int.natAbs_mul, Int.natAbs_natCast]
  rcases Nat.lt_or_ge (2 ^ 53) value.natAbs with large | small
  · have low : 2 ^ 53 * 2 ^ (54 + places) ≤ (value * (2 * halfAt places)).natAbs := by
      rw [size]
      exact Nat.mul_le_mul_right _ (Nat.le_of_lt large)
    have long : 54 + places ≤ shiftFor (value * (2 * halfAt places)).natAbs := by
      have high := Nat.lt_of_le_of_lt low (lt_two_pow_shiftFor _)
      rw [← Nat.pow_add, Nat.pow_lt_pow_iff_right (by decide)] at high
      omega
    obtain ⟨whole, parts⟩ := Int.dvd_trans (halfAt_dvd long) (dvd_roundedUnits _)
    rw [Int.mul_comm (2 * halfAt places) whole] at parts
    refine ⟨whole, parts, .inr ?_⟩
    have rounded := Magnitude.rounded_mono low
    rw [Magnitude.rounded_mul_two_pow (Nat.le_refl _), ← natAbs_roundedUnits, parts,
      size] at rounded
    exact Nat.le_of_mul_le_mul_right rounded (Nat.two_pow_pos _)
  · exact ⟨value, roundedUnits_eq_self _ _ small (size value), .inl rfl⟩

/-- A whole double that slips is too small to be nearest to another number. -/
theorem natAbs_lt_of_slips {negative : Bool} {magnitude : Magnitude} {whole : Int}
    (equal : toInt? (.finite negative magnitude) = some whole)
    (slipped : slips (.finite negative magnitude) = true) : whole.natAbs < 2 ^ 53 := by
  have units := toInt?_eq_some_iff.1 equal
  rw [unitsPerOne_eq] at units
  rcases slips_iff.1 slipped with below | ⟨whole', equal', odd, -⟩
  · have digit := digit_lt_halfAt 1020
    have zero : IsNearest 0 negative magnitude := by
      rw [isNearest_iff, eq_belowHalf_iff.1 below]
      exact Int.ediv_eq_zero_of_lt (by omega) (by omega)
    have same := (isNearest_iff.1 zero).symm.trans (isNearest_iff.1 (isNearest_of_toInt? equal))
    omega
  · rw [equal, Option.some.injEq] at equal'
    subst equal'
    exact natAbs_lt_of_odd odd units

/-- `round` keeps an integer if a double is equal to it and the double does not slip. -/
theorem round_ofInt?_iff {value : Int} {nearest : Double} (found : ofInt? value = some nearest) :
    (Number.double nearest).round = .ok value ↔
      nearest.toInt? = some value ∧ nearest.slips = false := by
  obtain ⟨negative, magnitude, rfl, units⟩ := of_ofInt? found
  obtain ⟨whole, exactly, kept⟩ := exists_roundedUnits_whole 1020 value
  rw [unitsPerOne_eq, exactly, ← unitsPerOne_eq] at units
  have equal := toInt?_eq_some_iff.2 units
  obtain ⟨_, -, unique, run⟩ := round_nearest negative magnitude
  rw [← unique whole (isNearest_of_toInt? equal)] at run
  rw [run, equal, Except.ok.injEq, Option.some.injEq]
  cases slipped : slips (.finite negative magnitude) with
  | false => simp
  | true =>
    have small := natAbs_lt_of_slips equal slipped
    simp only [if_true, Bool.true_eq_false, and_false, iff_false]
    omega

end Double

namespace Primitive

open Eval

/-- What `round` answers for a number. -/
theorem round_run (recur : Datum → Eval Datum) (datum : Datum) {value : Number}
    (isNumber : datum.number? = some value) (around : Surroundings) (world : World) :
    (numeric "round" fun value => .int <$> value.round) recur [datum] around world =
      (match value.round with
        | .ok whole => .ok (.int whole)
        | .error error => .error (.arithmetic (.function "round" error)), world) := by
  have argument : expectNumber "round" datum = pure value := by rw [expectNumber, isNumber]
  rw [numeric, unary, argument, pure_bind]
  cases result : value.round <;> rfl

/-- `round` gives the nearest whole number, halves counted up, for every finite double but the one
just below one half and the odd ones that are too large for halves, for which it gives the next
number.  An integer is rounded by way of the nearest double, if there is one: it is kept if a double is equal
to it and is none of those. -/
theorem round_halves_up (recur : Datum → Eval Datum) (around : Surroundings) (world : World) :
    let round := numeric "round" fun value => .int <$> value.round
    (∀ negative magnitude, ∃ whole,
      Double.IsNearest whole negative magnitude ∧
      (∀ other, Double.IsNearest other negative magnitude → other = whole) ∧
      round recur [.double (.finite negative magnitude)] around world =
        (.ok (.int (if Double.slips (.finite negative magnitude) then whole + 1 else whole)), world)) ∧
    ∀ value : Int,
      (Double.ofInt? value = none →
        round recur [.int value] around world =
          (.error (.arithmetic (.function "round" .integerTooLarge)), world)) ∧
      ∀ nearest, Double.ofInt? value = some nearest →
        round recur [.int value] around world = round recur [.double nearest] around world ∧
        (round recur [.int value] around world = (.ok (.int value), world) ↔
          nearest.toInt? = some value ∧ nearest.slips = false) := by
  intro round
  refine ⟨fun negative magnitude => ?_, fun value => ⟨fun none => ?_, fun nearest found => ?_⟩⟩
  · obtain ⟨whole, near, unique, result⟩ := Double.round_nearest negative magnitude
    refine ⟨whole, near, unique, ?_⟩
    have run := round_run recur (.double (.finite negative magnitude)) rfl around world
    rw [result] at run
    exact run
  · have run := round_run recur (.int value) rfl around world
    have result : (Number.int value).round = .error .integerTooLarge := by
      rw [Number.round, Number.add, Number.arithmetic, Number.onDoubles, Number.toDouble, none]
      rfl
      nofun
    rw [result] at run
    exact run
  · have run := round_run recur (.int value) rfl around world
    have run' := round_run recur (.double nearest) rfl around world
    have result : (Number.int value).round = (Number.double nearest).round := by
      rw [Number.round, Number.round, Number.add, Number.arithmetic, Number.onDoubles,
        Number.toDouble, found]
      · rfl
      · nofun
    rw [result] at run
    refine ⟨run.trans run'.symm, ?_⟩
    rw [← Double.round_ofInt?_iff found]
    refine run.congr_left.trans ?_
    cases (Number.double nearest).round <;> simp

/-- Just below one half the nearest number is zero, and one is given; the integer behind `2 ^ 53`
becomes that power, and for an integer beyond the range of doubles there is no answer. -/
theorem round_halves_up_missed :
    let around := (Evaluator.mk 100 .default).surroundings (.int 0)
    let world : World := .ofScope [] 0
    let recur := evaluateFor .default 5
    let round := numeric "round" fun value => .int <$> value.round
    (Double.IsNearest 0 false Double.belowHalfMagnitude ∧
      round recur [.double Double.belowHalf] around world = (.ok (.int 1), world)) ∧
    (Double.ofInt? (2 ^ 53 + 1) =
        some (.finite false ⟨2 ^ 52, 1075, by decide, by decide, .inr (by decide)⟩) ∧
      round recur [.int (2 ^ 53 + 1)] around world ≠ (.ok (.int (2 ^ 53 + 1)), world)) ∧
    (Double.ofInt? (10 ^ 400) = none ∧
      round recur [.int (10 ^ 400)] around world =
        (.error (.arithmetic (.function "round" .integerTooLarge)), world)) := by
  intro around world recur round
  obtain ⟨doubles, integers⟩ := round_halves_up recur around world
  have near : Double.IsNearest 0 false Double.belowHalfMagnitude := by
    have digit := Double.digit_lt_halfAt 1020
    rw [Double.isNearest_iff, Double.eq_belowHalf_iff.1 rfl]
    exact Int.ediv_eq_zero_of_lt (by omega) (by omega)
  have nearest : Double.ofInt? (2 ^ 53 + 1) =
      some (.finite false ⟨2 ^ 52, 1075, by decide, by decide, .inr (by decide)⟩) := by
    decide +kernel
  have tooLarge : Double.ofInt? (10 ^ 400) = none := by decide +kernel
  refine ⟨⟨near, ?_⟩, ⟨nearest, ?_⟩, tooLarge, (integers (10 ^ 400)).1 tooLarge⟩
  · obtain ⟨whole, -, unique, run⟩ := doubles false Double.belowHalfMagnitude
    have slips : Double.slips (.finite false Double.belowHalfMagnitude) = true :=
      Double.slips_iff.2 (.inl rfl)
    rw [← unique 0 near, if_pos slips] at run
    exact run
  · intro kept
    have equal := (((integers (2 ^ 53 + 1)).2 _ nearest).2.1 kept).1
    exact absurd equal (by decide +kernel)

end Primitive

end SandboxLisp
