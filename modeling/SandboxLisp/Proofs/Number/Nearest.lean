import SandboxLisp.Double.Arithmetic
import SandboxLisp.Proofs.Data.Essence
import SandboxLisp.Proofs.Number.Rounding

/-!
# Whole counts of units, rounded to doubles

A sum of two doubles is a whole number of units, and so is an integer.  `Magnitude.rounded` is the
number of units that such a count becomes.  It keeps order, leaves the units of a magnitude as they
are, and is off by at most half a unit of the last binary digit, which is at most one part in
`2 ^ 53` of the result.

`Double.roundedUnits` is the same with a sign, and `Double.rank?_add` says that a sum has the rank
of its exact units rounded.
-/

namespace SandboxLisp

/-! ### Quotients -/

section Quotients

variable {numerator numerator' denominator : Nat}

theorem div_le_roundDiv (numerator denominator : Nat) :
    numerator / denominator ≤ roundDiv numerator denominator := by
  simp only [roundDiv]
  split <;> try split <;> try split
  all_goals omega

theorem roundDiv_le_div_add_one (numerator denominator : Nat) :
    roundDiv numerator denominator ≤ numerator / denominator + 1 := by
  simp only [roundDiv]
  split <;> try split <;> try split
  all_goals omega

/-- A rounded quotient is off by at most one half. -/
theorem roundDiv_error (numerator : Nat) (positive : 0 < denominator) :
    2 * (roundDiv numerator denominator * denominator) ≤ 2 * numerator + denominator ∧
      2 * numerator ≤ 2 * (roundDiv numerator denominator * denominator) + denominator := by
  have parts := Nat.div_add_mod numerator denominator
  have next : (numerator / denominator + 1) * denominator =
      denominator * (numerator / denominator) + denominator := by
    rw [Nat.add_mul, Nat.one_mul, Nat.mul_comm]
  have same : numerator / denominator * denominator = denominator * (numerator / denominator) :=
    Nat.mul_comm _ _
  simp only [roundDiv]
  split
  · omega
  split
  · have below : numerator % denominator < denominator := Nat.mod_lt _ positive
    omega
  split <;> omega

/-- Rounding keeps the order of quotients. -/
theorem roundDiv_mono (le : numerator ≤ numerator') :
    roundDiv numerator denominator ≤ roundDiv numerator' denominator := by
  rcases Nat.lt_or_ge (numerator / denominator) (numerator' / denominator) with below | above
  · calc roundDiv numerator denominator
        ≤ numerator / denominator + 1 := roundDiv_le_div_add_one _ _
      _ ≤ numerator' / denominator := below
      _ ≤ roundDiv numerator' denominator := div_le_roundDiv _ _
  · have same : numerator / denominator = numerator' / denominator :=
      Nat.le_antisymm (Nat.div_le_div_right le) above
    have parts := Nat.div_add_mod numerator denominator
    have parts' := Nat.div_add_mod numerator' denominator
    have rests : numerator % denominator ≤ numerator' % denominator := by
      rw [same] at parts
      omega
    simp only [roundDiv, same]
    split <;> split <;> (try split) <;> (try split) <;> (try split) <;> omega

end Quotients

/-! ### How far a count is shifted -/

section Shift

variable {whole other : Nat}

theorem lt_two_pow_shiftFor (whole : Nat) : whole < 2 ^ (53 + shiftFor whole) := by
  calc whole < 2 ^ (whole.log2 + 1) := Nat.lt_log2_self
    _ ≤ 2 ^ (53 + shiftFor whole) := Nat.pow_le_pow_right (by decide) (by unfold shiftFor; omega)

theorem two_pow_le_of_shiftFor (shifted : shiftFor whole ≠ 0) :
    2 ^ (52 + shiftFor whole) ≤ whole := by
  have log : 52 + shiftFor whole = whole.log2 := by
    unfold shiftFor at shifted ⊢
    omega
  have notZero : whole ≠ 0 := by
    rintro rfl
    exact shifted rfl
  rw [log]
  exact (Nat.le_log2 notZero).1 (Nat.le_refl _)

/-- A count between two neighbouring powers of two is shifted by what is left of their exponents. -/
theorem shiftFor_eq {shift : Nat} (low : 2 ^ (52 + shift) ≤ whole)
    (high : whole < 2 ^ (53 + shift)) : shiftFor whole = shift := by
  have notZero : whole ≠ 0 := Nat.ne_of_gt (Nat.lt_of_lt_of_le (Nat.two_pow_pos _) low)
  have above := (Nat.le_log2 notZero).2 low
  have below := (Nat.log2_lt notZero).2 high
  unfold shiftFor
  omega

/-- A count that takes one binary digit more than a mantissa has is shifted by one more. -/
theorem shiftFor_mul_two_pow {count : Nat} (low : 2 ^ 53 ≤ count) (high : count < 2 ^ 54)
    (places : Nat) : shiftFor (count * 2 ^ places) = places + 1 := by
  apply shiftFor_eq
  · calc 2 ^ (52 + (places + 1)) = 2 ^ (53 + places) := by congr 1; omega
      _ = 2 ^ 53 * 2 ^ places := Nat.pow_add ..
      _ ≤ count * 2 ^ places := Nat.mul_le_mul_right _ low
  · calc count * 2 ^ places < 2 ^ 54 * 2 ^ places :=
          Nat.mul_lt_mul_of_pos_right high (Nat.two_pow_pos _)
      _ = 2 ^ (54 + places) := (Nat.pow_add ..).symm
      _ = 2 ^ (53 + (places + 1)) := by congr 1; omega

theorem shiftFor_mono (le : whole ≤ other) : shiftFor whole ≤ shiftFor other := by
  by_cases shifted : shiftFor whole = 0
  · omega
  · have low := Nat.le_trans (two_pow_le_of_shiftFor shifted) le
    have high := Nat.lt_of_le_of_lt low (lt_two_pow_shiftFor other)
    have exponents := (Nat.pow_lt_pow_iff_right (by decide)).1 high
    omega

end Shift

namespace Magnitude

/-! ### Counts of units -/

/-- A whole number of units rounded to as many binary digits as a mantissa has. -/
def rounded (whole : Nat) : Nat :=
  roundDiv whole (2 ^ shiftFor whole) * 2 ^ shiftFor whole

section Rounded

variable {whole other : Nat}

theorem roundDiv_le_two_pow (whole : Nat) : roundDiv whole (2 ^ shiftFor whole) ≤ 2 ^ 53 := by
  have below : whole / 2 ^ shiftFor whole < 2 ^ 53 := by
    rw [Nat.div_lt_iff_lt_mul (Nat.two_pow_pos _), ← Nat.pow_add]
    exact lt_two_pow_shiftFor whole
  exact Nat.le_trans (roundDiv_le_div_add_one _ _) below

theorem two_pow_le_roundDiv (shifted : shiftFor whole ≠ 0) :
    2 ^ 52 ≤ roundDiv whole (2 ^ shiftFor whole) := by
  have above : 2 ^ 52 ≤ whole / 2 ^ shiftFor whole := by
    rw [Nat.le_div_iff_mul_le (Nat.two_pow_pos _), ← Nat.pow_add]
    exact two_pow_le_of_shiftFor shifted
  exact Nat.le_trans above (div_le_roundDiv _ _)

/-- A count that the shift leaves whole is not changed. -/
theorem rounded_of_dvd (divides : 2 ^ shiftFor whole ∣ whole) : rounded whole = whole := by
  obtain ⟨quotient, parts⟩ := divides
  rw [rounded]
  generalize shiftFor whole = shift at *
  rw [parts, Nat.mul_comm (2 ^ shift), roundDiv_mul quotient (Nat.two_pow_pos _)]

/-- What a mantissa can count, at any shift, is not changed. -/
theorem rounded_mul_two_pow {count : Nat} (few : count ≤ 2 ^ 53) (shift : Nat) :
    rounded (count * 2 ^ shift) = count * 2 ^ shift := by
  apply rounded_of_dvd
  rcases Nat.lt_or_ge shift (shiftFor (count * 2 ^ shift)) with less | more
  · have low := two_pow_le_of_shiftFor (Nat.ne_zero_of_lt less)
    have high : count * 2 ^ shift ≤ 2 ^ (52 + shiftFor (count * 2 ^ shift)) := by
      calc count * 2 ^ shift ≤ 2 ^ 53 * 2 ^ shift := Nat.mul_le_mul_right _ few
        _ = 2 ^ (53 + shift) := (Nat.pow_add ..).symm
        _ ≤ _ := Nat.pow_le_pow_right (by decide) (by omega)
    have same := Nat.le_antisymm high low
    rw [Nat.pow_add] at same
    exact ⟨2 ^ 52, same.trans (Nat.mul_comm _ _)⟩
  · exact Nat.dvd_trans (Nat.pow_dvd_pow 2 more) (Nat.dvd_mul_left _ _)

/-- Rounding keeps the order of counts. -/
theorem rounded_mono (le : whole ≤ other) : rounded whole ≤ rounded other := by
  rcases Nat.eq_or_lt_of_le (shiftFor_mono le) with same | less
  · rw [rounded, rounded, same]
    exact Nat.mul_le_mul_right _ (roundDiv_mono le)
  · have shifted : shiftFor other ≠ 0 := by omega
    calc rounded whole
        ≤ 2 ^ 53 * 2 ^ shiftFor whole := Nat.mul_le_mul_right _ (roundDiv_le_two_pow whole)
      _ = 2 ^ (53 + shiftFor whole) := (Nat.pow_add ..).symm
      _ ≤ 2 ^ (52 + shiftFor other) := Nat.pow_le_pow_right (by decide) (by omega)
      _ = 2 ^ 52 * 2 ^ shiftFor other := Nat.pow_add ..
      _ ≤ rounded other := Nat.mul_le_mul_right _ (two_pow_le_roundDiv shifted)

/-- A count is off by at most one part in `2 ^ 53` of what it is rounded to. -/
theorem rounded_error (whole : Nat) :
    2 ^ 53 * rounded whole ≤ 2 ^ 53 * whole + rounded whole ∧
      2 ^ 53 * whole ≤ 2 ^ 53 * rounded whole + rounded whole := by
  by_cases shifted : shiftFor whole = 0
  · have exactly : rounded whole = whole := rounded_of_dvd (by simp [shifted])
    omega
  · have error := roundDiv_error whole (Nat.two_pow_pos (shiftFor whole))
    have least : 2 ^ 52 * 2 ^ shiftFor whole ≤ rounded whole :=
      Nat.mul_le_mul_right _ (two_pow_le_roundDiv shifted)
    rw [← rounded] at error
    omega

/-! ### Magnitudes -/

theorem of_ofParts? {mantissa shift : Nat} {magnitude : Magnitude}
    (found : ofParts? mantissa shift = some magnitude) :
    magnitude.mantissa = mantissa ∧ magnitude.shift = shift := by
  rw [ofParts?] at found
  split at found
  · cases found
    exact ⟨rfl, rfl⟩
  · cases found

/-- The magnitude nearest to a count has the rounded count of units. -/
theorem units_of_nearest? {magnitude : Magnitude} (found : nearest? whole 1 = some magnitude) :
    magnitude.units = rounded whole := by
  simp only [nearest?, Nat.div_one, Nat.one_mul] at found
  rw [rounded, units]
  split at found
  · next full =>
    obtain ⟨mantissa, shift⟩ := of_ofParts? found
    rw [mantissa, shift, full, ← Nat.pow_add, ← Nat.pow_add]
    congr 1
    omega
  · obtain ⟨mantissa, shift⟩ := of_ofParts? found
    rw [mantissa, shift]

/-- A count that is not rounded beyond every magnitude has a nearest one. -/
theorem exists_nearest? {bound : Magnitude} (within : rounded whole ≤ bound.units) :
    ∃ magnitude, nearest? whole 1 = some magnitude := by
  have most : bound.units < 2 ^ 53 * 2 ^ bound.shift :=
    Nat.mul_lt_mul_of_pos_right bound.mantissa_lt (Nat.two_pow_pos _)
  have shift_le := bound.shift_le
  have digits := roundDiv_le_two_pow whole
  have form : shiftFor whole = 0 ∨ 2 ^ 52 ≤ roundDiv whole (2 ^ shiftFor whole) :=
    (Decidable.em _).imp_right two_pow_le_roundDiv
  rw [rounded] at within
  simp only [nearest?, Nat.div_one, Nat.one_mul]
  generalize roundDiv whole (2 ^ shiftFor whole) = mantissa at *
  generalize shiftFor whole = shift at *
  have small : mantissa * 2 ^ shift < 2 ^ 53 * 2 ^ bound.shift := Nat.lt_of_le_of_lt within most
  have bounded {exponent : Nat} (reaches : 2 ^ (52 + exponent) ≤ mantissa * 2 ^ shift) :
      exponent ≤ 2045 := by
    have exponents := Nat.lt_of_le_of_lt reaches small
    rw [← Nat.pow_add, Nat.pow_lt_pow_iff_right (by decide)] at exponents
    omega
  split
  · next full =>
    subst full
    have reaches : 2 ^ (52 + (shift + 1)) ≤ 2 ^ 53 * 2 ^ shift := by
      rw [← Nat.pow_add]
      exact Nat.pow_le_pow_right (by decide) (by omega)
    have shifted : shift + 1 ≤ 2045 := bounded reaches
    exact ⟨_, dif_pos ⟨by decide, shifted, .inr (Nat.le_refl _)⟩⟩
  · next notFull =>
    have shifted : shift ≤ 2045 := by
      rcases form with rfl | long
      · exact Nat.zero_le _
      · exact bounded (by rw [Nat.pow_add]; exact Nat.mul_le_mul_right _ long)
    exact ⟨_, dif_pos ⟨by omega, shifted, form⟩⟩

/-- The largest magnitude. -/
def largest : Magnitude :=
  ⟨2 ^ 53 - 1, 2045, by decide, by decide, .inr (by decide)⟩

theorem units_le_largest (magnitude : Magnitude) : magnitude.units ≤ largest.units := by
  have mantissa_le : magnitude.mantissa ≤ largest.mantissa :=
    Nat.le_sub_one_of_lt magnitude.mantissa_lt
  exact Nat.mul_le_mul mantissa_le (Nat.pow_le_pow_right (by decide) magnitude.shift_le)

/-- A count has a nearest magnitude if it is not rounded beyond the largest one. -/
theorem isSome_nearest?_iff : (nearest? whole 1).isSome ↔ rounded whole ≤ largest.units := by
  constructor
  · intro isSome
    obtain ⟨magnitude, found⟩ := Option.isSome_iff_exists.1 isSome
    rw [← units_of_nearest? found]
    exact units_le_largest magnitude
  · intro within
    obtain ⟨magnitude, found⟩ := exists_nearest? within
    rw [found]
    rfl

/-- Magnitudes with the same units are the same. -/
theorem units_injective {first second : Magnitude} (same : first.units = second.units) :
    first = second := by
  have nearest := first.nearest?_units
  rw [same, second.nearest?_units] at nearest
  exact (Option.some.inj nearest).symm

end Rounded

end Magnitude

namespace Double

/-! ### Signed counts -/

/-- A signed count of units, rounded. -/
def roundedUnits (units : Int) : Int :=
  if units < 0 then -(Magnitude.rounded units.natAbs : Int) else Magnitude.rounded units.natAbs

section Signed

variable {units other : Int}

theorem roundedUnits_of_nonneg (nonneg : 0 ≤ units) :
    roundedUnits units = Magnitude.rounded units.natAbs :=
  if_neg (Int.not_lt.2 nonneg)

theorem roundedUnits_of_neg (negative : units < 0) :
    roundedUnits units = -(Magnitude.rounded units.natAbs : Int) :=
  if_pos negative

/-- Rounding keeps the order of signed counts. -/
theorem roundedUnits_mono (le : units ≤ other) : roundedUnits units ≤ roundedUnits other := by
  by_cases negative : units < 0
  · rw [roundedUnits_of_neg negative]
    by_cases negative' : other < 0
    · rw [roundedUnits_of_neg negative']
      have sizes : Magnitude.rounded other.natAbs ≤ Magnitude.rounded units.natAbs :=
        Magnitude.rounded_mono (by omega)
      omega
    · rw [roundedUnits_of_nonneg (Int.not_lt.1 negative')]
      omega
  · rw [roundedUnits_of_nonneg (Int.not_lt.1 negative), roundedUnits_of_nonneg (by omega)]
    have sizes : Magnitude.rounded units.natAbs ≤ Magnitude.rounded other.natAbs :=
      Magnitude.rounded_mono (by omega)
    omega

theorem natAbs_signedUnits (negative : Bool) (magnitude : Magnitude) :
    (signedUnits negative magnitude).natAbs = magnitude.units := by
  cases negative <;> simp [signedUnits]

/-- A signed count that the shift leaves whole is not changed. -/
theorem roundedUnits_of_dvd
    (divides : ((2 ^ shiftFor units.natAbs : Nat) : Int) ∣ units) : roundedUnits units = units := by
  rw [roundedUnits, Magnitude.rounded_of_dvd (Int.ofNat_dvd_left.1 divides)]
  split <;> omega

/-- What a signed count is rounded to has no digits below those that the shift keeps. -/
theorem dvd_roundedUnits (units : Int) :
    ((2 ^ shiftFor units.natAbs : Nat) : Int) ∣ roundedUnits units := by
  rw [roundedUnits]
  split
  · exact Int.dvd_neg.2 (Int.natCast_dvd_natCast.2 (Nat.dvd_mul_left _ _))
  · exact Int.natCast_dvd_natCast.2 (Nat.dvd_mul_left _ _)

/-- What a mantissa can count, at any shift and with any sign, is not changed. -/
theorem roundedUnits_eq_self (count shift : Nat) (few : count ≤ 2 ^ 53)
    (counted : units.natAbs = count * 2 ^ shift) : roundedUnits units = units := by
  have same := Magnitude.rounded_mul_two_pow few shift
  rw [← counted] at same
  rw [roundedUnits, same]
  split <;> omega

/-- The units of a double are not changed. -/
theorem roundedUnits_signedUnits (negative : Bool) (magnitude : Magnitude) :
    roundedUnits (signedUnits negative magnitude) = signedUnits negative magnitude :=
  roundedUnits_eq_self _ _ (Nat.le_of_lt magnitude.mantissa_lt)
    (natAbs_signedUnits negative magnitude)

/-- A signed count is off by at most one part in `2 ^ 53` of what it is rounded to. -/
theorem roundedUnits_error (units : Int) :
    2 ^ 53 * (roundedUnits units - units).natAbs ≤ (roundedUnits units).natAbs := by
  have error := Magnitude.rounded_error units.natAbs
  rw [roundedUnits]
  split <;> omega

theorem natAbs_roundedUnits (units : Int) :
    (roundedUnits units).natAbs = Magnitude.rounded units.natAbs := by
  rw [roundedUnits]
  split <;> omega

/-- Rounding keeps the sign. -/
theorem roundedUnits_pos (positive : 0 < units) : 0 < roundedUnits units := by
  have one : roundedUnits 1 = 1 := roundedUnits_eq_self 1 0 (by decide) rfl
  have least := roundedUnits_mono (show 1 ≤ units from positive)
  omega

theorem roundedUnits_neg (negative : units < 0) : roundedUnits units < 0 := by
  have one : roundedUnits (-1) = -1 := roundedUnits_eq_self 1 0 (by decide) rfl
  have most := roundedUnits_mono (show units ≤ -1 by omega)
  omega

/-- Rounding twice is rounding once. -/
theorem roundedUnits_roundedUnits (units : Int) :
    roundedUnits (roundedUnits units) = roundedUnits units := by
  have counted := natAbs_roundedUnits units
  rw [Magnitude.rounded] at counted
  exact roundedUnits_eq_self _ _ (Magnitude.roundDiv_le_two_pow _) counted

/-! ### Ranks -/

/-- The rank of a count of units; the counts beyond the largest double stand at the ends. -/
def rankOf (units : Int) : Rank :=
  if units < -(Magnitude.largest.units : Int) then .lowest
  else if Magnitude.largest.units < units then .highest
  else .at units

theorem rankOf_of_le (le : units.natAbs ≤ Magnitude.largest.units) : rankOf units = .at units := by
  rw [rankOf, if_neg (by omega), if_neg (by omega)]

/-- What is other to a larger count has a higher rank, unless it is at the lower end. -/
theorem compare_rankOf (above : units < other)
    (within : -(Magnitude.largest.units : Int) ≤ other) :
    (Rank.at units).compare (rankOf other) = .lt := by
  rw [rankOf, if_neg (Int.not_lt.2 within)]
  split
  · rfl
  · exact Int.compare_eq_lt.2 above

theorem rankOf_compare (below : other < units)
    (within : other ≤ Magnitude.largest.units) :
    (rankOf other).compare (Rank.at units) = .lt := by
  rw [rankOf]
  split
  · rfl
  · rw [if_neg (Int.not_lt.2 within)]
    exact Int.compare_eq_lt.2 below

/-- The double nearest to a signed count has the rank of the rounded count. -/
theorem rank?_nearest (units : Int) :
    (Number.double (nearest (units < 0) units.natAbs 1)).rank? =
      some (rankOf (roundedUnits units)) := by
  have isSome := @Magnitude.isSome_nearest?_iff units.natAbs
  rw [← natAbs_roundedUnits] at isSome
  rw [nearest]
  cases found : Magnitude.nearest? units.natAbs 1 with
  | none =>
    have beyond : ¬(roundedUnits units).natAbs ≤ Magnitude.largest.units := by
      rw [← isSome, found]
      exact Bool.false_ne_true
    by_cases negative : units < 0
    · have below := roundedUnits_of_neg negative
      rw [rankOf, if_pos (by omega), decide_eq_true negative]
      rfl
    · have above := roundedUnits_of_nonneg (Int.not_lt.1 negative)
      rw [rankOf, if_neg (by omega), if_pos (by omega), decide_eq_false negative]
      rfl
  | some magnitude =>
    have within : (roundedUnits units).natAbs ≤ Magnitude.largest.units := by
      rw [← isSome, found]
      rfl
    rw [rankOf_of_le within]
    simp [Number.rank?, signedUnits, roundedUnits, Magnitude.units_of_nearest? found]

/-- The sum of two doubles has the rank of the sum of their units. -/
theorem rank?_add (negative negative' : Bool) (magnitude magnitude' : Magnitude) :
    ∃ sum, add (.finite negative magnitude) (.finite negative' magnitude') = some sum ∧
      (Number.double sum).rank? = some (rankOf (roundedUnits
        (signedUnits negative magnitude + signedUnits negative' magnitude'))) := by
  rw [add]
  generalize signedUnits negative magnitude + signedUnits negative' magnitude' = units
  by_cases zero : units = 0
  · subst zero
    have same : rankOf (roundedUnits 0) = .at 0 := rankOf_of_le (Nat.zero_le _)
    refine ⟨_, if_pos rfl, ?_⟩
    rw [same]
    cases negative && negative' <;> rfl
  · exact ⟨_, if_neg zero, rank?_nearest units⟩

/-! ### Integers -/

/-- The double nearest to an integer has the units of the integer rounded. -/
theorem of_ofInt? {value : Int} {nearest : Double} (found : ofInt? value = some nearest) :
    ∃ negative magnitude, nearest = .finite negative magnitude ∧
      signedUnits negative magnitude = roundedUnits (value * unitsPerOne) := by
  obtain ⟨magnitude, closest, rfl⟩ := Option.map_eq_some_iff.1 found
  refine ⟨_, magnitude, rfl, ?_⟩
  have positive : 0 < (unitsPerOne : Int) := Int.natCast_pos.2 unitsPerOne_pos
  have units : value.natAbs * unitsPerOne = (value * (unitsPerOne : Int)).natAbs := by
    rw [Int.natAbs_mul, Int.natAbs_natCast]
  rw [units] at closest
  have sign : value * (unitsPerOne : Int) < 0 ↔ value < 0 := by
    refine ⟨fun negative => Int.not_le.1 fun nonneg => ?_,
      fun negative => Int.mul_neg_of_neg_of_pos negative positive⟩
    exact absurd (Int.mul_nonneg nonneg (Int.le_of_lt positive)) (Int.not_le.2 negative)
  simp only [signedUnits, roundedUnits, sign, Magnitude.units_of_nearest? closest,
    decide_eq_true_eq]

/-- A double is a whole number if its units are those of the number. -/
theorem toInt?_eq_some_iff {negative : Bool} {magnitude : Magnitude} {whole : Int} :
    toInt? (.finite negative magnitude) = some whole ↔
      signedUnits negative magnitude = whole * unitsPerOne := by
  have isWhole : (finite negative magnitude).isWhole = true ↔
      (unitsPerOne : Int) ∣ signedUnits negative magnitude := by
    rw [Int.ofNat_dvd_left, natAbs_signedUnits, isWhole, beq_iff_eq, Nat.dvd_iff_mod_eq_zero]
  have positive : (unitsPerOne : Int) ≠ 0 := Int.natCast_ne_zero.2 (Nat.ne_of_gt unitsPerOne_pos)
  rw [toInt?, truncate?]
  constructor
  · intro found
    split at found
    · next divides =>
      rw [← Option.some.inj found, Int.tdiv_mul_cancel (isWhole.1 divides)]
    · cases found
  · intro units
    rw [if_pos (isWhole.2 (units ▸ Int.dvd_mul_left _ _)), units, Int.mul_tdiv_cancel _ positive]

end Signed

end Double

end SandboxLisp
