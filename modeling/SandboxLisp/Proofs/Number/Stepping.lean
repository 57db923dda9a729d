import SandboxLisp.Proofs.Number.Nearest

/-!
# Steps towards an end

A loop that adds a step to a number goes on as long as the number comes before the end, in the
direction of the step.  `Listed` says which numbers it has come by when it ends, and `Trapped` that
it comes to a number that stays as it is when the step is added.

`exists_advance` is what one step does: the sum comes behind the number, or it is a double that does
not move again.  It rests on the order and the fixed points of rounding alone, so the directions and
the mixtures of integers and doubles are not told apart further.
-/

namespace SandboxLisp

namespace Double

variable {units : Int}

/-- A step added to a rounded count does not lead back. -/
theorem le_roundedUnits_add (units : Int) {stride : Int} (forward : 0 ≤ stride) :
    roundedUnits units ≤ roundedUnits (roundedUnits units + stride) := by
  have mono := roundedUnits_mono (show roundedUnits units ≤ roundedUnits units + stride by omega)
  rwa [roundedUnits_roundedUnits] at mono

theorem roundedUnits_add_le (units : Int) {stride : Int} (backward : stride ≤ 0) :
    roundedUnits (roundedUnits units + stride) ≤ roundedUnits units := by
  have mono := roundedUnits_mono (show roundedUnits units + stride ≤ roundedUnits units by omega)
  rwa [roundedUnits_roundedUnits] at mono

/-- A step added to a rounded count that does not lead beyond the count itself is lost. -/
theorem roundedUnits_add_of_le {stride : Int} (forward : 0 ≤ stride)
    (within : roundedUnits (roundedUnits units + stride) ≤ units) :
    roundedUnits (roundedUnits units + stride) = roundedUnits units := by
  have mono := roundedUnits_mono within
  rw [roundedUnits_roundedUnits] at mono
  exact Int.le_antisymm mono (le_roundedUnits_add units forward)

theorem roundedUnits_add_of_ge {stride : Int} (backward : stride ≤ 0)
    (within : units ≤ roundedUnits (roundedUnits units + stride)) :
    roundedUnits (roundedUnits units + stride) = roundedUnits units := by
  have mono := roundedUnits_mono within
  rw [roundedUnits_roundedUnits] at mono
  exact Int.le_antisymm (roundedUnits_add_le units backward) mono

end Double

namespace Number

/-! ### Steps -/

/-- Whether the first of two numbers comes before the second in the direction of a step. -/
def precedes (step first second : Number) : Bool :=
  if (int 0).less step then first.less second else second.less first

/-- The numbers from the current one on, by steps, that come before the end. -/
inductive Listed (finish step : Number) : Number → List Number → Prop
  | done {current : Number} (reached : precedes step current finish = false) :
      Listed finish step current []
  | more {current next : Number} {rest : List Number} (before : precedes step current finish = true)
      (sum : current.add step = .ok next) (behind : Listed finish step next rest) :
      Listed finish step current (current :: rest)

/-- The steps from the current number come to one before the end that does not move. -/
inductive Trapped (finish step : Number) : Number → Prop
  | here {current : Number} (before : precedes step current finish = true)
      (sum : current.add step = .ok current) : Trapped finish step current
  | later {current next : Number} (before : precedes step current finish = true)
      (sum : current.add step = .ok next) (behind : Trapped finish step next) :
      Trapped finish step current

section Steps

variable {finish step current : Number} {numbers : List Number}

/-- The numbers are determined. -/
theorem Listed.unique {other : List Number} (listed : Listed finish step current numbers)
    (listed' : Listed finish step current other) : numbers = other := by
  induction listed generalizing other with
  | done reached =>
    cases listed' with
    | done => rfl
    | more before => rw [reached] at before; cases before
  | more before sum _ ih =>
    cases listed' with
    | done reached => rw [reached] at before; cases before
    | more _ sum' behind =>
      rw [sum] at sum'
      cases sum'
      rw [ih behind]

/-- What is listed moves on. -/
theorem Listed.not_trapped (listed : Listed finish step current numbers) :
    ¬Trapped finish step current := by
  induction listed with
  | done reached =>
    rintro (⟨before, _⟩ | ⟨before, _, _⟩) <;>
    · rw [reached] at before
      cases before
  | more before sum behind ih =>
    rintro (⟨_, sum'⟩ | ⟨_, sum', behind'⟩)
    · rw [sum] at sum'
      cases sum'
      have same := behind.unique (.more before sum behind)
      exact absurd (congrArg List.length same) (Nat.ne_of_lt (Nat.lt_succ_self _))
    · rw [sum] at sum'
      cases sum'
      exact ih behind'

/-- Every number that is listed comes before the end. -/
theorem Listed.precedes_finish (listed : Listed finish step current numbers) :
    ∀ number ∈ numbers, precedes step number finish = true := by
  induction listed with
  | done => exact List.forall_mem_nil _
  | more before _ _ ih => exact List.forall_mem_cons.2 ⟨before, ih⟩

end Steps

/-! ### Directions -/

section Directions

variable {step first second : Number} {toward units other : Int}

theorem less_iff : first.less second = true ↔
    ∃ rank rank', first.rank? = some rank ∧ second.rank? = some rank' ∧
      rank.compare rank' = .lt := by
  rw [less, compare?_eq]
  cases first.rank? <;> cases second.rank? <;> simp

theorem less_at_iff (firstAt : first.rank? = some (.at units))
    (secondAt : second.rank? = some (.at other)) : first.less second = true ↔ units < other := by
  rw [less, compare?_eq, firstAt, secondAt]
  simp [Rank.compare, Int.compare_eq_lt]

theorem ne_nan_of_precedes (before : precedes step first second = true) : first ≠ .nan := by
  rintro rfl
  rw [precedes] at before
  split at before
  · obtain ⟨_, _, found, -⟩ := less_iff.1 before
    cases found
  · obtain ⟨_, _, -, found, -⟩ := less_iff.1 before
    cases found

/-- A step goes forward if its units are positive. -/
theorem forward_iff (stepAt : step.rank? = some (.at toward)) :
    (int 0).less step = true ↔ 0 < toward := by
  rw [less_at_iff rfl stepAt, Int.zero_mul]

theorem precedes_at_iff (stepAt : step.rank? = some (.at toward))
    (firstAt : first.rank? = some (.at units)) (secondAt : second.rank? = some (.at other)) :
    precedes step first second = true ↔
      0 < toward ∧ units < other ∨ toward ≤ 0 ∧ other < units := by
  rw [precedes]
  split
  · next forward =>
    rw [forward_iff stepAt] at forward
    rw [less_at_iff firstAt secondAt]
    omega
  · next backward =>
    rw [forward_iff stepAt] at backward
    rw [less_at_iff secondAt firstAt]
    omega

/-- How far two numbers are apart, in units. -/
def distance (first second : Number) : Nat :=
  match first.rank?, second.rank? with
  | some (.at units), some (.at other) => (units - other).natAbs
  | _, _ => 0

/-- A number between two others is at a count of units. -/
theorem exists_at_of_less {next : Number} (firstAt : first.rank? = some (.at units))
    (secondAt : second.rank? = some (.at other)) (below : first.less next = true)
    (above : next.less second = true) : ∃ between, next.rank? = some (.at between) := by
  obtain ⟨_, rank, same, found, below⟩ := less_iff.1 below
  obtain ⟨_, _, found', same', above⟩ := less_iff.1 above
  rw [firstAt] at same
  rw [secondAt] at same'
  rw [found] at found'
  cases same
  cases same'
  cases found'
  cases rank with
  | lowest => cases below
  | «at» between => exact ⟨between, found⟩
  | highest => cases above

theorem exists_at_of_precedes {next : Number} (firstAt : first.rank? = some (.at units))
    (secondAt : second.rank? = some (.at other)) (behind : precedes step first next = true)
    (before : precedes step next second = true) : ∃ between, next.rank? = some (.at between) := by
  rw [precedes] at behind before
  split at behind
  · next forward =>
    rw [if_pos forward] at before
    exact exists_at_of_less firstAt secondAt behind before
  · next backward =>
    rw [if_neg backward] at before
    exact exists_at_of_less secondAt firstAt before behind

/-- A number between two others is nearer to the second. -/
theorem distance_lt {next : Number} (stepAt : step.rank? = some (.at toward))
    (firstAt : first.rank? = some (.at units)) (secondAt : second.rank? = some (.at other))
    (behind : precedes step first next = true) (before : precedes step next second = true) :
    next.distance second < first.distance second := by
  obtain ⟨between, nextAt⟩ := exists_at_of_precedes firstAt secondAt behind before
  rw [precedes_at_iff stepAt firstAt nextAt] at behind
  rw [precedes_at_iff stepAt nextAt secondAt] at before
  simp only [distance, firstAt, secondAt, nextAt]
  omega

end Directions

/-! ### One step -/

/-- The number is converted to a finite double. -/
def Converts (number : Number) : Prop :=
  ∃ negative magnitude, number.toDouble = .ok (some (.finite negative magnitude))

/-- A step can be added to a number: both are integers, or both are converted to doubles. -/
def Steppable (step current : Number) : Prop :=
  (∃ value count : Int, current = .int value ∧ step = .int count) ∨ Converts current ∧ Converts step

/-- A number is converted to the double of its rounded units. -/
theorem rank?_of_toDouble {number : Number} {negative : Bool} {magnitude : Magnitude}
    (converts : number.toDouble = .ok (some (.finite negative magnitude))) :
    ∃ units, number.rank? = some (.at units) ∧
      Double.signedUnits negative magnitude = Double.roundedUnits units := by
  cases number with
  | int value =>
    refine ⟨_, rfl, ?_⟩
    rw [toDouble] at converts
    cases found : Double.ofInt? value with
    | none => rw [found] at converts; cases converts
    | some nearest =>
      rw [found] at converts
      cases converts
      obtain ⟨_, _, same, units⟩ := Double.of_ofInt? found
      cases same
      exact units
  | double value =>
    cases converts
    exact ⟨_, rfl, (Double.roundedUnits_signedUnits negative magnitude).symm⟩
  | nan => cases converts

/-- Numbers that are not both integers are added as doubles. -/
theorem add_of_toDouble {first second : Number} {left right : Double}
    (mixed : ¬∃ value count : Int, first = .int value ∧ second = .int count)
    (converts : first.toDouble = .ok (some left)) (converts' : second.toDouble = .ok (some right)) :
    first.add second = .ok (ofResult (left.add right)) := by
  have apart : first.add second = onDoubles Double.add first second := by
    cases first with
    | int value =>
      cases second with
      | int count => exact absurd ⟨value, count, rfl, rfl⟩ mixed
      | double => rfl
      | nan => rfl
    | double => rfl
    | nan => rfl
  rw [apart, onDoubles, converts, converts']
  rfl

/-- A double that has the units of another one, which is not zero, is that one. -/
theorem eq_finite_of_rank? {value : Double} {negative : Bool} {magnitude : Magnitude}
    (notZero : Double.signedUnits negative magnitude ≠ 0)
    (found : (Number.double value).rank? = some (.at (Double.signedUnits negative magnitude))) :
    value = .finite negative magnitude := by
  match value with
  | .infinite true => cases found
  | .infinite false => cases found
  | .finite negative' magnitude' =>
    have same : Double.signedUnits negative' magnitude' = Double.signedUnits negative magnitude :=
      Rank.at.inj (Option.some.inj found)
    have sizes : magnitude'.units = magnitude.units := by
      rw [← Double.natAbs_signedUnits negative', same, Double.natAbs_signedUnits]
    rw [Magnitude.units_injective sizes] at same ⊢
    have signs : negative' = negative := by
      cases negative <;> cases negative' <;> simp [Double.signedUnits] at same notZero ⊢ <;> omega
    rw [signs]

section Advance

variable {finish step current : Number} {toward units other : Int}
  {negative negative' : Bool} {magnitude magnitude' : Magnitude} {sum : Double}

/-- Where the sum of two doubles is the first one, the second is at most one part in `2 ^ 53` of
it. -/
theorem units_le_of_stays
    (added : Double.add (.finite negative magnitude) (.finite negative' magnitude') = some sum)
    (rank : (Number.double sum).rank? = some (.at (Double.signedUnits negative magnitude))) :
    2 ^ 53 * magnitude'.units ≤ magnitude.units := by
  obtain ⟨_, added', rank'⟩ := Double.rank?_add negative negative' magnitude magnitude'
  rw [added] at added'
  cases added'
  have size := Double.natAbs_signedUnits negative magnitude
  have size' := Double.natAbs_signedUnits negative' magnitude'
  have error := Double.roundedUnits_error
    (Double.signedUnits negative magnitude + Double.signedUnits negative' magnitude')
  have stays : Double.roundedUnits
      (Double.signedUnits negative magnitude + Double.signedUnits negative' magnitude') =
        Double.signedUnits negative magnitude := by
    rw [rank, Option.some.injEq, Double.rankOf] at rank'
    split at rank'
    · cases rank'
    split at rank'
    · cases rank'
    · exact (Rank.at.inj rank').symm
  rw [stays] at error
  omega

/-- A sum that stays at the double of the number stays there for ever. -/
theorem trapped_of_stays
    (added : Double.add (.finite negative magnitude) (.finite negative' magnitude') = some sum)
    (converts : step.toDouble = .ok (some (.finite negative' magnitude')))
    (moves : Double.signedUnits negative' magnitude' ≠ 0)
    (rank : (Number.double sum).rank? = some (.at (Double.signedUnits negative magnitude)))
    (before : precedes step (.double sum) finish = true) : Trapped finish step (.double sum) := by
  have small := units_le_of_stays added rank
  have size := Double.natAbs_signedUnits negative magnitude
  have size' := Double.natAbs_signedUnits negative' magnitude'
  have same := eq_finite_of_rank? (by omega) rank
  subst same
  apply Trapped.here before
  rw [add_of_toDouble (by rintro ⟨_, _, ⟨⟩, _⟩) rfl converts, added]
  rfl

theorem count_ne_zero {count : Int} (stepAt : (int count).rank? = some (.at toward))
    (moves : toward ≠ 0) : count ≠ 0 := by
  rintro rfl
  cases stepAt
  exact moves (Int.zero_mul _)

/-- A step leads on from an integer. -/
theorem precedes_add (value : Int) {count : Int} (moves : count ≠ 0) :
    precedes (int count) (int value) (int (value + count)) = true := by
  have positive : 0 < (Double.unitsPerOne : Int) := Int.natCast_pos.2 Double.unitsPerOne_pos
  rw [precedes_at_iff rfl rfl rfl, Int.add_mul]
  rcases Int.lt_or_gt_of_ne moves with negative | above
  · have below := Int.mul_neg_of_neg_of_pos negative positive
    omega
  · have above := Int.mul_pos above positive
    omega

/-- A sum that comes behind the number in the direction of the step. -/
theorem precedes_of_ahead {rounded : Int} (stepAt : step.rank? = some (.at toward))
    (currentAt : current.rank? = some (.at units))
    (rank : (Number.double sum).rank? = some (Double.rankOf rounded))
    (within : 0 < toward → -(Magnitude.largest.units : Int) ≤ rounded)
    (within' : toward < 0 → rounded ≤ Magnitude.largest.units)
    (ahead : 0 < toward ∧ units < rounded ∨ toward < 0 ∧ rounded < units) :
    precedes step current (.double sum) = true := by
  rw [precedes]
  split
  · next forward =>
    rw [forward_iff stepAt] at forward
    exact less_iff.2 ⟨_, _, currentAt, rank, Double.compare_rankOf (by omega) (within forward)⟩
  · next backward =>
    rw [forward_iff stepAt] at backward
    exact less_iff.2 ⟨_, _, rank, currentAt, Double.rankOf_compare (by omega) (within' (by omega))⟩

/-- A sum of doubles comes behind the number in the direction of the step, or stays. -/
theorem precedes_or_stays (stepAt : step.rank? = some (.at toward)) (moves : toward ≠ 0)
    (currentAt : current.rank? = some (.at units)) (finishAt : finish.rank? = some (.at other))
    (goesOn : precedes step current finish = true)
    (converted : Double.signedUnits negative magnitude = Double.roundedUnits units)
    (rank : (Number.double sum).rank? = some (Double.rankOf (Double.roundedUnits
      (Double.roundedUnits units + Double.roundedUnits toward)))) :
    precedes step current (.double sum) = true ∨
      (Number.double sum).rank? = some (.at (Double.roundedUnits units)) ∧
        precedes step (.double sum) finish = true := by
  have size := Double.natAbs_signedUnits negative magnitude
  have within := magnitude.units_le_largest
  rw [converted] at size
  have stays (same : Double.roundedUnits (Double.roundedUnits units + Double.roundedUnits toward) =
      Double.roundedUnits units) :
      (Number.double sum).rank? = some (.at (Double.roundedUnits units)) := by
    rw [rank, same, Double.rankOf_of_le (by omega)]
  rw [precedes_at_iff stepAt currentAt finishAt] at goesOn
  rcases Int.lt_or_gt_of_ne moves with negative | positive
  · have backward := Int.le_of_lt (Double.roundedUnits_neg negative)
    have order := Double.roundedUnits_add_le units backward
    rcases Int.lt_or_le (Double.roundedUnits (Double.roundedUnits units + Double.roundedUnits toward))
      units with below | above
    · exact .inl (precedes_of_ahead stepAt currentAt rank (by omega) (by omega) (by omega))
    · have same := Double.roundedUnits_add_of_ge backward above
      refine .inr ⟨stays same, ?_⟩
      rw [precedes_at_iff stepAt (stays same) finishAt]
      omega
  · have forward := Int.le_of_lt (Double.roundedUnits_pos positive)
    have order := Double.le_roundedUnits_add units forward
    rcases Int.lt_or_le units
      (Double.roundedUnits (Double.roundedUnits units + Double.roundedUnits toward)) with above | below
    · exact .inl (precedes_of_ahead stepAt currentAt rank (by omega) (by omega) (by omega))
    · have same := Double.roundedUnits_add_of_le forward below
      refine .inr ⟨stays same, ?_⟩
      rw [precedes_at_iff stepAt (stays same) finishAt]
      omega

theorem converts_of_rank? (found : (Number.double sum).rank? = some (.at units)) :
    Converts (.double sum) := by
  match sum with
  | .infinite true => cases found
  | .infinite false => cases found
  | .finite negative magnitude => exact ⟨negative, magnitude, rfl⟩

/-- A step leads on from a number before the end, or into a trap. -/
theorem exists_advance (stepAt : step.rank? = some (.at toward)) (moves : toward ≠ 0)
    (currentAt : current.rank? = some (.at units)) (finishAt : finish.rank? = some (.at other))
    (steppable : Steppable step current) (goesOn : precedes step current finish = true) :
    ∃ next, current.add step = .ok next ∧
      (precedes step next finish = true → Steppable step next) ∧
      (precedes step current next = true ∨ Trapped finish step next) := by
  by_cases integers : ∃ value count : Int, current = .int value ∧ step = .int count
  · obtain ⟨value, count, rfl, rfl⟩ := integers
    have ahead := precedes_add value (count_ne_zero stepAt moves)
    exact ⟨_, rfl, fun _ => .inl ⟨_, _, rfl, rfl⟩, .inl ahead⟩
  · obtain ⟨⟨negative, magnitude, toDouble⟩, negative', magnitude', toDouble'⟩ :=
      steppable.resolve_left integers
    have converts : Converts step := ⟨negative', magnitude', toDouble'⟩
    obtain ⟨_, same, converted⟩ := rank?_of_toDouble toDouble
    obtain ⟨_, same', converted'⟩ := rank?_of_toDouble toDouble'
    rw [currentAt] at same
    rw [stepAt] at same'
    cases same
    cases same'
    obtain ⟨sum, added, rank⟩ := Double.rank?_add negative negative' magnitude magnitude'
    have run : current.add step = .ok (.double sum) := by
      rw [add_of_toDouble integers toDouble toDouble', added]
      rfl
    rw [converted, converted'] at rank
    refine ⟨_, run, ?_⟩
    rcases precedes_or_stays stepAt moves currentAt finishAt goesOn converted rank
      with behind | ⟨stays, before⟩
    · refine ⟨fun before => .inr ⟨?_, converts⟩, .inl behind⟩
      obtain ⟨_, found⟩ := exists_at_of_precedes currentAt finishAt behind before
      exact converts_of_rank? found
    · refine ⟨fun _ => .inr ⟨converts_of_rank? stays, converts⟩, .inr ?_⟩
      rw [← converted] at stays
      refine trapped_of_stays added toDouble' ?_ stays before
      rw [converted']
      rcases Int.lt_or_gt_of_ne moves with below | above
      · exact Int.ne_of_lt (Double.roundedUnits_neg below)
      · exact Int.ne_of_gt (Double.roundedUnits_pos above)

end Advance

end Number

end SandboxLisp
