import Mathlib.Algebra.Order.Floor.Semiring
import Mathlib.Data.Rat.Floor
import SandboxLisp.Evaluator
import SandboxLisp.Primitive.Lists
import SandboxLisp.Proofs.Number.Stepping

/-!
# What `range` lists

From a start by steps either all numbers before the end are listed, or the loop is trapped at a
double that is too large for the step (`listed_or_trapped`).  What is listed moves towards the end
(`Listed.isChain`), and integers are listed as they are (`listed_integers`).

`range` gives the listed numbers, as far as a list can hold them (`Primitive.range_lists`).
-/

namespace SandboxLisp

namespace Number

/-! ### Strides -/

/-- The number is finite. -/
def IsFinite : Number → Prop
  | .int _ => True
  | .double value => value.isFinite = true
  | .nan => False

theorem IsFinite.exists_rank {number : Number} (finite : number.IsFinite) :
    ∃ units, number.rank? = some (.at units) := by
  match number, finite with
  | .int _, _ => exact ⟨_, rfl⟩
  | .double (.finite _ _), _ => exact ⟨_, rfl⟩

/-- The step that `range` takes: one for a zero. -/
def stride (step : Number) : Number :=
  if step.isZero then .int 1 else step

theorem converts_one : Converts (.int 1) := by
  have one : Double.ofInt? 1 = some .one := by decide +kernel
  exact ⟨_, _, by rw [toDouble, one]; rfl⟩

theorem steppable_stride {start step : Number} (steppable : Steppable step start) :
    Steppable step.stride start := by
  rw [stride]
  split
  · rcases steppable with ⟨value, _, same, _⟩ | ⟨converts, _⟩
    · exact .inl ⟨value, 1, same, rfl⟩
    · exact .inr ⟨converts, converts_one⟩
  · exact steppable

/-- A number that is no zero has units. -/
theorem units_ne_zero {number : Number} {units : Int} (numberAt : number.rank? = some (.at units))
    (notZero : ¬number.isZero = true) : units ≠ 0 := by
  rintro rfl
  match number, numberAt with
  | .int value, numberAt =>
    have product : value * (Double.unitsPerOne : Int) = 0 := Rank.at.inj (Option.some.inj numberAt)
    have unit := Double.unitsPerOne_pos
    rcases Int.mul_eq_zero.1 product with rfl | zero
    · exact notZero rfl
    · omega
  | .double (.finite negative magnitude), numberAt =>
    have size := Double.natAbs_signedUnits negative magnitude
    have none : Double.signedUnits negative magnitude = 0 := Rank.at.inj (Option.some.inj numberAt)
    rw [none] at size
    rcases Nat.mul_eq_zero.1 size.symm with zero | zero
    · exact notZero (beq_iff_eq.2 zero)
    · exact absurd zero (Nat.ne_of_gt (Nat.two_pow_pos _))

/-- A stride moves. -/
theorem exists_stride {start step : Number} (steppable : Steppable step start) :
    ∃ toward, step.stride.rank? = some (.at toward) ∧ toward ≠ 0 := by
  rw [stride]
  split
  · exact ⟨_, rfl, units_ne_zero (show (int 1).rank? = some _ from rfl) Bool.false_ne_true⟩
  · next notZero =>
    rcases steppable with ⟨_, count, _, rfl⟩ | ⟨_, _, _, toDouble⟩
    · exact ⟨_, rfl, units_ne_zero rfl notZero⟩
    · obtain ⟨toward, stepAt, _⟩ := rank?_of_toDouble toDouble
      exact ⟨toward, stepAt, units_ne_zero stepAt notZero⟩

/-! ### All steps -/

section Run

variable {finish step current : Number} {toward other : Int} {numbers : List Number}

theorem Steppable.exists_rank (steppable : Steppable step current) :
    ∃ units, current.rank? = some (.at units) := by
  rcases steppable with ⟨value, _, rfl, _⟩ | ⟨⟨_, _, toDouble⟩, _⟩
  · exact ⟨_, rfl⟩
  · obtain ⟨units, found, _⟩ := rank?_of_toDouble toDouble
    exact ⟨units, found⟩

theorem Trapped.precedes_finish (trapped : Trapped finish step current) :
    precedes step current finish = true := by
  cases trapped with
  | here before => exact before
  | later before => exact before

variable (stepAt : step.rank? = some (.at toward)) (moves : toward ≠ 0)
  (finishAt : finish.rank? = some (.at other))

include stepAt moves finishAt

/-- The steps come to the end, or to a number that does not move. -/
theorem listed_or_trapped (steppable : Steppable step current) :
    (∃ numbers, Listed finish step current numbers) ∨ Trapped finish step current := by
  -- every step that moves on takes the number nearer to the end
  induction apart : current.distance finish using Nat.strongRecOn generalizing current with
  | ind apart ih =>
    subst apart
    by_cases goesOn : precedes step current finish = true
    · obtain ⟨units, currentAt⟩ := steppable.exists_rank
      obtain ⟨next, sum, steppable', behind | trapped⟩ :=
        exists_advance stepAt moves currentAt finishAt steppable goesOn
      · by_cases before : precedes step next finish = true
        · rcases ih _ (distance_lt stepAt currentAt finishAt behind before) (steppable' before) rfl
            with ⟨rest, listed⟩ | trapped
          · exact .inl ⟨_, .more goesOn sum listed⟩
          · exact .inr (.later goesOn sum trapped)
        · exact .inl ⟨_, .more goesOn sum (.done (Bool.not_eq_true _ ▸ before))⟩
      · exact .inr (.later goesOn sum trapped)
    · exact .inl ⟨[], .done (Bool.not_eq_true _ ▸ goesOn)⟩

/-- The listed numbers move towards the end. -/
theorem Listed.isChain (listed : Listed finish step current numbers)
    (steppable : Steppable step current) :
    numbers.IsChain fun earlier later => precedes step earlier later = true := by
  induction listed with
  | done => exact .nil
  | @more current next rest goesOn sum behind ih =>
    obtain ⟨units, currentAt⟩ := steppable.exists_rank
    obtain ⟨_, sum', steppable', ahead⟩ :=
      exists_advance stepAt moves currentAt finishAt steppable goesOn
    rw [sum] at sum'
    cases sum'
    have ahead := ahead.resolve_right behind.not_trapped
    cases behind with
    | done => exact .singleton _
    | more before sum' behind' => exact .cons_cons ahead (ih (steppable' before))

/-- In a trap a double stays as it is, so the step is at most one part in `2 ^ 53` of it. -/
theorem Trapped.exists_stays (trapped : Trapped finish step current)
    (steppable : Steppable step current) :
    ∃ negative magnitude negative' magnitude',
      step.toDouble = .ok (some (.finite negative' magnitude')) ∧
      precedes step (.double (.finite negative magnitude)) finish = true ∧
      (Number.double (.finite negative magnitude)).add step =
        .ok (.double (.finite negative magnitude)) ∧
      2 ^ 53 * magnitude'.units ≤ magnitude.units := by
  induction trapped with
  | @here current before sum =>
    by_cases integers : ∃ value count : Int, current = .int value ∧ step = .int count
    · obtain ⟨value, count, rfl, rfl⟩ := integers
      have same : value + count = value := Number.int.inj (Except.ok.inj sum)
      exact absurd (by omega) (count_ne_zero stepAt moves)
    · obtain ⟨⟨negative, magnitude, toDouble⟩, negative', magnitude', toDouble'⟩ :=
        steppable.resolve_left integers
      obtain ⟨result, added, -⟩ := Double.rank?_add negative negative' magnitude magnitude'
      have same := add_of_toDouble integers toDouble toDouble'
      rw [sum, added] at same
      cases same
      cases toDouble
      exact ⟨_, _, _, _, toDouble', before, sum, units_le_of_stays added rfl⟩
  | later goesOn sum trapped ih =>
    obtain ⟨units, currentAt⟩ := steppable.exists_rank
    obtain ⟨_, sum', steppable', -⟩ :=
      exists_advance stepAt moves currentAt finishAt steppable goesOn
    rw [sum] at sum'
    cases sum'
    exact ih (steppable' trapped.precedes_finish)

end Run

/-! ### Integers -/

section Integers

variable {count : Int}

theorem precedes_int_iff (count first second : Int) :
    precedes (int count) (int first) (int second) = true ↔
      0 < count ∧ first < second ∨ count ≤ 0 ∧ second < first := by
  rw [precedes]
  by_cases positive : 0 < count
  · simp [less, compare?, Int.compare_eq_lt, positive, Int.not_le.2 positive]
  · simp [less, compare?, Int.compare_eq_lt, positive, Int.not_lt.1 positive]

/-- Of the steps from one integer to another, those before the end are numbered below the
quotient. -/
theorem lt_ceil_iff (start finish : Int) (moves : count ≠ 0) (index : Nat) :
    index < ⌈((finish - start : Int) : ℚ) / count⌉₊ ↔
      precedes (int count) (int (start + index * count)) (int finish) = true := by
  rw [Nat.lt_ceil, precedes_int_iff]
  rcases Int.lt_or_gt_of_ne moves with negative | positive
  · rw [lt_div_iff_of_neg (Int.cast_lt_zero.2 negative)]
    norm_cast
    omega
  · rw [lt_div_iff₀ (Int.cast_pos.2 positive)]
    norm_cast
    omega

/-- From an integer to another all the steps are listed that come before the end. -/
theorem listed_integers (start finish : Int) (moves : count ≠ 0) :
    Listed (int finish) (int count) (int start)
      ((List.range ⌈((finish - start : Int) : ℚ) / count⌉₊).map fun index =>
        int (start + index * count)) := by
  have run (left index : Nat) (total : index + left = ⌈((finish - start : Int) : ℚ) / count⌉₊) :
      Listed (int finish) (int count) (int (start + index * count))
        ((List.range' index left).map fun index => int (start + index * count)) := by
    induction left generalizing index with
    | zero =>
      have reached := mt (lt_ceil_iff start finish moves index).2 (by omega)
      exact .done (Bool.not_eq_true _ ▸ reached)
    | succ left ih =>
      have goesOn := (lt_ceil_iff start finish moves index).1 (by omega)
      have next : start + index * count + count = start + (index + 1 : Nat) * count := by
        push_cast
        ring
      have behind := ih (index + 1) (by omega)
      rw [← next] at behind
      exact .more goesOn rfl behind
  have all := run _ 0 (Nat.zero_add _)
  rwa [Nat.cast_zero, Int.zero_mul, Int.add_zero, ← List.range_eq_range'] at all

end Integers

end Number

namespace Primitive

open Number

section Steps

variable {finish step current next : Number} {numbers : List Number}

theorem steps_of_reached (reached : precedes step current finish = false) (bound : Nat)
    (before : List Number) : steps bound finish step current before = .ok before.reverse := by
  unfold steps
  rw [precedes] at reached
  simp only [reached]
  rfl

theorem steps_zero (goesOn : precedes step current finish = true) (before : List Number) :
    steps 0 finish step current before = .error .listTooLarge := by
  unfold steps
  rw [precedes] at goesOn
  simp only [goesOn, if_true]

theorem steps_succ (goesOn : precedes step current finish = true)
    (sum : current.add step = .ok next) (bound : Nat) (before : List Number) :
    steps (bound + 1) finish step current before =
      if next = current then .error .listTooLarge
      else steps bound finish step next (current :: before) := by
  conv => lhs; unfold steps
  rw [precedes] at goesOn
  simp only [goesOn, if_true, sum]
  rfl

/-- The loop gives the listed numbers, if they are not too many. -/
theorem steps_of_listed (listed : Listed finish step current numbers) (bound : Nat)
    (before : List Number) :
    steps bound finish step current before =
      if numbers.length ≤ bound then .ok (before.reverse ++ numbers) else .error .listTooLarge := by
  induction listed generalizing bound before with
  | done reached =>
    rw [steps_of_reached reached, List.length_nil, if_pos (Nat.zero_le _), List.append_nil]
  | @more current next rest goesOn sum behind ih =>
    have moves : next ≠ current := by
      rintro rfl
      exact (Listed.more goesOn sum behind).not_trapped (.here goesOn sum)
    cases bound with
    | zero =>
      rw [steps_zero goesOn, List.length_cons, if_neg (Nat.not_succ_le_zero _)]
    | succ bound =>
      rw [steps_succ goesOn sum, if_neg moves, ih, List.length_cons, List.reverse_cons,
        List.append_assoc, List.singleton_append]
      simp only [Nat.add_le_add_iff_right]

/-- The loop does not come to an end if it comes to a number that does not move. -/
theorem steps_of_trapped (trapped : Trapped finish step current) (bound : Nat)
    (before : List Number) : steps bound finish step current before = .error .listTooLarge := by
  induction trapped generalizing bound before with
  | here goesOn sum =>
    cases bound with
    | zero => exact steps_zero goesOn before
    | succ bound => rw [steps_succ goesOn sum, if_pos rfl]
  | later goesOn sum _ ih =>
    cases bound with
    | zero => exact steps_zero goesOn before
    | succ bound =>
      rw [steps_succ goesOn sum, ih, ite_self]

end Steps

section Range

open Eval

/-- Numbers as data. -/
theorem exists_items (numbers : List Number) (areNumbers : ∀ value ∈ numbers, value ≠ .nan) :
    ∃ items, items.map Datum.number? = numbers.map some ∧
      numbers.mapM number = (pure items : Eval (List Datum)) := by
  induction numbers with
  | nil => exact ⟨[], rfl, rfl⟩
  | cons value rest ih =>
    obtain ⟨isNumber, others⟩ := List.forall_mem_cons.1 areNumbers
    obtain ⟨items, same, run⟩ := ih others
    obtain ⟨item, same', run'⟩ : ∃ item : Datum, item.number? = some value ∧
        number value = pure item := by
      cases value with
      | int value => exact ⟨.int value, rfl, rfl⟩
      | double value => exact ⟨.double value, rfl, rfl⟩
      | nan => exact absurd rfl isNumber
    refine ⟨item :: items, ?_, ?_⟩
    · rw [List.map_cons, List.map_cons, same, same']
    · rw [List.mapM_cons, run', run, pure_bind, pure_bind]

/-- `range` of three numbers lists a progression. -/
theorem range_run (recur : Datum → Eval Datum) {first second third : Datum}
    {start finish step : Number} (isStart : first.number? = some start)
    (isFinish : second.number? = some finish) (isStep : third.number? = some step) :
    range recur [first, second, third] =
      ofNumber (progression start finish step) >>= fun numbers =>
        numbers.mapM number >>= newList := by
  rw [range, oneToThree]
  simp only [expectNumber, isStart, isFinish, isStep, pure_bind]

/-- `range` ends, with the right numbers, unless it comes to a number before the end that does not
move.  What it lists comes before the end, and every number behind the one before it; from an integer
to another by integers it is the whole progression.  A number that does not move is a double at least
`2 ^ 53` times as large as the step. -/
theorem range_lists (recur : Datum → Eval Datum) (around : Surroundings) (world : World)
    (first second third : Datum) {start finish step : Number}
    (isStart : first.number? = some start) (isFinish : second.number? = some finish)
    (isStep : third.number? = some step) (finite : finish.IsFinite)
    (steppable : Steppable step start) :
    ((∃ numbers, Listed finish step.stride start numbers) ↔ ¬Trapped finish step.stride start) ∧
    (∀ numbers, Listed finish step.stride start numbers →
      (∀ value ∈ numbers, precedes step.stride value finish = true) ∧
      numbers.IsChain (fun earlier later => precedes step.stride earlier later = true) ∧
      ∃ items, items.map Datum.number? = numbers.map some ∧
        range recur [first, second, third] around world =
          if numbers.length ≤ listBound then newList items around world
          else (.error (.number .listTooLarge), world)) ∧
    (Trapped finish step.stride start →
      (∃ negative magnitude negative' magnitude',
        step.stride.toDouble = .ok (some (.finite negative' magnitude')) ∧
        precedes step.stride (.double (.finite negative magnitude)) finish = true ∧
        (Number.double (.finite negative magnitude)).add step.stride =
          .ok (.double (.finite negative magnitude)) ∧
        2 ^ 53 * magnitude'.units ≤ magnitude.units) ∧
      range recur [first, second, third] around world =
        (.error (.number .listTooLarge), world)) ∧
    ∀ low high count : Int, start = .int low → finish = .int high → step.stride = .int count →
      Listed finish step.stride start
        ((List.range ⌈((high - low : Int) : ℚ) / count⌉₊).map fun index =>
          .int (low + index * count)) := by
  obtain ⟨toward, stepAt, moves⟩ := exists_stride steppable
  obtain ⟨other, finishAt⟩ := finite.exists_rank
  have steppable := steppable_stride steppable
  have run := congrFun (congrFun (range_run recur isStart isFinish isStep) around) world
  refine ⟨⟨?_, ?_⟩, fun numbers listed => ⟨listed.precedes_finish, ?_, ?_⟩,
    fun trapped => ⟨?_, ?_⟩, ?_⟩
  · rintro ⟨_, listed⟩
    exact listed.not_trapped
  · exact (listed_or_trapped stepAt moves finishAt steppable).resolve_right
  · exact listed.isChain stepAt moves finishAt steppable
  · obtain ⟨items, same, mapped⟩ := exists_items numbers fun value among =>
      ne_nan_of_precedes (listed.precedes_finish value among)
    refine ⟨items, same, ?_⟩
    rw [run, progression, ← stride, steps_of_listed listed]
    split
    · rw [List.reverse_nil, List.nil_append]
      change (pure numbers >>= fun numbers => numbers.mapM number >>= newList) around world = _
      rw [pure_bind, mapped, pure_bind]
    · rfl
  · exact trapped.exists_stays stepAt moves finishAt steppable
  · rw [run, progression, ← stride, steps_of_trapped trapped]
    rfl
  · rintro low high count rfl rfl same
    rw [same] at stepAt ⊢
    exact listed_integers low high (count_ne_zero stepAt moves)

/-- Four integers by threes, and a double that is so large that one is lost when it is added. -/
theorem range_lists_lost :
    let around := (Evaluator.mk 100 .default).surroundings (.int 0)
    let world : World := .ofScope [] 0
    let recur := evaluateFor .default 5
    let large : Double := .finite false ⟨2 ^ 52, 1075, by decide, by decide, .inr (by decide)⟩
    (∃ items : List Datum,
      items.map Datum.number? = [some (.int 0), some (.int 3), some (.int 6), some (.int 9)] ∧
      range recur [.int 0, .int 10, .int 3] around world = newList items around world) ∧
    Trapped (.int (2 ^ 53 + 1)) (.int 1) (.double large) ∧
      range recur [.double large, .int (2 ^ 53 + 1), .int 1] around world =
        (.error (.number .listTooLarge), world) := by
  intro around world recur large
  refine ⟨?_, ?_⟩
  · obtain ⟨-, listed, -, integers⟩ := range_lists recur around world (.int 0) (.int 10) (.int 3)
      rfl rfl rfl trivial (.inl ⟨0, 3, rfl, rfl⟩)
    have count : ⌈((10 - 0 : Int) : ℚ) / (3 : Int)⌉₊ = 4 := by
      rw [Nat.ceil_eq_iff (by decide)]
      norm_num
    have all := integers 0 10 3 rfl rfl rfl
    rw [count] at all
    obtain ⟨-, -, items, same, run⟩ := listed _ all
    exact ⟨items, same, run⟩
  · have sum : (Number.double large).add (.int 1) = .ok (.double large) := by decide +kernel
    have before : precedes (.int 1) (.double large) (.int (2 ^ 53 + 1)) = true := by decide +kernel
    have trapped : Trapped (.int (2 ^ 53 + 1)) (.int 1) (.double large) := .here before sum
    obtain ⟨-, -, lost, -⟩ := range_lists recur around world (.double large) (.int (2 ^ 53 + 1))
      (.int 1) rfl rfl rfl trivial (.inr ⟨⟨_, _, rfl⟩, converts_one⟩)
    exact ⟨trapped, (lost trapped).2⟩

end Range

end Primitive

end SandboxLisp
