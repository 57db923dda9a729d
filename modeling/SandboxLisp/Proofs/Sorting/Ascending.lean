import SandboxLisp.Proofs.Sorting.Permutation

/-!
# Sorting succeeds and gives ascending order

If every two items of a list are compared as a transitive order says, whichever is asked about first,
then a sort does not fail, and its result ascends.  Nothing is asked about an item and itself.

Galloping finds where a test fails for the first time.  The invariant of a merge is that what has been
taken goes before what is left of either list, and that the last item aside goes behind all that is
standing; merging from the end of a run is merging in the opposite order.
-/

namespace SandboxLisp.Sorting

open scoped List

variable {α β ε : Type}

/-- An outcome is a value of which something holds. -/
def Gives (holds : α → Prop) (outcome : Except ε α) : Prop :=
  ∃ value, outcome = .ok value ∧ holds value

namespace Gives

variable {holds holds' : α → Prop} {outcome : Except ε α}

theorem bind {holds' : β → Prop} {next : α → Except ε β} (first : Gives holds outcome)
    (second : ∀ value, holds value → Gives holds' (next value)) :
    Gives holds' (outcome >>= next) := by
  obtain ⟨value, rfl, found⟩ := first
  exact second value found

theorem imp (first : Gives holds outcome) (implied : ∀ value, holds value → holds' value) :
    Gives holds' outcome := by
  obtain ⟨value, rfl, found⟩ := first
  exact ⟨value, rfl, implied value found⟩

/-- A sequence whose first part is known goes on with its value. -/
theorem step {holds' : β → Prop} {next : α → Except ε β} {value : α}
    (first : outcome = .ok value) (second : Gives holds' (next value)) :
    Gives holds' (outcome >>= next) := by
  subst first
  exact second

theorem and_yields (first : Gives holds outcome) (second : Yields holds' outcome) :
    Gives (fun value => holds value ∧ holds' value) outcome := by
  obtain ⟨value, rfl, found⟩ := first
  exact ⟨value, rfl, found, second⟩

end Gives

/-! ### Galloping -/

/-- A test passes the first items of a list, as many as are counted, and no others. -/
structure Cuts (test : α → Except ε Bool) (items : List α) (count : Nat) : Prop where
  le_length : count ≤ items.length
  answer (index : Nat) (item : α) : items[index]? = some item →
    test item = .ok (decide (index < count))

section Gallop

variable {test : α → Except ε Bool} {items : List α} {count : Nat}

/-- A test that is answered, and passes whatever stands before an item that passes, makes a cut. -/
theorem Cuts.exists
    (answered : ∀ item ∈ items, test item = .ok true ∨ test item = .ok false)
    (falls : items.Pairwise fun item later => test later = .ok true → test item = .ok true) :
    ∃ count, Cuts test items count := by
  induction items with
  | nil => exact ⟨0, Nat.le_refl 0, nofun⟩
  | cons first rest ih =>
    obtain ⟨answeredFirst, answered⟩ := List.forall_mem_cons.mp answered
    obtain ⟨fallsFirst, falls⟩ := List.pairwise_cons.mp falls
    rcases answeredFirst with passes | fails
    · obtain ⟨count, cuts⟩ := ih answered falls
      refine ⟨count + 1, Nat.succ_le_succ cuts.le_length, ?_⟩
      rintro (_ | index) item found
      · cases found
        simpa using passes
      · simpa using cuts.answer index item found
    · refine ⟨0, Nat.zero_le _, ?_⟩
      rintro (_ | index) item found
      · cases found
        simpa using fails
      · have isLater := List.mem_of_getElem? (l := rest) found
        rcases answered item isLater with passes | failsToo
        · cases (fallsFirst item isLater passes).symm.trans fails
        · simpa using failsToo

theorem Cuts.passes (cuts : Cuts test items count) :
    ∀ item ∈ items.take count, test item = .ok true := by
  intro item isItem
  obtain ⟨index, below, rfl⟩ := List.mem_take_iff_getElem.mp isItem
  rw [cuts.answer index _ (List.getElem?_eq_getElem _)]
  exact congrArg Except.ok (decide_eq_true (by omega))

theorem Cuts.fails (cuts : Cuts test items count) :
    ∀ item ∈ items.drop count, test item = .ok false := by
  intro item isItem
  obtain ⟨index, below, rfl⟩ := List.mem_drop_iff_getElem.mp isItem
  rw [cuts.answer _ _ (List.getElem?_eq_getElem _)]
  exact congrArg Except.ok (decide_eq_false (by omega))

theorem narrow_eq_of_cuts (cuts : Cuts test items count) (middle : Middle) {low high : Nat}
    (above : low ≤ count) (below : count ≤ high) (within : high ≤ items.length) :
    narrow middle test items low high = .ok count := by
  induction size : high - low using Nat.strongRecOn generalizing low high with
  | ind size' ih =>
    rw [narrow_eq]
    by_cases nonempty : low < high
    · have after := middle.le_between nonempty
      have before := middle.between_lt nonempty
      have found := List.getElem?_eq_getElem (Nat.lt_of_lt_of_le before within)
      rw [if_pos nonempty, found]
      dsimp only
      rw [cuts.answer _ _ found]
      by_cases passes : middle.between low high < count
      · rw [decide_eq_true passes]
        exact ih _ (by omega) (by omega) below within rfl
      · rw [decide_eq_false passes]
        exact ih _ (by omega) above (by omega) (by omega) rfl
    · rw [if_neg nonempty]
      exact congrArg Except.ok (by omega)

theorem leap_bounds_of_cuts (cuts : Cuts test items count) {last next : Nat}
    (above : last < count) (rises : last < next) :
    Gives (fun bounds => bounds.1 ≤ count ∧ count ≤ bounds.2 ∧ bounds.2 ≤ items.length)
      (leap test items last next) := by
  induction size : items.length - next using Nat.strongRecOn generalizing last next with
  | ind size' ih =>
    rw [leap_eq]
    cases found : items[next]? with
    | none => exact ⟨_, rfl, above, cuts.le_length, Nat.le_refl _⟩
    | some item =>
      have within := (List.getElem?_eq_some_iff.mp found).1
      dsimp only
      rw [cuts.answer _ _ found]
      by_cases passes : next < count
      · rw [decide_eq_true passes]
        exact ih _ (by omega) passes (by omega) rfl
      · rw [decide_eq_false passes]
        exact ⟨_, rfl, above, Nat.le_of_not_lt passes, Nat.le_of_lt within⟩

/-- Galloping counts the items that pass. -/
theorem gallop_eq_of_cuts (cuts : Cuts test items count) (middle : Middle) :
    gallop middle test items = .ok count := by
  cases items with
  | nil => exact congrArg Except.ok (Nat.le_zero.mp cuts.le_length).symm
  | cons first rest =>
    rw [gallop, cuts.answer 0 first rfl]
    by_cases passes : 0 < count
    · rw [decide_eq_true passes]
      obtain ⟨⟨low, high⟩, found, above, below, within⟩ :=
        leap_bounds_of_cuts cuts passes Nat.zero_lt_one
      simp only [bind, Except.bind, found]
      exact narrow_eq_of_cuts cuts middle above below within
    · rw [decide_eq_false passes]
      exact congrArg Except.ok (by omega)

/-- Galloping parts a list into the items that pass and those that do not. -/
theorem gallop_parts (middle : Middle)
    (answered : ∀ item ∈ items, test item = .ok true ∨ test item = .ok false)
    (falls : items.Pairwise fun item later => test later = .ok true → test item = .ok true) :
    Gives (fun count => (∀ item ∈ items.take count, test item = .ok true) ∧
      ∀ item ∈ items.drop count, test item = .ok false) (gallop middle test items) := by
  obtain ⟨count, cuts⟩ := Cuts.exists answered falls
  exact ⟨count, gallop_eq_of_cuts cuts middle, cuts.passes, cuts.fails⟩

end Gallop

/-! ### Items that are compared as an order says -/

/-- A comparison tells which of two items goes first in an order. -/
def Decides (less : α → α → Except ε Bool) (before : α → α → Prop) (one other : α) : Prop :=
  (less one other = .ok true ∧ before one other) ∨ (less one other = .ok false ∧ before other one)

/-- A comparison tells which of two items goes first, whichever is asked about. -/
def Compared (less : α → α → Except ε Bool) (before : α → α → Prop) (one other : α) : Prop :=
  Decides less before one other ∧ Decides less before other one

/-- An order of items: nothing goes before itself, and what goes before something goes before all
that this goes before. -/
structure Ordering (before : α → α → Prop) : Prop where
  irrefl (item : α) : ¬ before item item
  trans {one other another : α} : before one other → before other another → before one another

section Ordered

variable {less : α → α → Except ε Bool} {before : α → α → Prop}

theorem Compared.symm {one other : α} (compared : Compared less before one other) :
    Compared less before other one :=
  And.symm compared

/-- The opposite of an order is an order. -/
theorem Ordering.flip (ordering : Ordering before) : Ordering (flip before) :=
  ⟨ordering.irrefl, fun first second => ordering.trans second first⟩

namespace Decides

variable {one other : α} (decides : Decides less before one other)

include decides

theorem answered : less one other = .ok true ∨ less one other = .ok false :=
  decides.imp And.left And.left

theorem exists_answer : ∃ answer, less one other = .ok answer :=
  decides.answered.elim (fun answer => ⟨_, answer⟩) fun answer => ⟨_, answer⟩

theorem before_of_true (answer : less one other = .ok true) : before one other := by
  rcases decides with found | found
  · exact found.2
  · cases answer.symm.trans found.1

theorem before_of_false (answer : less one other = .ok false) : before other one := by
  rcases decides with found | found
  · cases answer.symm.trans found.1
  · exact found.2

theorem true_of_before (ordering : Ordering before) (goes : before one other) :
    less one other = .ok true := by
  rcases decides with found | found
  · exact found.1
  · exact absurd (ordering.trans goes found.2) (ordering.irrefl one)

theorem false_of_before (ordering : Ordering before) (goes : before other one) :
    less one other = .ok false := by
  rcases decides with found | found
  · exact absurd (ordering.trans goes found.2) (ordering.irrefl other)
  · exact found.1

end Decides

/-! ### Insertion and runs -/

variable (ordering : Ordering before)

include ordering

theorem insert_ascends (new : α) {sorted : List α} (ascends : sorted.Pairwise before)
    (decides : ∀ item ∈ sorted, Decides less before new item) :
    Gives (List.Pairwise before) (insert less new sorted) := by
  induction size : sorted.length using Nat.strongRecOn generalizing sorted with
  | ind size' ih =>
    have whole := List.take_append_drop (sorted.length / 2) sorted
    rw [insert_eq]
    cases upper : sorted.drop (sorted.length / 2) with
    | nil => exact ⟨[new], rfl, List.pairwise_singleton before new⟩
    | cons middle above =>
      have sizes := congrArg List.length upper
      simp only [List.length_drop, List.length_cons] at sizes
      have shorter : (sorted.take (sorted.length / 2)).length < size' := by
        rw [List.length_take]
        omega
      rw [upper] at whole
      generalize sorted.take (sorted.length / 2) = below at whole shorter
      subst whole
      obtain ⟨ascendsBelow, ascendsUpper, across⟩ := List.pairwise_append.mp ascends
      obtain ⟨first, ascendsAbove⟩ := List.pairwise_cons.mp ascendsUpper
      obtain ⟨decidesBelow, decidesUpper⟩ := List.forall_mem_append.mp decides
      obtain ⟨decidesMiddle, decidesAbove⟩ := List.forall_mem_cons.mp decidesUpper
      rcases decidesMiddle.answered with answer | answer
      · have goes := decidesMiddle.before_of_true answer
        have inserted := (ih _ shorter ascendsBelow decidesBelow rfl).and_yields
          (insert_perm less new below)
        refine .step answer (inserted.bind fun result found => ⟨_, rfl, ?_⟩)
        refine List.pairwise_append.mpr ⟨found.1, ascendsUpper, fun item isItem => ?_⟩
        rcases List.mem_cons.mp (found.2.mem_iff.mpr isItem) with rfl | isItem
        · exact List.forall_mem_cons.mpr ⟨goes, fun later isLater => ordering.trans goes (first later isLater)⟩
        · exact across item isItem
      · have goes := decidesMiddle.before_of_false answer
        have inserted := (ih above.length (by omega) ascendsAbove decidesAbove rfl).and_yields
          (insert_perm less new above)
        refine .step answer (inserted.bind fun result found => ⟨_, rfl, ?_⟩)
        have behind : ∀ later ∈ result, before middle later := by
          intro later isLater
          rcases List.mem_cons.mp (found.2.mem_iff.mpr isLater) with rfl | isLater
          · exact goes
          · exact first later isLater
        refine List.pairwise_append.mpr
          ⟨ascendsBelow, List.pairwise_cons.mpr ⟨behind, found.1⟩, fun item isItem => ?_⟩
        have low := across item isItem middle (.head above)
        exact List.forall_mem_cons.mpr
          ⟨low, fun later isLater => ordering.trans low (behind later isLater)⟩

theorem foldlM_insert_ascends {items sorted : List α} (ascends : sorted.Pairwise before)
    (compared : (items ++ sorted).Pairwise (Compared less before)) :
    Gives (List.Pairwise before)
      (items.foldlM (fun sorted new => insert less new sorted) sorted) := by
  induction items generalizing sorted with
  | nil => exact ⟨sorted, rfl, ascends⟩
  | cons new rest ih =>
    obtain ⟨first, others⟩ := List.pairwise_cons.mp compared
    have inserted := (insert_ascends ordering new ascends fun item isItem =>
      (first item (List.mem_append_right rest isItem)).1).and_yields (insert_perm less new sorted)
    rw [List.foldlM_cons]
    refine inserted.bind fun longer found => ih found.1 ?_
    have rearranged : new :: (rest ++ sorted) ~ rest ++ longer :=
      List.perm_middle.symm.trans (found.2.append_left rest)
    exact (rearranged.pairwise_iff Compared.symm).mp compared

/-- The order in which the items of a run follow one another before a descending one is turned. -/
def along (before : α → α → Prop) (descends : Bool) : α → α → Prop :=
  if descends then flip before else before

theorem Ordering.along (descends : Bool) : Ordering (along before descends) := by
  cases descends with
  | false => exact ordering
  | true => exact ordering.flip

omit ordering in
theorem Decides.along {one other : α} {descends : Bool} (decides : Decides less before other one)
    (answer : less other one = .ok descends) : Sorting.along before descends one other := by
  cases descends with
  | false => exact decides.before_of_false answer
  | true => exact decides.before_of_true answer

theorem runLength_follows (descends : Bool) (count : Nat) {last : α} {items : List α}
    (compared : (last :: items).Pairwise (Compared less before)) :
    Gives (fun total => ∃ more, total = count + more ∧
        (last :: items.take more).Pairwise (along before descends))
      (runLength less descends count last items) := by
  induction items generalizing count last with
  | nil => exact ⟨count, rfl, 0, rfl, List.pairwise_singleton _ _⟩
  | cons next rest ih =>
    obtain ⟨first, others⟩ := List.pairwise_cons.mp compared
    have decidesNext := (first next (.head rest)).2
    obtain ⟨answer, found⟩ := decidesNext.exists_answer
    rw [runLength]
    refine .step found ?_
    by_cases goesOn : answer = descends
    · subst goesOn
      rw [if_pos rfl]
      obtain ⟨_, ended, more, rfl, follows⟩ := ih (count + 1) others
      refine ⟨_, ended, more + 1, by omega, ?_⟩
      have start := decidesNext.along found
      have behind := (List.pairwise_cons.mp follows).1
      rw [List.take_succ_cons]
      refine List.pairwise_cons.mpr ⟨List.forall_mem_cons.mpr ⟨start, fun later isLater => ?_⟩, follows⟩
      exact (ordering.along answer).trans start (behind later isLater)
    · rw [if_neg goesOn]
      exact ⟨count, rfl, 0, rfl, List.pairwise_singleton _ _⟩

theorem naturalRun_ascends {items : List α} (compared : items.Pairwise (Compared less before)) :
    Gives (List.Pairwise before) (naturalRun less items) := by
  match items with
  | [] => exact ⟨[], rfl, .nil⟩
  | [only] => exact ⟨[only], rfl, List.pairwise_singleton _ _⟩
  | first :: second :: rest =>
    obtain ⟨comparedFirst, others⟩ := List.pairwise_cons.mp compared
    have decidesSecond := (comparedFirst second (.head rest)).2
    obtain ⟨descends, answer⟩ := decidesSecond.exists_answer
    refine .step answer ((runLength_follows ordering descends 2 others).bind ?_)
    rintro _ ⟨more, rfl, follows⟩
    have start := decidesSecond.along answer
    have run : (first :: second :: rest.take more).Pairwise (along before descends) := by
      refine List.pairwise_cons.mpr ⟨?_, follows⟩
      have behind := (List.pairwise_cons.mp follows).1
      exact List.forall_mem_cons.mpr ⟨start, fun later isLater =>
        (ordering.along descends).trans start (behind later isLater)⟩
    have taken : (first :: second :: rest).take (2 + more) = first :: second :: rest.take more := by
      rw [Nat.add_comm, List.take_succ_cons, List.take_succ_cons]
    refine ⟨_, rfl, ?_⟩
    rw [taken]
    cases descends with
    | false => exact run
    | true => exact List.pairwise_reverse.mpr run

theorem longRun_ascends (least : Nat) {items : List α}
    (compared : items.Pairwise (Compared less before)) :
    Gives (List.Pairwise before) (longRun less least items) := by
  refine ((naturalRun_ascends ordering compared).and_yields
    (naturalRun_takenFrom less items)).bind ?_
  rintro run ⟨ascends, taken, rest, rfl, perm, _⟩
  refine foldlM_insert_ascends ordering ascends ?_
  rw [← perm.length_eq, List.drop_take, List.drop_left]
  have sorted : (taken ++ rest.take (least - taken.length)).Pairwise (Compared less before) :=
    compared.sublist ((List.take_sublist _ _).append_left taken)
  have rearranged : taken ++ rest.take (least - taken.length) ~
      rest.take (least - taken.length) ++ run :=
    (perm.append_right _).trans List.perm_append_comm
  exact (rearranged.pairwise_iff Compared.symm).mp sorted

end Ordered

end SandboxLisp.Sorting
