import SandboxLisp.Proofs.Sorting.Ascending

/-!
# Merging succeeds and gives ascending order

The invariant of a merge is that what has been taken goes before what is left of either list, and that
the last item aside goes behind all that is standing.  Taking items that go before everything on the
other side keeps it, and a settled merge that has it gives its items in ascending order.  Merging from
the end of a run is merging in the opposite order.
-/

namespace SandboxLisp.Sorting

open scoped List

variable {α ε : Type} {less : α → α → Except ε Bool} {before : α → α → Prop}

/-- What is left of one list of a merge. -/
def Merge.left (merge : Merge α) : Side → List α
  | .aside => merge.aside
  | .standing => merge.standing

/-- The nearest item of one list. -/
def Side.front (fronts : α × α) : Side → α
  | .aside => fronts.1
  | .standing => fronts.2

theorem Side.opposite_opposite (side : Side) : side.opposite.opposite = side := by
  cases side <;> rfl

namespace Merge

/-- What has been taken goes before what is left, and the last item aside behind all that stands. -/
structure Ready (before : α → α → Prop) (merge : Merge α) : Prop where
  left (side : Side) : (merge.taken.reverse ++ merge.left side).Pairwise before
  last : ∀ item ∈ merge.aside.getLast?, ∀ item' ∈ merge.standing, before item' item

variable {merge : Merge α}

theorem exists_left_eq {fronts : α × α} (unsettled : merge.fronts? = some fronts) (side : Side) :
    ∃ rest, merge.left side = side.front fronts :: rest := by
  obtain ⟨aside, standing, taken⟩ := merge
  match aside, standing with
  | [], _ => simp [fronts?] at unsettled
  | [_], _ => simp [fronts?] at unsettled
  | _ :: _ :: _, [] => simp [fronts?] at unsettled
  | _ :: _ :: _, _ :: _ =>
    cases unsettled
    cases side <;> exact ⟨_, rfl⟩

theorem front_mem {fronts : α × α} (unsettled : merge.fronts? = some fronts) (side : Side) :
    side.front fronts ∈ merge.left side := by
  obtain ⟨rest, found⟩ := exists_left_eq unsettled side
  rw [found]
  exact .head rest

theorem left_take_self (side : Side) (count : Nat) :
    (merge.take side count).left side = (merge.left side).drop count := by
  cases side <;> rfl

theorem left_take_opposite (side : Side) (count : Nat) :
    (merge.take side count).left side.opposite = merge.left side.opposite := by
  cases side <;> rfl

/-- Taking items of the other list leaves the nearest item of a list. -/
theorem front_take_opposite {fronts fronts' : α × α} {side : Side} {count : Nat}
    (unsettled : merge.fronts? = some fronts)
    (unsettled' : (merge.take side count).fronts? = some fronts') :
    side.opposite.front fronts' = side.opposite.front fronts := by
  obtain ⟨rest, found⟩ := exists_left_eq unsettled side.opposite
  obtain ⟨rest', found'⟩ := exists_left_eq unsettled' side.opposite
  rw [left_take_opposite, found] at found'
  exact (List.cons.inj found').1.symm

theorem left_take_subset (side side' : Side) (count : Nat) :
    (merge.take side count).left side' ⊆ merge.left side' := by
  cases side <;> cases side'
  · exact List.drop_subset _ _
  · exact List.Subset.refl _
  · exact List.Subset.refl _
  · exact List.drop_subset _ _

/-- Taking items that go before everything on the other side keeps a merge ready. -/
theorem Ready.take (ready : Ready before merge) (side : Side) (count : Nat)
    (first : ∀ item ∈ (merge.left side).take count, ∀ other ∈ merge.left side.opposite,
      before item other) : Ready before (merge.take side count) := by
  have whole := List.take_append_drop count (merge.left side)
  have taken : (merge.take side count).taken.reverse =
      merge.taken.reverse ++ (merge.left side).take count := by
    cases side <;> simp [Merge.take, Merge.left]
  have own : ((merge.take side count).taken.reverse ++ (merge.take side count).left side).Pairwise
      before := by
    rw [taken, left_take_self, List.append_assoc, whole]
    exact ready.left side
  have other : ((merge.take side count).taken.reverse ++
      (merge.take side count).left side.opposite).Pairwise before := by
    have kept := List.pairwise_append.mp (ready.left side.opposite)
    rw [taken, left_take_opposite]
    refine List.pairwise_append.mpr ⟨?_, kept.2.1, ?_⟩
    · exact (ready.left side).sublist ((List.take_sublist count _).append_left _)
    · intro item isItem
      rcases List.mem_append.mp isItem with isTaken | isNext
      · exact kept.2.2 item isTaken
      · exact first item isNext
  constructor
  · intro side'
    cases side <;> cases side'
    · exact own
    · exact other
    · exact other
    · exact own
  · cases side with
    | aside =>
      intro item isLast
      apply ready.last item
      rw [show (merge.take .aside count).aside = merge.aside.drop count from rfl,
        List.getLast?_drop] at isLast
      split at isLast
      · cases isLast
      · exact isLast
    | standing =>
      intro item isLast item' isItem'
      exact ready.last item isLast item' (List.mem_of_mem_drop isItem')

/-- Taking the nearest item of one list keeps a merge ready if it goes before the other list. -/
theorem Ready.take_front (ready : Ready before merge) {fronts : α × α}
    (unsettled : merge.fronts? = some fronts) (side : Side)
    (first : ∀ other ∈ merge.left side.opposite, before (side.front fronts) other) :
    Ready before (merge.take side 1) := by
  refine ready.take side 1 fun item isItem => ?_
  obtain ⟨rest, found⟩ := exists_left_eq unsettled side
  rw [found] at isItem
  obtain rfl := List.mem_singleton.mp isItem
  exact first

/-- A settled merge that is ready gives its items in ascending order. -/
theorem Ready.result (ready : Ready before merge) (settled : merge.fronts? = none) :
    merge.result.Pairwise before := by
  obtain ⟨aside, standing, taken⟩ := merge
  have withAside : (taken.reverse ++ aside).Pairwise before := ready.left .aside
  have withStanding : (taken.reverse ++ standing).Pairwise before := ready.left .standing
  match aside, standing with
  | [], _ => simpa [Merge.result] using withStanding
  | [item], standing =>
    refine List.pairwise_append.mpr ⟨withStanding, List.pairwise_singleton before item, ?_⟩
    intro other isOther
    rw [List.forall_mem_singleton]
    rcases List.mem_append.mp isOther with isTaken | isStanding
    · exact (List.pairwise_append.mp withAside).2.2 other isTaken item (.head [])
    · exact ready.last item rfl other isStanding
  | _ :: _ :: _, [] => simpa [Merge.result] using withAside
  | _ :: _ :: _, _ :: _ => cases settled

end Merge

/-- A test for the opposite answer. -/
theorem negated_eq {test : Except ε Bool} {answer : Bool} :
    (do return !(← test)) = (.ok answer : Except ε Bool) ↔ test = .ok !answer := by
  rcases test with cause | answer'
  · simp [bind, Except.bind]
  · cases answer' <;> cases answer <;> simp [bind, Except.bind, pure, Except.pure]

section Ordered

variable (ordering : Ordering before) {direction : Direction α ε} {merge : Merge α}

include ordering

/-- The items of an ascending list that do not go behind another one are those that it starts with. -/
theorem gallop_before {head : α} {items : List α} (middle : Middle) (ascends : items.Pairwise before)
    (decides : ∀ item ∈ items, Decides less before head item) :
    Gives (fun count => (∀ item ∈ items.take count, before item head) ∧
        ∀ item ∈ items.drop count, before head item)
      (gallop middle (fun item => do return !(← less head item)) items) := by
  refine (gallop_parts middle ?_ ?_).imp fun count parts => ⟨?_, ?_⟩
  · intro item isItem
    rw [negated_eq, negated_eq]
    exact (decides item isItem).answered.symm
  · refine ascends.imp_of_mem fun {item later} isItem isLater goes => ?_
    rw [negated_eq, negated_eq]
    intro answer
    have behind := (decides later isLater).before_of_false answer
    exact (decides item isItem).false_of_before ordering (ordering.trans goes behind)
  · intro item isItem
    have answer := negated_eq.mp (parts.1 item isItem)
    exact (decides item (List.mem_of_mem_take isItem)).before_of_false answer
  · intro item isItem
    have answer := negated_eq.mp (parts.2 item isItem)
    exact (decides item (List.mem_of_mem_drop isItem)).before_of_true answer

/-- A stretch is what goes before the nearest item of the other list. -/
theorem stretch_parts (ready : merge.Ready before)
    (decides : ∀ standing ∈ merge.standing, ∀ aside ∈ merge.aside,
      Decides direction.goesFirst before standing aside)
    {fronts : α × α} (unsettled : merge.fronts? = some fronts) (turn : Side) :
    Gives (fun count =>
        (∀ item ∈ (merge.left turn).take count, before item (turn.opposite.front fronts)) ∧
          ∀ item ∈ (merge.left turn).drop count, before (turn.opposite.front fronts) item)
      (stretch direction fronts merge turn) := by
  have ascends := (List.pairwise_append.mp (ready.left turn)).2.1
  cases turn with
  | aside =>
    have decides item isItem := decides fronts.2 (Merge.front_mem unsettled .standing) item isItem
    exact gallop_before ordering direction.middle ascends decides
  | standing =>
    have decides item isItem := decides item isItem fronts.1 (Merge.front_mem unsettled .aside)
    rw [stretch]
    refine (gallop_parts direction.middle ?_ ?_).imp fun count parts => ?_
    · exact fun item isItem => (decides item isItem).answered
    · refine ascends.imp_of_mem fun {item later} isItem isLater goes answer => ?_
      have behind := (decides later isLater).before_of_true answer
      exact (decides item isItem).true_of_before ordering (ordering.trans goes behind)
    · constructor
      · intro item isItem
        have decided := decides item (List.mem_of_mem_take isItem)
        exact decided.before_of_true (parts.1 item isItem)
      · intro item isItem
        have decided := decides item (List.mem_of_mem_drop isItem)
        exact decided.before_of_false (parts.2 item isItem)

/-- The nearest item of a list goes before all others of it. -/
theorem before_left_of_front (ready : merge.Ready before) {fronts : α × α}
    (unsettled : merge.fronts? = some fronts) {side : Side} {item : α}
    (first : before item (side.front fronts)) : ∀ other ∈ merge.left side, before item other := by
  obtain ⟨rest, found⟩ := Merge.exists_left_eq unsettled side
  have ascends := (List.pairwise_append.mp (ready.left side)).2.1
  rw [found] at ascends ⊢
  have behind := (List.pairwise_cons.mp ascends).1
  exact List.forall_mem_cons.mpr ⟨first, fun other isOther =>
    ordering.trans first (behind other isOther)⟩

theorem advance_ascends (pace : Pace) (patience : Nat) (ready : merge.Ready before)
    (decides : ∀ standing ∈ merge.standing, ∀ aside ∈ merge.aside,
      Decides direction.goesFirst before standing aside) :
    Gives (fun merged => merged.1.Pairwise before) (advance direction pace patience merge) := by
  induction size : merge.size using Nat.strongRecOn generalizing pace patience merge with
  | ind size' ih =>
    rw [advance_eq]
    cases unsettled : merge.fronts? with
    | none => exact ⟨_, rfl, ready.result unsettled⟩
    | some fronts =>
      have fewer := Merge.size_take_lt unsettled
      rw [size] at fewer
      have decidesAfter {merge' : Merge α} (fewer : ∀ side, merge'.left side ⊆ merge.left side) :
          ∀ standing ∈ merge'.standing, ∀ aside ∈ merge'.aside,
            Decides direction.goesFirst before standing aside :=
        fun standing isStanding aside isAside =>
          decides standing (fewer .standing isStanding) aside (fewer .aside isAside)
      cases pace with
      | single winner wins =>
        have decidesFronts := decides fronts.2 (Merge.front_mem unsettled .standing) fronts.1
          (Merge.front_mem unsettled .aside)
        obtain ⟨answer, found⟩ := decidesFronts.exists_answer
        refine .step found ?_
        have goes : ∀ side, side = (if answer then Side.standing else .aside) →
            before (side.front fronts) (side.opposite.front fronts) := by
          rintro _ rfl
          cases answer with
          | false => exact decidesFronts.before_of_false found
          | true => exact decidesFronts.before_of_true found
        refine ih _ (fewer _) _ _ ?_ (decidesAfter fun side => Merge.left_take_subset _ side 1) rfl
        exact ready.take_front unsettled _ (before_left_of_front ordering ready unsettled (goes _ rfl))
      | stretches turn long =>
        refine (stretch_parts ordering ready decides unsettled turn).bind fun count parts => ?_
        have readyRest : (merge.take turn count).Ready before := ready.take turn count
          fun item isItem => before_left_of_front ordering ready unsettled (parts.1 item isItem)
        dsimp only
        cases restUnsettled : (merge.take turn count).fronts? with
        | none => exact ⟨_, rfl, readyRest.result restUnsettled⟩
        | some fronts' =>
          have fewerStill := Nat.lt_of_lt_of_le
            (Merge.size_take_lt restUnsettled turn.opposite) (merge.size_take_le turn count)
          rw [size] at fewerStill
          have readyNext : ((merge.take turn count).take turn.opposite 1).Ready before := by
            refine readyRest.take_front restUnsettled turn.opposite ?_
            rw [Side.opposite_opposite, Merge.front_take_opposite unsettled restUnsettled,
              Merge.left_take_self]
            exact parts.2
          have decidesNext := decidesAfter fun side =>
            List.Subset.trans (Merge.left_take_subset turn.opposite side 1)
              (Merge.left_take_subset turn side count)
          dsimp only
          split
          · next settled => exact ⟨_, rfl, readyNext.result (Option.isNone_iff_eq_none.mp settled)⟩
          · split
            · exact ih _ fewerStill _ _ readyNext decidesNext rfl
            · split
              · exact ih _ fewerStill _ _ readyNext decidesNext rfl
              · exact ih _ fewerStill _ _ readyNext decidesNext rfl

theorem mergeLists_ascends (patience : Nat) {aside standing : List α}
    (ascendsAside : aside.Pairwise before) (ascendsStanding : standing.Pairwise before)
    (first : ∀ item ∈ standing.head?, ∀ other ∈ aside, before item other)
    (last : ∀ item ∈ aside.getLast?, ∀ other ∈ standing, before other item)
    (decides : ∀ item ∈ standing, ∀ other ∈ aside, Decides direction.goesFirst before item other) :
    Gives (fun merged => merged.1.Pairwise before)
      (mergeLists direction patience aside standing) := by
  have start : (Merge.mk aside standing []).Ready before := by
    refine ⟨fun side => ?_, last⟩
    cases side with
    | aside => exact ascendsAside
    | standing => exact ascendsStanding
  refine advance_ascends ordering _ patience (start.take .standing 1 ?_) ?_
  · intro item isItem
    cases standing with
    | nil => cases isItem
    | cons head rest =>
      obtain rfl := List.mem_singleton.mp isItem
      exact first item rfl
  · exact fun item isItem => decides item (List.mem_of_mem_drop isItem)

/-- Items that go before the head of an ascending list go before all of it. -/
theorem before_of_head {item head : α} {rest : List α} (ascends : (head :: rest).Pairwise before)
    (first : before item head) : ∀ other ∈ head :: rest, before item other :=
  List.forall_mem_cons.mpr ⟨first, fun other isOther =>
    ordering.trans first ((List.pairwise_cons.mp ascends).1 other isOther)⟩

/-- Items behind the last of an ascending list are behind all of it. -/
theorem before_of_last {item last : α} {items : List α} (ascends : items.Pairwise before)
    (isLast : items.getLast? = some last) (behind : before last item) :
    ∀ other ∈ items, before other item := by
  obtain ⟨others, rfl⟩ := List.getLast?_eq_some_iff.mp isLast
  intro other isOther
  rcases List.mem_append.mp isOther with isOther | isOther
  · exact ordering.trans ((List.pairwise_append.mp ascends).2.2 other isOther last (.head [])) behind
  · obtain rfl := List.mem_singleton.mp isOther
    exact behind

/-- The items of an ascending list that the first search of a merge takes go before another list that
ascends from its head on; the head goes before the others. -/
theorem gallop_front {first rest : List α} {head : α} (ascends : first.Pairwise before)
    (ascends' : (head :: rest).Pairwise before)
    (decides : ∀ item ∈ first, Decides less before head item) :
    Gives (fun count => (∀ item ∈ first.take count, ∀ other ∈ head :: rest, before item other) ∧
        ∀ item ∈ first.drop count, before head item)
      (gallop .lower (fun item => do return !(← less head item)) first) := by
  refine (gallop_before ordering .lower ascends decides).imp fun count parts => ⟨?_, parts.2⟩
  exact fun item isItem => before_of_head ordering ascends' (parts.1 item isItem)

/-- The items of an ascending list that the second search of a merge takes from its end go behind
another list that ascends to its last item; the others go before that item. -/
theorem gallop_behind {first second : List α} {last : α} (ascends : first.Pairwise before)
    (isLast : first.getLast? = some last) (ascends' : second.Pairwise before)
    (decides : ∀ item ∈ second, Decides less before item last) :
    Gives (fun count =>
        (∀ other ∈ second.drop (second.length - count), ∀ item ∈ first, before item other) ∧
          ∀ item ∈ second.take (second.length - count), before item last)
      (gallop .upper (fun item => do return !(← less item last)) second.reverse) := by
  refine (@gallop_before α ε (fun one other => less other one) (flip before) ordering.flip last
    second.reverse .upper (List.pairwise_reverse.mpr ascends') fun item isItem =>
      decides item (List.mem_reverse.mp isItem)).imp fun count parts => ?_
  rw [List.take_reverse, List.drop_reverse] at parts
  constructor
  · intro other isOther
    exact before_of_last ordering ascends isLast (parts.1 other (List.mem_reverse.mpr isOther))
  · exact fun item isItem => parts.2 item (List.mem_reverse.mpr isItem)

omit ordering in
/-- The merged middle of two lists, between what the first begins and what the second ends with. -/
theorem framed {front low high behind merged : List α} (ascends : (front ++ low).Pairwise before)
    (ascends' : (high ++ behind).Pairwise before)
    (frontFirst : ∀ item ∈ front, ∀ other ∈ high ++ behind, before item other)
    (behindLast : ∀ other ∈ behind, ∀ item ∈ front ++ low, before item other)
    (ascendsMerged : merged.Pairwise before) (perm : merged ~ low ++ high) :
    (front ++ merged ++ behind).Pairwise before := by
  obtain ⟨ascendsFront, -, frontLow⟩ := List.pairwise_append.mp ascends
  obtain ⟨-, ascendsBehind, highBehind⟩ := List.pairwise_append.mp ascends'
  rw [List.append_assoc]
  refine List.pairwise_append.mpr
    ⟨ascendsFront, List.pairwise_append.mpr ⟨ascendsMerged, ascendsBehind, ?_⟩, ?_⟩
  · intro item isMerged other isBehind
    rcases List.mem_append.mp (perm.mem_iff.mp isMerged) with isLow | isHigh
    · exact behindLast other isBehind item (List.mem_append_right front isLow)
    · exact highBehind item isHigh other isBehind
  · intro item isFront
    refine List.forall_mem_append.mpr ⟨fun other isMerged => ?_, fun other isBehind => ?_⟩
    · rcases List.mem_append.mp (perm.mem_iff.mp isMerged) with isLow | isHigh
      · exact frontLow item isFront other isLow
      · exact frontFirst item isFront other (List.mem_append_left behind isHigh)
    · exact frontFirst item isFront other (List.mem_append_right high isBehind)

/-- The two lists of a merge, of which the last item of the first is the last of all and the head of
the second the first of all, whichever of them is set aside. -/
theorem mergeEither_ascends (patience : Nat) {low high : List α}
    (ascends : low.Pairwise before) (ascends' : high.Pairwise before)
    (headFirst : ∀ item ∈ high.head?, ∀ other ∈ low, before item other)
    (lastBehind : ∀ item ∈ low.getLast?, ∀ other ∈ high, before other item)
    (compared : ∀ item ∈ low, ∀ other ∈ high, Compared less before item other) :
    Gives (fun merged => merged.1.Pairwise before) (mergeLists (.forward less) patience low high) ∧
      Gives (fun merged => merged.1.reverse.Pairwise before)
        (mergeLists (.backward less) patience high.reverse low.reverse) := by
  constructor
  · exact mergeLists_ascends ordering patience ascends ascends' headFirst lastBehind
      fun item isItem other isOther => (compared other isOther item isItem).2
  · refine (mergeLists_ascends ordering.flip patience (List.pairwise_reverse.mpr ascends')
      (List.pairwise_reverse.mpr ascends) ?_ ?_ ?_).imp fun merged => List.pairwise_reverse.mpr
    · intro item isItem other isOther
      rw [List.head?_reverse] at isItem
      exact lastBehind item isItem other (List.mem_reverse.mp isOther)
    · intro item isItem other isOther
      rw [List.getLast?_reverse] at isItem
      exact headFirst item isItem other (List.mem_reverse.mp isOther)
    · intro item isItem other isOther
      exact (compared item (List.mem_reverse.mp isItem) other (List.mem_reverse.mp isOther)).2

theorem mergeRuns_ascends (patience : Nat) {first second : List α}
    (ascends : first.Pairwise before) (ascends' : second.Pairwise before)
    (compared : ∀ item ∈ first, ∀ other ∈ second, Compared less before item other) :
    Gives (fun merged => merged.1.Pairwise before) (mergeRuns less patience first second) := by
  unfold mergeRuns
  cases isLast : first.getLast? with
  | none => exact ⟨_, rfl, by simpa [List.getLast?_eq_none_iff.mp isLast] using ascends'⟩
  | some last =>
    cases second with
    | nil => exact ⟨_, rfl, by simpa using ascends⟩
    | cons head rest =>
      have lastFirst : last ∈ first := List.mem_of_getLast? isLast
      refine (gallop_front ordering ascends ascends' fun item isItem =>
        (compared item isItem head (.head rest)).2).bind ?_
      rintro count ⟨frontFirst, headFirst⟩
      have low := List.take_append_drop count first
      dsimp only
      split
      · next empty =>
        rw [List.isEmpty_iff.mp empty, List.append_nil] at low
        rw [low] at frontFirst
        exact ⟨_, rfl, List.pairwise_append.mpr ⟨ascends, ascends', frontFirst⟩⟩
      · next nonempty =>
        have lowEnds : (first.drop count).getLast? = some last := by
          rw [List.getLast?_drop, if_neg, isLast]
          simpa using nonempty
        refine (gallop_behind ordering ascends isLast ascends' fun item isItem =>
          (compared last lastFirst item isItem).2).bind ?_
        rintro tail ⟨behindLast, lastBehind⟩
        generalize (head :: rest).length - tail = height at behindLast lastBehind ⊢
        have high := List.take_append_drop height (head :: rest)
        split
        · next empty =>
          rw [List.isEmpty_iff.mp empty, List.nil_append] at high
          rw [high] at behindLast
          exact ⟨_, rfl, List.pairwise_append.mpr
            ⟨ascends, ascends', fun item isItem other isOther => behindLast other isOther item isItem⟩⟩
        · next nonemptyHigh =>
          have isHead : ((head :: rest).take height).head? = some head := by
            rw [List.head?_take, if_neg]
            · rfl
            · rintro rfl
              exact nonemptyHigh rfl
          rw [← low] at ascends behindLast
          rw [← high] at ascends' frontFirst
          obtain ⟨forward, backward⟩ := mergeEither_ascends ordering patience
            (List.pairwise_append.mp ascends).2.1 (List.pairwise_append.mp ascends').1
            (fun item isItem => by cases isHead.symm.trans isItem; exact headFirst)
            (fun item isItem => by cases lowEnds.symm.trans isItem; exact lastBehind)
            (fun item isItem other isOther => compared item (List.mem_of_mem_drop isItem) other
              (List.mem_of_mem_take isOther))
          split
          · refine (forward.and_yields (mergeLists_perm _ _ _ _)).bind ?_
            rintro ⟨merged, _⟩ ⟨found, perm⟩
            refine ⟨_, rfl, ?_⟩
            exact framed ascends ascends' frontFirst behindLast found
              (perm.trans List.perm_append_comm)
          · refine (backward.and_yields (mergeLists_perm _ _ _ _)).bind ?_
            rintro ⟨merged, _⟩ ⟨found, perm⟩
            refine ⟨_, rfl, ?_⟩
            exact framed ascends ascends' frontFirst behindLast found
              ((List.reverse_perm _).trans
                (perm.trans ((List.reverse_perm _).append (List.reverse_perm _))))

end Ordered

end SandboxLisp.Sorting
