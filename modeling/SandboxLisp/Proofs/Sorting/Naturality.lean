import SandboxLisp.Sorting

/-!
# Sorting looks at items only to compare them

If the items of a list are replaced, and a comparison of replacements comes to what the comparison of
the items came to, then the sorted list has its items replaced and is otherwise the same; failures
may be replaced likewise.  Each part of the method has a statement of this kind, which follows its
recursion.
-/

namespace SandboxLisp.Sorting

variable {α α' β β' ε ε' : Type}

/-- An outcome with its value or its failure replaced. -/
def replaced (error : ε → ε') (value : α → α') : Except ε α → Except ε' α'
  | .ok found => .ok (value found)
  | .error cause => .error (error cause)

/-- A sequence is replaced part by part. -/
theorem replaced_bind {error : ε → ε'} {first : α → α'} {second : β → β'} {outcome : Except ε α}
    {next : α → Except ε β} {next' : α' → Except ε' β'}
    (same : ∀ found, next' (first found) = replaced error second (next found)) :
    (replaced error first outcome >>= next') = replaced error second (outcome >>= next) := by
  cases outcome with
  | ok found => exact same found
  | error cause => rfl

/-- A comparison of replaced items comes to the comparison of the items. -/
def Follows (error : ε → ε') (item : α → α') (less : α → α → Except ε Bool)
    (less' : α' → α' → Except ε' Bool) : Prop :=
  ∀ one other, less' (item one) (item other) = replaced error id (less one other)

/-- A test of replaced items comes to the test of the items. -/
def TestFollows (error : ε → ε') (item : α → α') (test : α → Except ε Bool)
    (test' : α' → Except ε' Bool) : Prop :=
  ∀ one, test' (item one) = replaced error id (test one)

section Items

variable {error : ε → ε'} {item : α → α'} {less : α → α → Except ε Bool}
  {less' : α' → α' → Except ε' Bool} {test : α → Except ε Bool} {test' : α' → Except ε' Bool}

/-! ### Insertion and runs -/

theorem insert_eq (less : α → α → Except ε Bool) (new : α) (sorted : List α) :
    insert less new sorted =
      match sorted.drop (sorted.length / 2) with
      | [] => .ok [new]
      | middle :: above => do
          if ← less new middle then
            return (← insert less new (sorted.take (sorted.length / 2))) ++ middle :: above
          else
            return sorted.take (sorted.length / 2) ++ middle :: (← insert less new above) := by
  rw [insert]
  split
  · next found => rw [found]
  · next found =>
    dsimp only
    rw [found]

theorem insert_replaced (follows : Follows error item less less') (new : α) (sorted : List α) :
    insert less' (item new) (sorted.map item) =
      replaced error (List.map item) (insert less new sorted) := by
  induction size : sorted.length using Nat.strongRecOn generalizing sorted with
  | ind size' ih =>
    rw [insert_eq less', insert_eq less, List.length_map, ← List.map_drop, ← List.map_take]
    cases upper : sorted.drop (sorted.length / 2) with
    | nil => rfl
    | cons middle above =>
      have sizes := congrArg List.length upper
      simp only [List.length_drop, List.length_cons] at sizes
      rw [List.map_cons]
      dsimp only
      rw [follows]
      apply replaced_bind
      rintro (_ | _)
      · have inserted := ih above.length (by omega) above rfl
        simp only [id_eq, Bool.false_eq_true, if_false, inserted]
        apply replaced_bind
        intro found
        simp [replaced, pure, Except.pure]
      · have shorter : (sorted.take (sorted.length / 2)).length < size' := by
          rw [List.length_take]
          omega
        have inserted := ih _ shorter (sorted.take (sorted.length / 2)) rfl
        simp only [id_eq, if_true, inserted]
        apply replaced_bind
        intro found
        simp [replaced, pure, Except.pure]

theorem runLength_replaced (follows : Follows error item less less') (descends : Bool) (count : Nat)
    (last : α) (items : List α) :
    runLength less' descends count (item last) (items.map item) =
      replaced error id (runLength less descends count last items) := by
  induction items generalizing count last with
  | nil => rfl
  | cons next rest ih =>
    rw [List.map_cons, runLength, runLength, follows]
    apply replaced_bind
    intro answer
    rw [id_eq]
    split
    · exact ih (count + 1) next
    · rfl

theorem naturalRun_replaced (follows : Follows error item less less') (items : List α) :
    naturalRun less' (items.map item) = replaced error (List.map item) (naturalRun less items) := by
  match items with
  | [] => rfl
  | [only] => rfl
  | first :: second :: rest =>
    simp only [List.map_cons, naturalRun]
    rw [follows]
    apply replaced_bind
    intro descends
    rw [id_eq, runLength_replaced follows]
    apply replaced_bind
    intro count
    rw [id_eq, ← List.map_cons, ← List.map_cons, ← List.map_take]
    cases descends <;> simp [replaced, pure, Except.pure]

theorem foldlM_insert_replaced (follows : Follows error item less less') (items sorted : List α) :
    (items.map item).foldlM (fun sorted new => insert less' new sorted) (sorted.map item) =
      replaced error (List.map item)
        (items.foldlM (fun sorted new => insert less new sorted) sorted) := by
  induction items generalizing sorted with
  | nil => rfl
  | cons new rest ih =>
    rw [List.map_cons, List.foldlM_cons, List.foldlM_cons, insert_replaced follows]
    exact replaced_bind fun found => ih found

theorem longRun_replaced (follows : Follows error item less less') (least : Nat) (items : List α) :
    longRun less' least (items.map item) =
      replaced error (List.map item) (longRun less least items) := by
  rw [longRun, longRun, naturalRun_replaced follows]
  apply replaced_bind
  intro run
  rw [List.length_map, ← List.map_take, ← List.map_drop]
  exact foldlM_insert_replaced follows _ run

/-! ### Galloping -/

theorem narrow_eq (test : α → Except ε Bool) (middle : Middle) (items : List α) (low high : Nat) :
    narrow middle test items low high =
      if low < high then
        match items[middle.between low high]? with
        | none => .ok low
        | some found => do
            if ← test found then narrow middle test items (middle.between low high + 1) high
            else narrow middle test items low (middle.between low high)
      else .ok low := by
  rw [narrow]
  split <;> rfl

theorem narrow_replaced (follows : TestFollows error item test test') (middle : Middle)
    (items : List α) (low high : Nat) :
    narrow middle test' (items.map item) low high =
      replaced error id (narrow middle test items low high) := by
  induction size : high - low using Nat.strongRecOn generalizing low high with
  | ind size' ih =>
    rw [narrow_eq test', narrow_eq test]
    split
    · next below =>
      have after := middle.le_between below
      have before := middle.between_lt below
      rw [List.getElem?_map]
      cases items[middle.between low high]? with
      | none => rfl
      | some found =>
        simp only [Option.map_some]
        rw [follows]
        apply replaced_bind
        rintro (_ | _)
        · exact ih _ (by omega) _ _ rfl
        · exact ih _ (by omega) _ _ rfl
    · rfl

theorem leap_eq (test : α → Except ε Bool) (items : List α) (last next : Nat) :
    leap test items last next =
      match items[next]? with
      | none => .ok (last + 1, items.length)
      | some found => do
          if ← test found then leap test items next (2 * next + 1) else return (last + 1, next) := by
  rw [leap]
  split
  · next found => rw [found]
  · next found =>
    dsimp only
    rw [found]

theorem leap_replaced (follows : TestFollows error item test test') (items : List α)
    (last next : Nat) :
    leap test' (items.map item) last next = replaced error id (leap test items last next) := by
  induction size : items.length - next using Nat.strongRecOn generalizing last next with
  | ind size' ih =>
    rw [leap_eq test', leap_eq test, List.getElem?_map]
    cases found : items[next]? with
    | none => simp [replaced]
    | some one =>
      have within := (List.getElem?_eq_some_iff.mp found).1
      simp only [Option.map_some]
      rw [follows]
      apply replaced_bind
      rintro (_ | _)
      · rfl
      · exact ih _ (by omega) _ _ rfl

theorem gallop_replaced (follows : TestFollows error item test test') (middle : Middle)
    (items : List α) :
    gallop middle test' (items.map item) = replaced error id (gallop middle test items) := by
  cases items with
  | nil => rfl
  | cons first rest =>
    have leaps := leap_replaced follows (first :: rest) 0 1
    have narrows := narrow_replaced follows middle (first :: rest)
    rw [List.map_cons] at leaps narrows
    rw [List.map_cons, gallop, gallop, follows]
    apply replaced_bind
    rintro (_ | _)
    · rfl
    · simp only [id_eq, if_true]
      rw [leaps]
      apply replaced_bind
      rintro ⟨low, high⟩
      exact narrows low high

/-! ### Merging -/

/-- A merge with its items replaced. -/
def Merge.replace (item : α → α') (merge : Merge α) : Merge α' :=
  ⟨merge.aside.map item, merge.standing.map item, merge.taken.map item⟩

namespace Merge

variable (item : α → α') (merge : Merge α)

theorem take_replace (side : Side) (count : Nat) :
    (merge.replace item).take side count = (merge.take side count).replace item := by
  cases side <;> simp [replace, take, List.map_drop, List.map_take]

theorem fronts?_replace :
    (merge.replace item).fronts? = merge.fronts?.map fun pair => (item pair.1, item pair.2) := by
  obtain ⟨aside, standing, taken⟩ := merge
  match aside, standing with
  | [], _ => rfl
  | [_], _ => rfl
  | _ :: _ :: _, [] => rfl
  | _ :: _ :: _, _ :: _ => rfl

theorem result_replace : (merge.replace item).result = merge.result.map item := by
  simp [replace, result]

end Merge

/-- Two directions of merges that compare replaced items and the items alike. -/
structure DirectionFollows (error : ε → ε') (item : α → α') (direction : Direction α ε)
    (direction' : Direction α' ε') : Prop where
  goesFirst : Follows error item direction.goesFirst direction'.goesFirst
  middle : direction'.middle = direction.middle
  first : direction'.first = direction.first

theorem Follows.forward (follows : Follows error item less less') :
    DirectionFollows error item (.forward less) (.forward less') :=
  ⟨follows, rfl, rfl⟩

theorem Follows.backward (follows : Follows error item less less') :
    DirectionFollows error item (.backward less) (.backward less') :=
  ⟨fun one other => follows other one, rfl, rfl⟩

/-- A test for the opposite answer follows. -/
theorem TestFollows.not (follows : TestFollows error item test test') :
    TestFollows error item (fun one => do return !(← test one))
      (fun one => do return !(← test' one)) := by
  intro one
  dsimp only
  rw [follows]
  exact replaced_bind fun _ => rfl

section Merges

variable {direction : Direction α ε} {direction' : Direction α' ε'}

theorem stretch_replaced (follows : DirectionFollows error item direction direction')
    (fronts : α × α) (merge : Merge α) (side : Side) :
    stretch direction' (item fronts.1, item fronts.2) (merge.replace item) side =
      replaced error id (stretch direction fronts merge side) := by
  have behind : TestFollows error item (fun one => direction.goesFirst fronts.2 one)
      (fun one => direction'.goesFirst (item fronts.2) one) := follows.goesFirst fronts.2
  have before : TestFollows error item (fun one => direction.goesFirst one fronts.1)
      (fun one => direction'.goesFirst one (item fronts.1)) :=
    fun one => follows.goesFirst one fronts.1
  cases side with
  | aside =>
    rw [stretch, stretch, follows.middle]
    exact gallop_replaced behind.not direction.middle merge.aside
  | standing =>
    rw [stretch, stretch, follows.middle]
    exact gallop_replaced before direction.middle merge.standing

theorem advance_eq (direction : Direction α ε) (pace : Pace) (patience : Nat) (merge : Merge α) :
    advance direction pace patience merge =
      (match merge.fronts? with
      | none => .ok (merge.result, patience)
      | some fronts =>
          match pace with
          | .single winner wins => do
              let side := if ← direction.goesFirst fronts.2 fronts.1 then .standing else .aside
              let wins := if side = winner then wins + 1 else 1
              advance direction
                (if wins < patience then .single side wins else .stretches direction.first false)
                patience (merge.take side 1)
          | .stretches turn long => do
              let count ← stretch direction fronts merge turn
              let rest := merge.take turn count
              let long := long || longStretch ≤ count
              match rest.fronts? with
              | none => return (rest.result, patience)
              | some _ =>
                  let next := rest.take turn.opposite 1
                  if next.fronts?.isNone then return (next.result, patience)
                  else if turn = direction.first then
                    advance direction (.stretches turn.opposite long) patience next
                  else if long then
                    advance direction (.stretches direction.first false) (max 1 (patience - 1)) next
                  else advance direction (.single .aside 0) (patience + 1) next) := by
  rw [advance]
  split
  · next settled => rw [settled]
  · next unsettled =>
    dsimp only
    rw [unsettled]
    cases pace with
    | single winner wins => rfl
    | stretches turn long =>
      apply bind_congr
      intro count
      split
      · next settled => rw [settled]
      · next unsettledStill => rw [unsettledStill]

theorem advance_replaced (follows : DirectionFollows error item direction direction') (pace : Pace)
    (patience : Nat) (merge : Merge α) :
    advance direction' pace patience (merge.replace item) =
      replaced error (Prod.map (List.map item) id) (advance direction pace patience merge) := by
  induction size : merge.size using Nat.strongRecOn generalizing pace patience merge with
  | ind size' ih =>
    rw [advance_eq direction', advance_eq direction, Merge.fronts?_replace]
    cases unsettled : merge.fronts? with
    | none => simp [replaced, Merge.result_replace]
    | some fronts =>
      have fewer := Merge.size_take_lt unsettled
      rw [size] at fewer
      cases pace with
      | single winner wins =>
        simp only [Option.map_some]
        rw [follows.goesFirst, follows.first]
        apply replaced_bind
        intro answer
        rw [id_eq, Merge.take_replace]
        exact ih _ (fewer _) _ _ _ rfl
      | stretches turn long =>
        simp only [Option.map_some]
        rw [stretch_replaced follows, follows.first]
        apply replaced_bind
        intro count
        rw [id_eq, Merge.take_replace, Merge.fronts?_replace]
        cases restUnsettled : (merge.take turn count).fronts? with
        | none => simp [replaced, Merge.result_replace, pure, Except.pure]
        | some fronts' =>
          have fewerStill := Nat.lt_of_lt_of_le
            (Merge.size_take_lt restUnsettled turn.opposite) (merge.size_take_le turn count)
          rw [size] at fewerStill
          simp only [Option.map_some, Merge.take_replace, Merge.fronts?_replace, Option.isNone_map]
          split
          · simp [replaced, Merge.result_replace, pure, Except.pure]
          · split
            · exact ih _ fewerStill _ _ _ rfl
            · split
              · exact ih _ fewerStill _ _ _ rfl
              · exact ih _ fewerStill _ _ _ rfl

theorem mergeLists_replaced (follows : DirectionFollows error item direction direction')
    (patience : Nat) (aside standing : List α) :
    mergeLists direction' patience (aside.map item) (standing.map item) =
      replaced error (Prod.map (List.map item) id)
        (mergeLists direction patience aside standing) := by
  have first := Merge.take_replace item ⟨aside, standing, []⟩ .standing 1
  have advances := advance_replaced follows (.single .aside 0) patience
    (Merge.take ⟨aside, standing, []⟩ .standing 1)
  rw [← first] at advances
  exact advances

end Merges

theorem mergeRuns_replaced (follows : Follows error item less less') (patience : Nat)
    (first second : List α) :
    mergeRuns less' patience (first.map item) (second.map item) =
      replaced error (Prod.map (List.map item) id) (mergeRuns less patience first second) := by
  unfold mergeRuns
  rw [List.getLast?_map]
  cases first.getLast? with
  | none => simp [replaced]
  | some last =>
    cases second with
    | nil => simp [replaced]
    | cons head rest =>
      have notBelowHead : TestFollows error item (fun one => less head one)
          (fun one => less' (item head) one) := follows head
      have notAboveLast : TestFollows error item (fun one => less one last)
          (fun one => less' one (item last)) := fun one => follows one last
      simp only [Option.map_some, List.map_cons]
      rw [gallop_replaced notBelowHead.not]
      apply replaced_bind
      intro before
      rw [id_eq, ← List.map_drop, List.isEmpty_map]
      split
      · simp [replaced, pure, Except.pure]
      · rw [← List.map_cons, ← List.map_reverse, gallop_replaced notAboveLast.not]
        apply replaced_bind
        intro after
        rw [id_eq, List.length_map, ← List.map_take, ← List.map_drop, List.isEmpty_map]
        split
        · simp [replaced, pure, Except.pure]
        · rw [List.length_map, List.length_map]
          split
          · rw [mergeLists_replaced follows.forward]
            apply replaced_bind
            rintro ⟨merged, patience'⟩
            simp [replaced, pure, Except.pure]
          · rw [← List.map_reverse, ← List.map_reverse, mergeLists_replaced follows.backward]
            apply replaced_bind
            rintro ⟨merged, patience'⟩
            simp [replaced, pure, Except.pure]

/-! ### Waiting runs -/

/-- A run with its items replaced. -/
def Run.replace (item : α → α') (run : Run α) : Run α' :=
  ⟨run.start, run.items.map item, run.level⟩

/-- Waiting runs with their items replaced. -/
def Pending.replace (item : α → α') (pending : Pending α) : Pending α' :=
  ⟨pending.runs.map (Run.replace item), pending.patience⟩

theorem collapse_replaced (follows : Follows error item less less') (level patience : Nat)
    (runs : List (Run α)) :
    collapse less' level ⟨runs.map (Run.replace item), patience⟩ =
      replaced error (Pending.replace item) (collapse less level ⟨runs, patience⟩) := by
  induction size : runs.length using Nat.strongRecOn generalizing runs patience with
  | ind size' ih =>
    match runs with
    | [] => simp [collapse, replaced, Pending.replace]
    | [only] => simp [collapse, replaced, Pending.replace]
    | top :: below :: rest =>
      simp only [List.length_cons] at size
      rw [List.map_cons, List.map_cons, collapse, collapse]
      by_cases deeper : level < top.level
      · have deeper' : level < (top.replace item).level := deeper
        have merges := mergeRuns_replaced follows patience below.items top.items
        rw [if_pos deeper, if_pos deeper', Run.replace, Run.replace, merges]
        apply replaced_bind
        rintro ⟨merged, patience'⟩
        exact ih (rest.length + 1) (by omega) patience'
          (⟨below.start, merged, below.level⟩ :: rest) rfl
      · have deeper' : ¬ level < (top.replace item).level := deeper
        rw [if_neg deeper, if_neg deeper']
        rfl

theorem push_replaced (follows : Follows error item less less') (total : Nat) (run : List α)
    (pending : Pending α) :
    push less' total (run.map item) (pending.replace item) =
      replaced error (Pending.replace item) (push less total run pending) := by
  obtain ⟨runs, patience⟩ := pending
  cases runs with
  | nil => rfl
  | cons top rest =>
    have collapses := collapse_replaced follows
      (boundaryLevel total top.start top.items.length run.length) patience (top :: rest)
    simp only [push, Pending.replace, List.map_cons, Run.replace, List.length_map] at *
    rw [collapses]
    apply replaced_bind
    intro collapsed
    simp [replaced, Pending.replace, Run.replace, pure, Except.pure]

theorem mergeAll_replaced (follows : Follows error item less less') (patience : Nat)
    (runs : List (Run α)) :
    mergeAll less' patience (runs.map (Run.replace item)) =
      replaced error (List.map item) (mergeAll less patience runs) := by
  induction size : runs.length using Nat.strongRecOn generalizing runs patience with
  | ind size' ih =>
    match runs with
    | [] => simp [mergeAll, replaced]
    | [only] => simp [mergeAll, replaced, Run.replace]
    | [top, below] =>
      simp only [List.map_cons, List.map_nil, mergeAll, Run.replace]
      rw [mergeRuns_replaced follows]
      exact replaced_bind fun _ => rfl
    | top :: below :: third :: rest =>
      simp only [List.length_cons] at size
      simp only [List.map_cons, mergeAll]
      simp only [Run.replace, List.length_map]
      split
      · rw [mergeRuns_replaced follows]
        apply replaced_bind
        rintro ⟨merged, patience'⟩
        exact ih (rest.length + 2) (by omega) patience'
          (top :: ⟨third.start, merged, third.level⟩ :: rest) rfl
      · rw [mergeRuns_replaced follows]
        apply replaced_bind
        rintro ⟨merged, patience'⟩
        exact ih (rest.length + 2) (by omega) patience'
          (⟨below.start, merged, below.level⟩ :: third :: rest) rfl

/-! ### The sorted list -/

theorem collect_replaced (follows : Follows error item less less') (total : Nat)
    (pending : Pending α) (items : List α) :
    collect less' total (pending.replace item) (items.map item) =
      replaced error (Pending.replace item) (collect less total pending items) := by
  induction size : items.length using Nat.strongRecOn generalizing items pending with
  | ind size' ih =>
    cases items with
    | nil => simp [collect, replaced]
    | cons first rest =>
      simp only [List.length_cons] at size
      rw [List.map_cons, collect, collect, ← List.map_cons, longRun_replaced follows]
      apply replaced_bind
      intro run
      rw [push_replaced follows, List.length_map, ← List.map_drop]
      apply replaced_bind
      intro pushed
      have shorter : (rest.drop (run.length - 1)).length < size' := by
        rw [List.length_drop]
        omega
      exact ih _ shorter pushed _ rfl

/-- A sorted list of replaced items is the sorted list of the items, with its items replaced. -/
theorem sort_replaced (follows : Follows error item less less') (items : List α) :
    sort less' (items.map item) = replaced error (List.map item) (sort less items) := by
  rw [sort, sort, List.length_map]
  have collects := collect_replaced follows items.length ⟨[], longStretch⟩ items
  rw [show (Pending.mk ([] : List (Run α)) longStretch).replace item = ⟨[], longStretch⟩ from rfl]
    at collects
  rw [collects]
  apply replaced_bind
  intro pending
  exact mergeAll_replaced follows pending.patience pending.runs

end Items

end SandboxLisp.Sorting
