import SandboxLisp.Proofs.Sorting.Naturality

/-!
# Sorting keeps the items

Whatever a comparison answers, what a sort gives has the items of the list, each as often as there:
every step of the method only moves items.
-/

namespace SandboxLisp.Sorting

open scoped List

variable {α β ε : Type}

/-- An outcome is a value of which something holds, or a failure. -/
def Yields (holds : α → Prop) : Except ε α → Prop
  | .ok value => holds value
  | .error _ => True

namespace Yields

variable {holds holds' : α → Prop} {outcome : Except ε α}

theorem bind {holds' : β → Prop} {next : α → Except ε β} (first : Yields holds outcome)
    (second : ∀ value, holds value → Yields holds' (next value)) :
    Yields holds' (outcome >>= next) := by
  cases outcome with
  | ok value => exact second value first
  | error cause => trivial

theorem imp (first : Yields holds outcome) (implied : ∀ value, holds value → holds' value) :
    Yields holds' outcome := by
  cases outcome with
  | ok value => exact implied value first
  | error cause => trivial

/-- Whatever the first part of a sequence gives, the second one yields. -/
theorem after {holds' : β → Prop} {next : α → Except ε β} (outcome : Except ε α)
    (second : ∀ value, Yields holds' (next value)) : Yields holds' (outcome >>= next) := by
  cases outcome with
  | ok value => exact second value
  | error cause => trivial

end Yields

section Runs

variable (less : α → α → Except ε Bool)

/-! ### Insertion and runs -/

theorem insert_perm (new : α) (sorted : List α) :
    Yields (List.Perm (new :: sorted)) (insert less new sorted) := by
  induction size : sorted.length using Nat.strongRecOn generalizing sorted with
  | ind size' ih =>
    have whole := List.take_append_drop (sorted.length / 2) sorted
    rw [insert_eq]
    cases upper : sorted.drop (sorted.length / 2) with
    | nil =>
      have sizes := congrArg List.length upper
      simp only [List.length_drop, List.length_nil] at sizes
      obtain rfl : sorted = [] := List.eq_nil_of_length_eq_zero (by omega)
      exact List.Perm.refl _
    | cons middle above =>
      have sizes := congrArg List.length upper
      simp only [List.length_drop, List.length_cons] at sizes
      rw [upper] at whole
      refine .after _ ?_
      rintro (_ | _)
      · refine (ih above.length (by omega) above rfl).bind fun inserted perm => ?_
        show List.Perm _ _
        calc new :: sorted
          _ = new :: (sorted.take (sorted.length / 2) ++ middle :: above) := by rw [whole]
          _ ~ sorted.take (sorted.length / 2) ++ new :: middle :: above := List.perm_middle.symm
          _ ~ sorted.take (sorted.length / 2) ++ middle :: new :: above :=
            (List.Perm.swap _ _ _).append_left _
          _ ~ sorted.take (sorted.length / 2) ++ middle :: inserted :=
            (perm.cons middle).append_left _
      · have shorter : (sorted.take (sorted.length / 2)).length < size' := by
          rw [List.length_take]
          omega
        refine (ih _ shorter _ rfl).bind fun inserted perm => ?_
        show List.Perm _ _
        calc new :: sorted
          _ = (new :: sorted.take (sorted.length / 2)) ++ middle :: above := by
            rw [List.cons_append, whole]
          _ ~ inserted ++ middle :: above := perm.append_right _

theorem foldlM_insert_perm (items sorted : List α) :
    Yields (List.Perm (items ++ sorted))
      (items.foldlM (fun sorted new => insert less new sorted) sorted) := by
  induction items generalizing sorted with
  | nil => exact List.Perm.refl _
  | cons new rest ih =>
    rw [List.foldlM_cons]
    refine (insert_perm less new sorted).bind fun inserted perm => (ih inserted).imp ?_
    intro result others
    calc new :: rest ++ sorted
      _ ~ rest ++ new :: sorted := List.perm_middle.symm
      _ ~ rest ++ inserted := perm.append_left _
      _ ~ result := others

/-- A run goes on from the items that it has. -/
theorem le_runLength (descends : Bool) (count : Nat) (last : α) (items : List α) :
    Yields (count ≤ ·) (runLength less descends count last items) := by
  induction items generalizing count last with
  | nil => exact Nat.le_refl count
  | cons next rest ih =>
    rw [runLength]
    refine .after _ fun answer => ?_
    split
    · exact (ih (count + 1) next).imp fun _ more => Nat.le_of_succ_le more
    · exact Nat.le_refl count

/-- What a run is made from: the items that a list begins with, and at least one if there are any. -/
def TakenFrom (items run : List α) : Prop :=
  ∃ taken rest, items = taken ++ rest ∧ taken ~ run ∧ (items ≠ [] → taken ≠ [])

theorem naturalRun_takenFrom (items : List α) :
    Yields (TakenFrom items) (naturalRun less items) := by
  match items with
  | [] => exact ⟨[], [], rfl, .refl _, id⟩
  | [only] => exact ⟨[only], [], rfl, .refl _, fun _ => nofun⟩
  | first :: second :: rest =>
    refine .after _ fun descends => (le_runLength less descends 2 second rest).bind fun count two => ?_
    refine ⟨_, _, (List.take_append_drop count _).symm, ?_, fun _ empty => ?_⟩
    · cases descends with
      | false => exact List.Perm.refl _
      | true => exact (List.reverse_perm _).symm
    · simp only [List.take_eq_nil_iff, reduceCtorEq, or_false] at empty
      omega

theorem longRun_takenFrom (least : Nat) (items : List α) :
    Yields (TakenFrom items) (longRun less least items) := by
  refine (naturalRun_takenFrom less items).bind ?_
  rintro run ⟨taken, rest, rfl, perm, some⟩
  refine (foldlM_insert_perm less _ run).imp fun result filled => ?_
  refine ⟨taken ++ rest.take (least - taken.length), rest.drop (least - taken.length), ?_, ?_, ?_⟩
  · rw [List.append_assoc, List.take_append_drop]
  · have added : ((taken ++ rest).take least).drop run.length =
        rest.take (least - taken.length) := by
      rw [← perm.length_eq, List.drop_take, List.drop_left]
    rw [added] at filled
    exact List.perm_append_comm.trans ((perm.append_left _).trans filled)
  · intro nonempty
    simp [some nonempty]

end Runs

/-! ### Merging -/

theorem Merge.result_take_perm (merge : Merge α) (side : Side) (count : Nat) :
    (merge.take side count).result ~ merge.result := by
  obtain ⟨aside, standing, taken⟩ := merge
  cases side with
  | aside =>
    simp only [take, result, List.reverse_append, List.reverse_reverse]
    calc taken.reverse ++ aside.take count ++ standing ++ aside.drop count
      _ = taken.reverse ++ (aside.take count ++ standing ++ aside.drop count) := by
        simp only [List.append_assoc]
      _ ~ taken.reverse ++ (standing ++ aside.take count ++ aside.drop count) :=
        (List.perm_append_comm.append_right _).append_left _
      _ = taken.reverse ++ standing ++ aside := by
        rw [List.append_assoc standing, List.take_append_drop, List.append_assoc]
  | standing =>
    simp only [take, result, List.reverse_append, List.reverse_reverse, List.append_assoc]
    rw [← List.append_assoc (standing.take count), List.take_append_drop]

theorem advance_perm (direction : Direction α ε) (pace : Pace) (patience : Nat) (merge : Merge α) :
    Yields (fun merged => merged.1 ~ merge.result) (advance direction pace patience merge) := by
  induction size : merge.size using Nat.strongRecOn generalizing pace patience merge with
  | ind size' ih =>
    rw [advance_eq]
    cases unsettled : merge.fronts? with
    | none => exact List.Perm.refl _
    | some fronts =>
      have fewer := Merge.size_take_lt unsettled
      rw [size] at fewer
      cases pace with
      | single winner wins =>
        refine .after _ fun answer => (ih _ (fewer _) _ _ _ rfl).imp fun merged perm => ?_
        exact perm.trans (merge.result_take_perm _ 1)
      | stretches turn long =>
        refine .after _ fun count => ?_
        dsimp only
        cases restUnsettled : (merge.take turn count).fronts? with
        | none => exact merge.result_take_perm turn count
        | some fronts' =>
          have fewerStill := Nat.lt_of_lt_of_le
            (Merge.size_take_lt restUnsettled turn.opposite) (merge.size_take_le turn count)
          rw [size] at fewerStill
          have perm : ((merge.take turn count).take turn.opposite 1).result ~ merge.result :=
            (Merge.result_take_perm _ _ _).trans (merge.result_take_perm turn count)
          dsimp only
          split
          · exact perm
          · split
            · exact (ih _ fewerStill _ _ _ rfl).imp fun merged more => more.trans perm
            · split
              · exact (ih _ fewerStill _ _ _ rfl).imp fun merged more => more.trans perm
              · exact (ih _ fewerStill _ _ _ rfl).imp fun merged more => more.trans perm

theorem mergeLists_perm (direction : Direction α ε) (patience : Nat) (aside standing : List α) :
    Yields (fun merged => merged.1 ~ standing ++ aside)
      (mergeLists direction patience aside standing) :=
  (advance_perm direction _ patience _).imp fun _ perm =>
    perm.trans (Merge.result_take_perm ⟨aside, standing, []⟩ .standing 1)

theorem mergeRuns_perm (less : α → α → Except ε Bool) (patience : Nat) (first second : List α) :
    Yields (fun merged => merged.1 ~ first ++ second) (mergeRuns less patience first second) := by
  unfold mergeRuns
  split
  · next last head rest _ =>
    refine .after _ fun before => ?_
    dsimp only
    split
    · exact List.Perm.refl _
    · refine .after _ fun after => ?_
      generalize (head :: rest).length - after = height
      split
      · exact List.Perm.refl _
      · have whole := List.take_append_drop before first
        have whole' := List.take_append_drop height (head :: rest)
        have replace {merged : List α}
            (perm : merged ~ first.drop before ++ (head :: rest).take height) :
            first.take before ++ merged ++ (head :: rest).drop height ~ first ++ head :: rest := by
          calc first.take before ++ merged ++ (head :: rest).drop height
            _ ~ first.take before ++ (first.drop before ++ (head :: rest).take height) ++
                (head :: rest).drop height := (perm.append_left _).append_right _
            _ = (first.take before ++ first.drop before) ++
                ((head :: rest).take height ++ (head :: rest).drop height) := by
              simp only [List.append_assoc]
            _ = first ++ head :: rest := by rw [whole, whole']
        split
        · refine (mergeLists_perm _ _ _ _).bind fun merged perm => ?_
          exact replace (perm.trans List.perm_append_comm)
        · refine (mergeLists_perm _ _ _ _).bind fun merged perm => ?_
          refine replace ((List.reverse_perm _).trans (perm.trans ?_))
          exact (List.reverse_perm _).append (List.reverse_perm _)
  · exact List.Perm.refl _

/-! ### Waiting runs -/

/-- The items of waiting runs. -/
def content (runs : List (Run α)) : List α :=
  runs.flatMap Run.items

section Pending

variable (less : α → α → Except ε Bool)

theorem content_merged {merged : List α} {top below : Run α} {rest : List (Run α)} {start level : Nat}
    (perm : merged ~ below.items ++ top.items) :
    content (⟨start, merged, level⟩ :: rest) ~ content (top :: below :: rest) := by
  simp only [content, List.flatMap_cons]
  rw [← List.append_assoc]
  exact (perm.trans List.perm_append_comm).append_right _

theorem collapse_perm (level : Nat) (pending : Pending α) :
    Yields (fun after => content after.runs ~ content pending.runs)
      (collapse less level pending) := by
  obtain ⟨runs, patience⟩ := pending
  induction size : runs.length using Nat.strongRecOn generalizing runs patience with
  | ind size' ih =>
    match runs with
    | [] => simp [collapse, Yields]
    | [only] => simp [collapse, Yields]
    | top :: below :: rest =>
      simp only [List.length_cons] at size
      rw [collapse]
      split
      · refine (mergeRuns_perm less patience below.items top.items).bind fun merged perm => ?_
        refine (ih (rest.length + 1) (by omega) _ _ rfl).imp fun after kept => ?_
        exact kept.trans (content_merged perm)
      · exact List.Perm.refl _

theorem push_perm (total : Nat) (run : List α) (pending : Pending α) :
    Yields (fun after => content after.runs ~ run ++ content pending.runs)
      (push less total run pending) := by
  obtain ⟨runs, patience⟩ := pending
  cases runs with
  | nil => exact List.Perm.refl _
  | cons top rest => exact (collapse_perm less _ _).bind fun _ kept => kept.append_left run

theorem mergeAll_perm (patience : Nat) (runs : List (Run α)) :
    Yields (fun merged => merged ~ content runs) (mergeAll less patience runs) := by
  induction size : runs.length using Nat.strongRecOn generalizing runs patience with
  | ind size' ih =>
    match runs with
    | [] =>
      rw [mergeAll]
      exact List.Perm.refl _
    | [only] =>
      rw [mergeAll, content, List.flatMap_singleton]
      exact List.Perm.refl _
    | [top, below] =>
      rw [mergeAll]
      refine (mergeRuns_perm less patience below.items top.items).bind fun merged perm => ?_
      show merged.1 ~ _
      simpa [content] using perm.trans List.perm_append_comm
    | top :: below :: third :: rest =>
      simp only [List.length_cons] at size
      rw [mergeAll]
      split
      · refine (mergeRuns_perm less patience third.items below.items).bind fun merged perm => ?_
        refine (ih (rest.length + 2) (by omega) _ _ rfl).imp fun result kept => kept.trans ?_
        exact (content_merged perm).append_left top.items
      · refine (mergeRuns_perm less patience below.items top.items).bind fun merged perm => ?_
        refine (ih (rest.length + 2) (by omega) _ _ rfl).imp fun result kept => kept.trans ?_
        exact content_merged perm

/-! ### The sorted list -/

theorem collect_perm (total : Nat) (pending : Pending α) (items : List α) :
    Yields (fun after => content after.runs ~ items ++ content pending.runs)
      (collect less total pending items) := by
  induction size : items.length using Nat.strongRecOn generalizing items pending with
  | ind size' ih =>
    cases items with
    | nil =>
      rw [collect]
      exact List.Perm.refl _
    | cons first rest =>
      rw [collect]
      refine (longRun_takenFrom less _ (first :: rest)).bind ?_
      rintro run ⟨taken, left, split, perm, some⟩
      refine (push_perm less total run pending).bind fun pushed kept => ?_
      cases taken with
      | nil => exact absurd rfl (some (List.cons_ne_nil first rest))
      | cons _ others =>
        obtain ⟨rfl, parts⟩ := List.cons.inj split
        obtain rfl : rest = others ++ left := parts
        have behind : (others ++ left).drop (run.length - 1) = left := by
          rw [← perm.length_eq, List.length_cons, Nat.add_sub_cancel, List.drop_left]
        rw [behind]
        have shorter : left.length < size' := by
          rw [← size, List.length_cons, List.length_append]
          omega
        refine (ih _ shorter pushed left rfl).imp fun after more => ?_
        calc content after.runs
          _ ~ left ++ content pushed.runs := more
          _ ~ left ++ (run ++ content pending.runs) := kept.append_left _
          _ ~ left ++ ((first :: others) ++ content pending.runs) :=
            (perm.symm.append_right _).append_left _
          _ = (left ++ (first :: others)) ++ content pending.runs := by rw [List.append_assoc]
          _ ~ ((first :: others) ++ left) ++ content pending.runs :=
            List.perm_append_comm.append_right _

/-- What a sort gives has the items of the list, whatever the comparison answers. -/
theorem sort_perm (items : List α) : Yields (fun sorted => sorted ~ items) (sort less items) := by
  refine (collect_perm less items.length ⟨[], longStretch⟩ items).bind fun pending kept => ?_
  refine (mergeAll_perm less pending.patience pending.runs).imp fun sorted perm => ?_
  simpa [content] using perm.trans kept

end Pending

end SandboxLisp.Sorting
