import Mathlib.Tactic.Choose
import SandboxLisp.Proofs.Sorting.Merged

/-!
# What a sort gives, and when it fails

The invariant of the stack of waiting runs is that every run ascends and that all items, waiting or
still to come, are compared as an order says.  The second half does not mind where the items are, so
every step that only moves items keeps it.

A sort fails only with a failure of its comparison at two of its items.
-/

namespace SandboxLisp.Sorting

open scoped List

variable {α ε : Type} {less : α → α → Except ε Bool} {before : α → α → Prop}

/-! ### Waiting runs -/

/-- Every waiting run ascends, and all items that wait are compared as the order says. -/
structure Waiting (less : α → α → Except ε Bool) (before : α → α → Prop) (runs : List (Run α)) :
    Prop where
  ascends : ∀ run ∈ runs, run.items.Pairwise before
  compared : (content runs).Pairwise (Compared less before)

section Ordered

variable (ordering : Ordering before)

theorem Waiting.tail {top : Run α} {rest : List (Run α)} (waiting : Waiting less before (top :: rest)) :
    Waiting less before rest :=
  ⟨(List.forall_mem_cons.mp waiting.ascends).2, (List.pairwise_append.mp waiting.compared).2.1⟩

/-- A run in front of others that were only moved. -/
theorem Waiting.replace_tail {top : Run α} {rest rest' : List (Run α)}
    (waiting : Waiting less before (top :: rest)) (replaced : Waiting less before rest')
    (perm : content rest' ~ content rest) : Waiting less before (top :: rest') := by
  refine ⟨List.forall_mem_cons.mpr
    ⟨(List.forall_mem_cons.mp waiting.ascends).1, replaced.ascends⟩, ?_⟩
  have moved : content (top :: rest') ~ content (top :: rest) := perm.append_left top.items
  exact (moved.symm.pairwise_iff Compared.symm).mp waiting.compared

include ordering

/-- Two neighbouring runs that wait become one that can wait in their place. -/
theorem Waiting.merge {top below : Run α} {rest : List (Run α)}
    (waiting : Waiting less before (top :: below :: rest)) (patience start level : Nat) :
    Gives (fun merged => Waiting less before (⟨start, merged.1, level⟩ :: rest) ∧
        content (⟨start, merged.1, level⟩ :: rest) ~ content (top :: below :: rest))
      (mergeRuns less patience below.items top.items) := by
  obtain ⟨ascendsTop, ascendsRest⟩ := List.forall_mem_cons.mp waiting.ascends
  obtain ⟨ascendsBelow, ascendsOthers⟩ := List.forall_mem_cons.mp ascendsRest
  have across : ∀ item ∈ below.items, ∀ other ∈ top.items, Compared less before item other :=
    fun item isItem other isOther => ((List.pairwise_append.mp waiting.compared).2.2 other isOther
      item (List.mem_append_left _ isItem)).symm
  refine ((mergeRuns_ascends ordering patience ascendsBelow ascendsTop across).and_yields
    (mergeRuns_perm less patience below.items top.items)).imp ?_
  rintro merged ⟨ascends, perm⟩
  have moved : content (⟨start, merged.1, level⟩ :: rest) ~ content (top :: below :: rest) :=
    content_merged perm
  refine ⟨⟨List.forall_mem_cons.mpr ⟨ascends, ascendsOthers⟩, ?_⟩, moved⟩
  exact (moved.symm.pairwise_iff Compared.symm).mp waiting.compared

theorem collapse_waiting (level : Nat) {pending : Pending α}
    (waiting : Waiting less before pending.runs) :
    Gives (fun after => Waiting less before after.runs) (collapse less level pending) := by
  obtain ⟨runs, patience⟩ := pending
  induction size : runs.length using Nat.strongRecOn generalizing runs patience with
  | ind size' ih =>
    match runs with
    | [] => exact ⟨_, by rw [collapse]; simp, waiting⟩
    | [only] => exact ⟨_, by rw [collapse]; simp, waiting⟩
    | top :: below :: rest =>
      simp only [List.length_cons] at size
      rw [collapse]
      split
      · refine (waiting.merge ordering patience below.start below.level).bind fun merged kept => ?_
        exact ih (rest.length + 1) (by omega) _ _ kept.1 rfl
      · exact ⟨_, rfl, waiting⟩

theorem push_waiting (total : Nat) {run : List α} {pending : Pending α}
    (ascends : run.Pairwise before) (waiting : Waiting less before pending.runs)
    (compared : (run ++ content pending.runs).Pairwise (Compared less before)) :
    Gives (fun after => Waiting less before after.runs) (push less total run pending) := by
  obtain ⟨runs, patience⟩ := pending
  have pushed (start level : Nat) : Waiting less before (⟨start, run, level⟩ :: runs) :=
    ⟨List.forall_mem_cons.mpr ⟨ascends, waiting.ascends⟩, compared⟩
  cases runs with
  | nil => exact ⟨_, rfl, pushed 0 0⟩
  | cons top rest =>
    refine ((collapse_waiting ordering _ waiting).and_yields (collapse_perm less _ _)).bind ?_
    rintro collapsed ⟨waiting', perm⟩
    exact ⟨_, rfl, (pushed _ _).replace_tail waiting' perm⟩

theorem mergeAll_ascends (patience : Nat) {runs : List (Run α)}
    (waiting : Waiting less before runs) :
    Gives (List.Pairwise before) (mergeAll less patience runs) := by
  induction size : runs.length using Nat.strongRecOn generalizing runs patience with
  | ind size' ih =>
    match runs with
    | [] => exact ⟨[], by rw [mergeAll], .nil⟩
    | [only] => exact ⟨only.items, by rw [mergeAll], waiting.ascends only (.head [])⟩
    | [top, below] =>
      rw [mergeAll]
      refine (waiting.merge ordering patience below.start below.level).bind fun merged kept => ?_
      exact ⟨_, rfl, kept.1.ascends _ (.head [])⟩
    | top :: below :: third :: rest =>
      simp only [List.length_cons] at size
      rw [mergeAll]
      split
      · refine (waiting.tail.merge ordering patience third.start third.level).bind
          fun merged kept => ?_
        exact ih (rest.length + 2) (by omega) _ (waiting.replace_tail kept.1 kept.2) rfl
      · refine (waiting.merge ordering patience below.start below.level).bind fun merged kept => ?_
        exact ih (rest.length + 2) (by omega) _ kept.1 rfl

/-! ### The sorted list -/

theorem collect_waiting (total : Nat) {pending : Pending α} {items : List α}
    (waiting : Waiting less before pending.runs)
    (compared : (items ++ content pending.runs).Pairwise (Compared less before)) :
    Gives (fun after => Waiting less before after.runs) (collect less total pending items) := by
  induction size : items.length using Nat.strongRecOn generalizing items pending with
  | ind size' ih =>
    cases items with
    | nil => exact ⟨pending, by rw [collect], waiting⟩
    | cons first rest =>
      rw [collect]
      have own := (List.pairwise_append.mp compared).1
      refine ((longRun_ascends ordering _ own).and_yields
        (longRun_takenFrom less _ (first :: rest))).bind ?_
      rintro run ⟨ascends, taken, left, split, perm, some⟩
      rw [split] at compared
      have moved : taken ++ left ++ content pending.runs ~ left ++ (run ++ content pending.runs) := by
        calc taken ++ left ++ content pending.runs
          _ ~ left ++ taken ++ content pending.runs := List.perm_append_comm.append_right _
          _ = left ++ (taken ++ content pending.runs) := List.append_assoc _ _ _
          _ ~ left ++ (run ++ content pending.runs) := (perm.append_right _).append_left _
      have compared' := (moved.pairwise_iff Compared.symm).mp compared
      refine ((push_waiting ordering total ascends waiting
        (List.pairwise_append.mp compared').2.1).and_yields (push_perm less total run pending)).bind ?_
      rintro pushed ⟨waiting', kept⟩
      cases taken with
      | nil => exact absurd rfl (some (List.cons_ne_nil first rest))
      | cons _ others =>
        obtain ⟨rfl, parts⟩ := List.cons.inj split
        obtain rfl : rest = others ++ left := parts
        have behind : (others ++ left).drop (run.length - 1) = left := by
          rw [← perm.length_eq, List.length_cons, Nat.add_sub_cancel, List.drop_left]
        rw [behind]
        have shorter : left.length < size' := by
          rw [← size, List.length_cons, List.length_append]
          omega
        refine ih _ shorter waiting' ?_ rfl
        exact ((kept.append_left left).symm.pairwise_iff Compared.symm).mp compared'

/-- A sort of items that are compared as an order says does not fail, and its result ascends. -/
theorem sort_ascends {items : List α} (compared : items.Pairwise (Compared less before)) :
    Gives (fun sorted => sorted.Pairwise before ∧ sorted ~ items) (sort less items) := by
  have started : Gives (fun after => Waiting less before after.runs)
      (collect less items.length ⟨[], longStretch⟩ items) :=
    collect_waiting ordering _ ⟨nofun, .nil⟩ (by simpa [content] using compared)
  exact (started.bind fun pending waiting =>
    mergeAll_ascends ordering pending.patience waiting).and_yields (sort_perm less items)

end Ordered

/-- A failed sort failed at comparing two of its items. -/
theorem sort_fails {items : List α} {cause : ε} (fails : sort less items = .error cause) :
    ∃ one ∈ items, ∃ other ∈ items, less one other = .error cause := by
  -- The items are sorted as items of the list, and the failures as failures at two of these.
  have compared (one other : { item // item ∈ items }) :
      ∃ outcome : Except
          { cause // ∃ one ∈ items, ∃ other ∈ items, less one other = .error cause } Bool,
        less one.val other.val = replaced Subtype.val id outcome := by
    cases found : less one.val other.val with
    | ok answer => exact ⟨.ok answer, rfl⟩
    | error cause => exact ⟨.error ⟨cause, _, one.property, _, other.property, found⟩, rfl⟩
  choose less' follows using compared
  have same := sort_replaced follows items.attach
  rw [List.attach_map_subtype_val, fails] at same
  cases sorted : sort less' items.attach with
  | ok sorted => cases same.trans (congrArg (replaced _ _) sorted)
  | error cause' =>
    obtain rfl := Except.error.inj (same.trans (congrArg (replaced _ _) sorted))
    exact cause'.property

/-- A sort asks first whether the second item is below the first. -/
theorem sort_fails_first {first second : α} {rest : List α} {cause : ε}
    (fails : less second first = .error cause) :
    sort less (first :: second :: rest) = .error cause := by
  have run : naturalRun less (first :: second :: rest) = .error cause := by
    rw [naturalRun, fails]
    rfl
  rw [sort, collect, longRun, run]
  rfl

end SandboxLisp.Sorting
