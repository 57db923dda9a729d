import SandboxLisp.Sorting.Runs

/-!
# Sorting with a comparison that can fail

A list is sorted by cutting it into runs and merging them; a short list is one run, so it is sorted
by insertion.  Items of which neither is below the other keep their order.  The comparison is
consulted in the order of this method only, and its first failure ends the sort.
-/

namespace SandboxLisp.Sorting

variable {α ε : Type}

/-- The waiting runs after all items of a list of `total` items that are still to come. -/
def collect (less : α → α → Except ε Bool) (total : Nat) (pending : Pending α) :
    List α → Except ε (Pending α)
  | [] => .ok pending
  | item :: rest => do
      let run ← longRun less (leastLength total 0) (item :: rest)
      collect less total (← push less total run pending) (rest.drop (run.length - 1))
termination_by items => items.length
decreasing_by
  simp only [List.length_drop, List.length_cons]
  omega

/-- The list in ascending order. -/
def sort (less : α → α → Except ε Bool) (items : List α) : Except ε (List α) := do
  let pending ← collect less items.length ⟨[], longStretch⟩ items
  mergeAll less pending.patience pending.runs

example :
    (sort (fun first second : Nat => (.ok (first < second) : Except Unit Bool))
      [3, 1, 2]).toOption = some [1, 2, 3] := by
  decide +kernel

end SandboxLisp.Sorting
