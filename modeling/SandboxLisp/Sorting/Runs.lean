import SandboxLisp.Sorting.Merge
import SandboxLisp.Power

/-!
# Runs

A list is cut into runs, which are brought into ascending order and wait on a stack until they are
merged with a neighbour.  A run that is shorter than the least length is filled up by inserting the
items behind it, each at the place that a binary search finds.

The boundary of two runs has a level: cut the whole list into `2 ^ level` equal parts, and the
middles of the two runs lie in different parts for the first time.  Boundaries of deeper levels are
merged first, so the lists that are merged are of much the same length.
-/

namespace SandboxLisp.Sorting

variable {α ε : Type}

/-- A sorted list with an item inserted behind the items that are not above it. -/
def insert (less : α → α → Except ε Bool) (item : α) (sorted : List α) : Except ε (List α) :=
  match split : sorted.drop (sorted.length / 2) with
  | [] => .ok [item]
  | middle :: above =>
      have _sizes : (middle :: above).length = sorted.length - sorted.length / 2 := by
        rw [← split, List.length_drop]
      do
        if ← less item middle then
          return (← insert less item (sorted.take (sorted.length / 2))) ++ middle :: above
        else
          return sorted.take (sorted.length / 2) ++ middle :: (← insert less item above)
termination_by sorted.length
decreasing_by
  all_goals simp only [List.length_cons, List.length_take] at *
  all_goals omega

/-- The length that a list may have to be sorted by insertion alone. -/
def insertionBound : Nat := 64

/-- The least length of runs in a list of `total` items: the first six binary digits of `total`,
and one more if another digit of it, or `excess`, is one. -/
def leastLength (total excess : Nat) : Nat :=
  if total < insertionBound then total + excess
  else leastLength (total / 2) (max excess (total % 2))
termination_by total
decreasing_by
  simp only [insertionBound] at *
  omega

/-- The count of the items of a run, of which `count` stand up to `last`, when a descending run goes
on as long as the items are below the one before. -/
def runLength (less : α → α → Except ε Bool) (descends : Bool) (count : Nat) (last : α) :
    List α → Except ε Nat
  | [] => .ok count
  | item :: rest => do
      if (← less item last) = descends then runLength less descends (count + 1) item rest
      else return count

/-- The run that a list starts with, in ascending order; it goes on strictly descending if its
second item is below the first. -/
def naturalRun (less : α → α → Except ε Bool) (items : List α) : Except ε (List α) :=
  match items with
  | first :: second :: rest => do
      let descends ← less second first
      let run := items.take (← runLength less descends 2 second rest)
      return if descends then run.reverse else run
  | short => .ok short

/-- The run of at least `least` items that a list starts with, in ascending order; a run that is too
short takes in the items behind it, as far as there are any. -/
def longRun (less : α → α → Except ε Bool) (least : Nat) (items : List α) :
    Except ε (List α) := do
  let run ← naturalRun less items
  ((items.take least).drop run.length).foldlM (fun sorted item => insert less item sorted) run

/-- A run that waits to be merged. -/
structure Run (α : Type) where
  /-- The number of items before the run. -/
  start : Nat
  items : List α
  /-- The level of the boundary between the run before this one and this one. -/
  level : Nat

/-- The runs that wait, last one first, and the patience of the next merge. -/
structure Pending (α : Type) where
  runs : List (Run α)
  patience : Nat

/-- The level of the boundary of two runs, the first of which has `start` items before it, in a list
of `total` items.  A place is counted twice, so that the middle of a run is a whole number. -/
def boundaryLevel (total start first second : Nat) : Nat :=
  let middle := 2 * start + first
  let middle' := middle + first + second
  let apart (level : Nat) : Bool := middle * 2 ^ level / total != middle' * 2 ^ level / total
  ((List.range (total.log2 + 1)).find? apart).getD total.log2 + 1

/-- The waiting runs after those with boundaries of deeper levels than `level` are merged. -/
def collapse (less : α → α → Except ε Bool) (level : Nat) (pending : Pending α) :
    Except ε (Pending α) :=
  match pending with
  | ⟨top :: below :: rest, patience⟩ => do
      if level < top.level then
        let (merged, patience) ← mergeRuns less patience below.items top.items
        collapse less level ⟨⟨below.start, merged, below.level⟩ :: rest, patience⟩
      else return pending
  | _ => .ok pending
termination_by pending.runs.length

/-- The waiting runs with one more behind them. -/
def push (less : α → α → Except ε Bool) (total : Nat) (run : List α) (pending : Pending α) :
    Except ε (Pending α) :=
  match pending.runs with
  | [] => .ok ⟨[⟨0, run, 0⟩], pending.patience⟩
  | top :: _ => do
      let level := boundaryLevel total top.start top.items.length run.length
      let collapsed ← collapse less level pending
      return ⟨⟨top.start + top.items.length, run, level⟩ :: collapsed.runs, collapsed.patience⟩

/-- The items of all waiting runs in order: the last two are merged, or the two before the last if
the third to last is shorter than the last. -/
def mergeAll (less : α → α → Except ε Bool) (patience : Nat) : List (Run α) → Except ε (List α)
  | [] => .ok []
  | [run] => .ok run.items
  | top :: below :: [] => do return (← mergeRuns less patience below.items top.items).1
  | top :: below :: third :: rest => do
      if third.items.length < top.items.length then
        let (merged, patience) ← mergeRuns less patience third.items below.items
        mergeAll less patience (top :: ⟨third.start, merged, third.level⟩ :: rest)
      else
        let (merged, patience) ← mergeRuns less patience below.items top.items
        mergeAll less patience (⟨below.start, merged, below.level⟩ :: third :: rest)
termination_by runs => runs.length

end SandboxLisp.Sorting
