/-!
# Galloping

How many items at the start of a list pass a test that fails for good once it fails: indices one,
three, seven, ... are tried until one fails, and then the gap behind the last that passed is halved.
A count of `n` takes about `2 * log2 n` tests.  The test may itself fail, which ends the search.
-/

namespace SandboxLisp.Sorting

variable {α ε : Type}

/-- Which of two middle places halves an even number of places. -/
inductive Middle where
  | lower
  | upper
deriving DecidableEq, Repr

/-- The place that halves the places from `low` up to below `high`. -/
def Middle.between (middle : Middle) (low high : Nat) : Nat :=
  match middle with
  | .lower => low + (high - low) / 2
  | .upper => high - 1 - (high - low) / 2

/-- A place between two bounds is not below the first. -/
theorem Middle.le_between (middle : Middle) {low high : Nat} (below : low < high) :
    low ≤ middle.between low high := by
  cases middle <;> simp only [between] <;> omega

/-- A place between two bounds is below the second. -/
theorem Middle.between_lt (middle : Middle) {low high : Nat} (below : low < high) :
    middle.between low high < high := by
  cases middle <;> simp only [between] <;> omega

/-- The count of passing items, known to be from `low` up to `high`. -/
def narrow (middle : Middle) (test : α → Except ε Bool) (items : List α) (low high : Nat) :
    Except ε Nat :=
  if below : low < high then
    have _after := middle.le_between below
    have _before := middle.between_lt below
    match items[middle.between low high]? with
    | none => .ok low
    | some item => do
        if ← test item then narrow middle test items (middle.between low high + 1) high
        else narrow middle test items low (middle.between low high)
  else .ok low
termination_by high - low

/-- Bounds of the count of passing items, when the item at `last` passes and `next` is tried. -/
def leap (test : α → Except ε Bool) (items : List α) (last next : Nat) : Except ε (Nat × Nat) :=
  match found : items[next]? with
  | none => .ok (last + 1, items.length)
  | some item =>
      have _within : next < items.length := (List.getElem?_eq_some_iff.mp found).1
      do
        if ← test item then leap test items next (2 * next + 1)
        else return (last + 1, next)
termination_by items.length - next

/-- The count of passing items at the start of a list. -/
def gallop (middle : Middle) (test : α → Except ε Bool) (items : List α) : Except ε Nat :=
  match items with
  | [] => .ok 0
  | first :: _ => do
      if ← test first then
        let (low, high) ← leap test items 0 1
        narrow middle test items low high
      else return 0

end SandboxLisp.Sorting
