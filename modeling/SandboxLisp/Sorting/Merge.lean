import SandboxLisp.Sorting.Gallop

/-!
# Merging two runs

Two neighbouring runs in ascending order become one.  What is in its place already stays there; the
shorter of the two remainders is set aside and merged with the other from its own end of the run.

A merge takes one item at a time while neither list keeps winning.  A list that wins as often in a
row as the patience says makes it gallop: the merge takes whole stretches until both become short.
The patience shrinks while galloping pays and grows when it stops to; the next merge inherits it.

Nothing but the order of the comparisons depends on the pace, so the items of a merge are those of
its two lists, whatever the comparison answers.
-/

namespace SandboxLisp.Sorting

variable {α ε : Type}

/-- The two lists of a merge: the one that was set aside, and the one that lies where the result
goes. -/
inductive Side where
  | aside
  | standing
deriving DecidableEq, Repr

/-- The other list. -/
def Side.opposite : Side → Side
  | .aside => .standing
  | .standing => .aside

/-- A merge on its way: what is left of the two lists, nearest items first, and what has been
taken, last item first. -/
structure Merge (α : Type) where
  aside : List α
  standing : List α
  taken : List α

namespace Merge

/-- The merge after a number of items of one list are taken. -/
def take (merge : Merge α) (side : Side) (count : Nat) : Merge α :=
  match side with
  | .aside =>
      ⟨merge.aside.drop count, merge.standing, (merge.aside.take count).reverse ++ merge.taken⟩
  | .standing =>
      ⟨merge.aside, merge.standing.drop count, (merge.standing.take count).reverse ++ merge.taken⟩

/-- The nearest items of the two lists; none if the rest is settled, because no item is standing or
at most one is aside, which is the last then. -/
def fronts? (merge : Merge α) : Option (α × α) :=
  match merge.aside, merge.standing with
  | item :: _ :: _, item' :: _ => some (item, item')
  | _, _ => none

/-- The items in the order in which they were taken, and then those that are left. -/
def result (merge : Merge α) : List α :=
  merge.taken.reverse ++ merge.standing ++ merge.aside

/-- The number of items that are left. -/
def size (merge : Merge α) : Nat :=
  merge.aside.length + merge.standing.length

/-- Taking items leaves no more than there were. -/
theorem size_take_le (merge : Merge α) (side : Side) (count : Nat) :
    (merge.take side count).size ≤ merge.size := by
  cases side <;> simp only [take, size, List.length_drop] <;> omega

/-- Taking one item of a merge that is not settled leaves fewer. -/
theorem size_take_lt {merge : Merge α} {pair : α × α} (unsettled : merge.fronts? = some pair)
    (side : Side) : (merge.take side 1).size < merge.size := by
  obtain ⟨aside, standing, taken⟩ := merge
  match aside, standing with
  | [], _ => simp [fronts?] at unsettled
  | [_], _ => simp [fronts?] at unsettled
  | _ :: _ :: _, [] => simp [fronts?] at unsettled
  | _ :: _ :: _, _ :: _ => cases side <;> simp [take, size]

end Merge

/-- From which end two lists are merged, and how their items are compared. -/
structure Direction (α ε : Type) where
  /-- Whether the standing item, which is given first, is taken before the one aside. -/
  goesFirst : α → α → Except ε Bool
  middle : Middle
  /-- The list that is galloped through first. -/
  first : Side

/-- Merging from the start of a run: the first list is aside, and its items win ties. -/
def Direction.forward (less : α → α → Except ε Bool) : Direction α ε :=
  ⟨less, .lower, .aside⟩

/-- Merging from the end of a run: the second list is aside, and its items win ties. -/
def Direction.backward (less : α → α → Except ε Bool) : Direction α ε :=
  ⟨fun standing aside => less aside standing, .upper, .standing⟩

/-- How a merge goes on: by single items, with the list that won last and how often it did in a row,
or by stretches, with the list whose turn it is and whether a stretch of the round was long. -/
inductive Pace where
  | single (winner : Side) (wins : Nat)
  | stretches (turn : Side) (long : Bool)

/-- The length from which on stretches are worth a gallop; it is also the patience at the start. -/
def longStretch : Nat := 7

/-- How many items of one list are taken before the nearest of the other. -/
def stretch (direction : Direction α ε) (fronts : α × α) (merge : Merge α) :
    Side → Except ε Nat
  | .aside =>
      gallop direction.middle (fun item => do return !(← direction.goesFirst fronts.2 item))
        merge.aside
  | .standing =>
      gallop direction.middle (fun item => direction.goesFirst item fronts.1) merge.standing

/-- The items of a merge in order, and the patience afterwards. -/
def advance (direction : Direction α ε) (pace : Pace) (patience : Nat) (merge : Merge α) :
    Except ε (List α × Nat) :=
  match unsettled : merge.fronts? with
  | none => .ok (merge.result, patience)
  | some fronts =>
      have _fewer := Merge.size_take_lt unsettled
      match pace with
      | .single winner wins => do
          let side := if ← direction.goesFirst fronts.2 fronts.1 then .standing else .aside
          let wins := if side = winner then wins + 1 else 1
          advance direction
            (if wins < patience then .single side wins else .stretches direction.first false)
            patience (merge.take side 1)
      | .stretches turn long => do
          let count ← stretch direction fronts merge turn
          let rest := merge.take turn count
          let long := long || longStretch ≤ count
          match restUnsettled : rest.fronts? with
          | none => return (rest.result, patience)
          | some _ =>
              have _fewerStill := Merge.size_take_lt restUnsettled
              let next := rest.take turn.opposite 1
              if next.fronts?.isNone then return (next.result, patience)
              else if turn = direction.first then
                advance direction (.stretches turn.opposite long) patience next
              else if long then
                advance direction (.stretches direction.first false) (max 1 (patience - 1)) next
              else advance direction (.single .aside 0) (patience + 1) next
termination_by merge.size
decreasing_by
  · exact _fewer _
  all_goals exact Nat.lt_of_lt_of_le (_fewerStill _) (Merge.size_take_le _ _ _)

/-- Two lists merged, the standing one giving the first item, and the patience afterwards. -/
def mergeLists (direction : Direction α ε) (patience : Nat) (aside standing : List α) :
    Except ε (List α × Nat) :=
  advance direction (.single .aside 0) patience ((Merge.mk aside standing []).take .standing 1)

/-- Two neighbouring runs as one, and the patience afterwards. -/
def mergeRuns (less : α → α → Except ε Bool) (patience : Nat) (first second : List α) :
    Except ε (List α × Nat) :=
  match first.getLast?, second with
  | some last, head :: _ => do
      let before ← gallop .lower (fun item => do return !(← less head item)) first
      let low := first.drop before
      if low.isEmpty then return (first ++ second, patience)
      else
        let after ← gallop .upper (fun item => do return !(← less item last)) second.reverse
        let high := second.take (second.length - after)
        let behind := second.drop (second.length - after)
        if high.isEmpty then return (first ++ second, patience)
        else if low.length ≤ high.length then
          let (merged, patience) ← mergeLists (.forward less) patience low high
          return (first.take before ++ merged ++ behind, patience)
        else
          let (merged, patience) ← mergeLists (.backward less) patience high.reverse low.reverse
          return (first.take before ++ merged.reverse ++ behind, patience)
  | _, _ => .ok (first ++ second, patience)

end SandboxLisp.Sorting
