import Mathlib.Data.List.Induction
import SandboxLisp.Position

/-!
# Places in a text

A place in a text is known by what is left to read there.  Its position can be kept while reading,
by moving over every spelling that is passed, or found afterwards by counting in the whole text.
`Marks.ofOffset_eq` says that both ways give the same position, and `le_after` that positions grow
while the text is read.
-/

namespace SandboxLisp.Position

/-- The position is that of a place or of an earlier one. -/
def AtMost (first second : Position) : Prop :=
  first = second ∨ first.before second = true

/-- A position comes before another if its line does, or its column on the same line. -/
theorem before_iff (first second : Position) :
    first.before second = true ↔
      first.line < second.line ∨ (first.line = second.line ∧ first.column < second.column) := by
  simp [before]

namespace AtMost

theorem refl (position : Position) : position.AtMost position :=
  Or.inl rfl

theorem trans {first second third : Position} (low : first.AtMost second)
    (high : second.AtMost third) : first.AtMost third := by
  rcases low with rfl | low
  · exact high
  · rcases high with rfl | high
    · exact Or.inr low
    · refine Or.inr ((before_iff first third).2 ?_)
      have below := (before_iff first second).1 low
      have above := (before_iff second third).1 high
      omega

end AtMost

/-- A character moves the position forward. -/
theorem before_next (position : Position) (character : Char) :
    position.before (position.next character) = true := by
  rw [before_iff, next]
  split
  · exact Or.inl (Nat.lt_succ_self _)
  · exact Or.inr ⟨rfl, Nat.lt_succ_self _⟩

/-- Moving over two spellings is moving over the first and then over the second. -/
theorem after_append (position : Position) (first second : List Char) :
    position.after (first ++ second) = (position.after first).after second :=
  List.foldl_append

/-- Moving over a spelling never goes back. -/
theorem le_after (position : Position) (spelling : List Char) :
    position.AtMost (position.after spelling) := by
  induction spelling generalizing position with
  | nil => exact AtMost.refl position
  | cons character rest ih =>
      exact AtMost.trans (Or.inr (before_next position character)) (ih (position.next character))

/-- The column behind a text is one more than the length of its last line. -/
theorem length_takeWhile_reverse_concat (before : List Char) (character : Char) :
    (((before ++ [character]).reverse.takeWhile (· != '\n')).length =
      if character = '\n' then 0 else (before.reverse.takeWhile (· != '\n')).length + 1) := by
  by_cases feed : character = '\n'
  · subst feed
    simp
  · simp [feed]

/-- Counting lines and columns in a text gives the position behind all of it. -/
theorem start_after (before : List Char) :
    start.after before =
      ⟨before.count '\n' + 1, (before.reverse.takeWhile (· != '\n')).length + 1⟩ := by
  induction before using List.reverseRecOn with
  | nil => rfl
  | append_singleton before character ih =>
      rw [after_append, ih, length_takeWhile_reverse_concat, List.count_append]
      by_cases feed : character = '\n'
      · subst feed
        rfl
      · simp [after, next, feed]

/-- The position of an offset is the one behind the text before it. -/
theorem ofOffset_append (before rest : List Char) :
    ofOffset (before ++ rest) before.length = start.after before := by
  rw [start_after, ofOffset, List.take_left]

/-- The position is that of the place in a text at which `rest` is left to read. -/
def Marks (position : Position) (text rest : List Char) : Prop :=
  ∃ before, text = before ++ rest ∧ position = start.after before

namespace Marks

variable {position : Position} {text rest : List Char}

/-- The first position marks the start of the text. -/
theorem start (text : List Char) : Position.start.Marks text text :=
  ⟨[], rfl, rfl⟩

/-- Passing a spelling marks the place behind it. -/
theorem after {spelling : List Char} (marks : position.Marks text (spelling ++ rest)) :
    (position.after spelling).Marks text rest := by
  obtain ⟨before, rfl, rfl⟩ := marks
  exact ⟨before ++ spelling, (List.append_assoc ..).symm, (after_append _ before spelling).symm⟩

/-- The position that is kept while reading is the one that is found by counting. -/
theorem ofOffset_eq (marks : position.Marks text rest) :
    ofOffset text (text.length - rest.length) = position := by
  obtain ⟨before, rfl, rfl⟩ := marks
  rw [List.length_append, Nat.add_sub_cancel, ofOffset_append]

/-- A place with less to read lies behind. -/
theorem atMost {other : Position} {left : List Char} (marks : position.Marks text rest)
    (behind : other.Marks text left) (shorter : left.length ≤ rest.length) :
    position.AtMost other := by
  obtain ⟨before, split, rfl⟩ := marks
  obtain ⟨before', split', rfl⟩ := behind
  have parts : before ++ rest = before' ++ left := split.symm.trans split'
  have inside : before <+: before' := by
    apply List.prefix_of_prefix_length_le (List.prefix_append before rest)
    · rw [parts]
      exact List.prefix_append before' left
    · have lengths := congrArg List.length parts
      simp only [List.length_append] at lengths
      omega
  obtain ⟨between, rfl⟩ := inside
  rw [after_append]
  exact le_after _ between

end Marks

end SandboxLisp.Position
