import Mathlib.Tactic.IntervalCases
import SandboxLisp.Primitive.Strings

/-!
# Splitting and joining

A search finds the first occurrence of a pattern, so what is before it does not contain the pattern.
Splitting goes on behind each occurrence that is found: the pieces with the separator between them
are the text, no piece contains the separator, and there is one piece more than occurrences were
found from the left.

Which occurrences these are is said by `Found`, which knows offsets of the whole text and nothing of
the search.
-/

namespace SandboxLisp.Text

/-! ### Occurrences -/

/-- A pattern stands in a text at an offset. -/
def StandsAt (pattern text : List Char) (offset : Nat) : Prop :=
  pattern <+: text.drop offset

/-- The offsets at which a pattern is found from the left, from a place of the text on: each is the
first one that is not before the end of the one found before, so they do not overlap. -/
inductive Found (pattern text : List Char) : Nat → List Nat → Prop where
  | nowhere {start : Nat} (missing : ∀ offset, start ≤ offset → ¬ StandsAt pattern text offset) :
      Found pattern text start []
  | next {start offset : Nat} {later : List Nat} (reached : start ≤ offset)
      (stands : StandsAt pattern text offset)
      (first : ∀ other, start ≤ other → other < offset → ¬ StandsAt pattern text other)
      (others : Found pattern text (offset + pattern.length) later) :
      Found pattern text start (offset :: later)

/-- The occurrences that are found from a place on are determined by it. -/
theorem Found.unique {pattern text : List Char} {start : Nat} {offsets offsets' : List Nat}
    (found : Found pattern text start offsets) (found' : Found pattern text start offsets') :
    offsets = offsets' := by
  induction found generalizing offsets' with
  | nowhere missing =>
    cases found' with
    | nowhere _ => rfl
    | next reached stands _ _ => exact absurd stands (missing _ reached)
  | @next start offset later reached stands first _ ih =>
    cases found' with
    | nowhere missing => exact absurd stands (missing _ reached)
    | @next _ offset' _ reached' stands' first' others' =>
      have same : offset = offset' := by
        rcases Nat.lt_trichotomy offset offset' with before | same | behind
        · exact absurd stands (first' offset reached before)
        · exact same
        · exact absurd stands' (first offset' reached' behind)
      subst same
      rw [ih others']

/-- Behind a part of the text a pattern stands where it stands in the rest. -/
theorem standsAt_append {pattern behind rest : List Char} {offset : Nat} :
    StandsAt pattern (behind ++ rest) (behind.length + offset) ↔ StandsAt pattern rest offset := by
  have behindDropped : (behind ++ rest).drop (behind.length + offset) = rest.drop offset := by
    rw [← List.drop_drop, List.drop_left]
  rw [StandsAt, StandsAt, behindDropped]

/-- A pattern stands behind the part of a text that is before it. -/
theorem standsAt_of_split (before pattern after : List Char) :
    StandsAt pattern (before ++ pattern ++ after) before.length := by
  rw [StandsAt, List.append_assoc, List.drop_left]
  exact List.prefix_append pattern after

/-! ### Searching -/

section Search

variable {pattern text before after : List Char}

/-- A pattern that is not found stands nowhere. -/
theorem not_standsAt_of_breakOn? (missing : breakOn? pattern text = none) (offset : Nat) :
    ¬ StandsAt pattern text offset := by
  induction text generalizing offset with
  | nil =>
    rw [breakOn?_nil] at missing
    intro stands
    have empty : pattern = [] := by simpa [StandsAt] using stands
    simp [empty] at missing
  | cons character rest ih =>
    rw [breakOn?_cons] at missing
    split at missing
    · cases missing
    · next start =>
      cases offset with
      | zero => exact fun stands => start (List.isPrefixOf_iff_prefix.2 stands)
      | succ offset => exact ih (Option.map_eq_none_iff.1 missing) offset

/-- The occurrence that is found is the first one. -/
theorem not_standsAt_of_lt (found : breakOn? pattern text = some (before, after)) {offset : Nat}
    (earlier : offset < before.length) : ¬ StandsAt pattern text offset := by
  induction text generalizing before offset with
  | nil =>
    simp only [breakOn?_nil, Option.ite_none_right_eq_some, Option.some.injEq,
      Prod.mk.injEq] at found
    obtain ⟨-, rfl, -⟩ := found
    cases earlier
  | cons character rest ih =>
    rw [breakOn?_cons] at found
    split at found
    · cases found
      cases earlier
    · next start =>
      obtain ⟨⟨front, back⟩, cut, same⟩ := Option.map_eq_some_iff.1 found
      cases same
      cases offset with
      | zero => exact fun stands => start (List.isPrefixOf_iff_prefix.2 stands)
      | succ offset => exact ih cut (Nat.lt_of_succ_lt_succ earlier)

/-- A pattern that occurs in a text stands somewhere in it. -/
theorem exists_standsAt_of_infix (inside : pattern <:+: text) :
    ∃ offset, offset + pattern.length ≤ text.length ∧ StandsAt pattern text offset := by
  obtain ⟨front, back, rfl⟩ := inside
  exact ⟨front.length, by simp, standsAt_of_split front pattern back⟩

end Search

/-! ### Pieces -/

section Pieces

variable {first : Char} {others text before after : List Char}

theorem splitOn_of_none (missing : breakOn? (first :: others) text = none) :
    splitOn first others text = [text] := by
  rw [splitOn]
  split
  · rfl
  · next found => cases missing.symm.trans found

theorem splitOn_of_some (found : breakOn? (first :: others) text = some (before, after)) :
    splitOn first others text = before :: splitOn first others after := by
  rw [splitOn]
  split
  · next missing => cases missing.symm.trans found
  · next found' =>
    cases found.symm.trans found'
    rfl

theorem splitOn_ne_nil (first : Char) (others text : List Char) :
    splitOn first others text ≠ [] := by
  cases found : breakOn? (first :: others) text with
  | none =>
    rw [splitOn_of_none found]
    exact List.cons_ne_nil _ _
  | some parts =>
    rw [splitOn_of_some found]
    exact List.cons_ne_nil _ _

/-- The pieces with the separator between them are the text. -/
theorem joinWith_splitOn (first : Char) (others text : List Char) :
    joinWith (first :: others) (splitOn first others text) = text := by
  fun_induction splitOn first others text with
  | case1 text missing => exact List.intercalate_singleton
  | case2 text before after found shorter ih =>
    rw [joinWith, List.intercalate_cons_of_ne_nil (splitOn_ne_nil first others after)]
    rw [joinWith] at ih
    rw [ih]
    exact (breakOn?_eq_append found).symm

/-- No piece contains the separator. -/
theorem not_infix_of_mem_splitOn (first : Char) (others text : List Char) :
    ∀ piece ∈ splitOn first others text, ¬ (first :: others) <:+: piece := by
  fun_induction splitOn first others text with
  | case1 text missing =>
    refine List.forall_mem_singleton.2 fun inside => ?_
    obtain ⟨offset, -, stands⟩ := exists_standsAt_of_infix inside
    exact not_standsAt_of_breakOn? missing offset stands
  | case2 text before after found shorter ih =>
    refine List.forall_mem_cons.2 ⟨fun inside => ?_, ih⟩
    obtain ⟨offset, within, stands⟩ := exists_standsAt_of_infix inside
    have earlier : offset < before.length := by
      rw [List.length_cons] at within
      omega
    apply not_standsAt_of_lt found earlier
    -- What stands inside of the piece stands in the text.
    rw [breakOn?_eq_append found, List.append_assoc, StandsAt,
      List.drop_append_of_le_length (Nat.le_of_lt earlier)]
    exact stands.trans (List.prefix_append _ _)

/-- There is one piece more than occurrences are found, wherever the text begins in a longer one. -/
theorem found_splitOn (first : Char) (others text : List Char) (behind : List Char) :
    ∃ offsets, Found (first :: others) (behind ++ text) behind.length offsets ∧
      (splitOn first others text).length = offsets.length + 1 := by
  fun_induction splitOn first others text generalizing behind with
  | case1 text missing =>
    refine ⟨[], .nowhere fun offset reached => ?_, rfl⟩
    obtain ⟨further, rfl⟩ := Nat.exists_eq_add_of_le reached
    rw [standsAt_append]
    exact not_standsAt_of_breakOn? missing further
  | case2 text before after found shorter ih =>
    have cut := breakOn?_eq_append found
    have moved : behind ++ text = (behind ++ before ++ (first :: others)) ++ after := by
      rw [cut]
      simp only [List.append_assoc]
    obtain ⟨later, rest, counted⟩ := ih (behind ++ before ++ (first :: others))
    refine ⟨(behind.length + before.length) :: later, .next (Nat.le_add_right _ _) ?_ ?_ ?_, ?_⟩
    · rw [standsAt_append, cut]
      exact standsAt_of_split before (first :: others) after
    · intro other reached earlier
      obtain ⟨further, rfl⟩ := Nat.exists_eq_add_of_le reached
      rw [standsAt_append]
      exact not_standsAt_of_lt found (Nat.lt_of_add_lt_add_left earlier)
    · rw [moved]
      rw [List.length_append, List.length_append] at rest
      exact rest
    · rw [List.length_cons, List.length_cons, counted]

end Pieces

end SandboxLisp.Text

namespace SandboxLisp.Primitive

open Eval

/-- The pieces with the separator between them are the text, also if nothing is between them. -/
theorem joinWith_splitText (characters separator : List Char) :
    Text.joinWith separator (splitText characters separator) = characters := by
  cases separator with
  | cons first others => exact Text.joinWith_splitOn first others characters
  | nil =>
    rw [splitText, Text.joinWith]
    induction characters with
    | nil => rfl
    | cons character rest ih =>
      cases rest with
      | nil => rfl
      | cons next others =>
        rw [List.map_cons, List.map_cons, List.intercalate_cons_cons]
        exact congrArg (character :: ·) ih

theorem split_run (recur : Datum → Eval Datum) (subject separator : String) (around : Surroundings)
    (world : World) :
    split recur [.string subject, .string separator] around world =
      (.ok (.list (some world.nextMark)
        ((splitText subject.toList separator.toList).map ofChars)),
        { world with nextMark := world.nextMark + 1 }) := rfl

/-- Strings are displayed as they are. -/
theorem mapM_displayOrNothing (pieces : List (List Char)) :
    (pieces.map ofChars).mapM displayOrNothing = pure (pieces.map String.ofList) := by
  induction pieces with
  | nil => rfl
  | cons piece rest ih =>
    rw [List.map_cons, List.mapM_cons, ih]
    rfl

theorem join_run (recur : Datum → Eval Datum) (mark : Option Mark) (pieces : List (List Char))
    (separator : String) (around : Surroundings) (world : World) :
    join recur [.list mark (pieces.map ofChars), .string separator] around world =
      (.ok (ofChars (Text.joinWith separator.toList pieces)), world) := by
  have joined : join recur [.list mark (pieces.map ofChars), .string separator] around world =
      ((pieces.map ofChars).mapM displayOrNothing >>= fun shown =>
        pure (ofChars (Text.joinWith separator.toList (shown.map String.toList))))
          around world := rfl
  rw [joined, mapM_displayOrNothing, pure_bind, List.map_map, pure_apply]
  simp

/-- `str-join` undoes `str-split`, for every text and every separator.  If the separator is not
empty, no piece contains it, and there is one piece more than the separator is found from the
left. -/
theorem join_split (recur : Datum → Eval Datum) (around : Surroundings) (world : World)
    (subject separator : String) :
    ∃ (pieces : List (List Char)) (mark : Mark) (after : World),
      split recur [.string subject, .string separator] around world =
        (.ok (.list (some mark) (pieces.map ofChars)), after) ∧
      (∀ later,
        join recur [.list (some mark) (pieces.map ofChars), .string separator] around later =
          (.ok (.string subject), later)) ∧
      (separator ≠ "" →
        (∀ piece ∈ pieces, ¬ separator.toList <:+: piece) ∧
        (∃ offsets, Text.Found separator.toList subject.toList 0 offsets) ∧
        ∀ offsets, Text.Found separator.toList subject.toList 0 offsets →
          pieces.length = offsets.length + 1) := by
  refine ⟨splitText subject.toList separator.toList, world.nextMark, _,
    split_run recur subject separator around world, fun later => ?_, fun notEmpty => ?_⟩
  · rw [join_run, joinWith_splitText, ofChars, String.ofList_toList]
  · obtain ⟨first, others, spelled⟩ : ∃ first others, separator.toList = first :: others := by
      apply List.exists_cons_of_ne_nil
      intro empty
      exact notEmpty (String.toList_eq_nil_iff.1 empty)
    rw [spelled]
    obtain ⟨offsets, found, counted⟩ := Text.found_splitOn first others subject.toList []
    refine ⟨Text.not_infix_of_mem_splitOn first others subject.toList, ⟨offsets, found⟩, ?_⟩
    intro offsets' found'
    rw [found'.unique found]
    exact counted

/-- In `aaaaa` the separator `aa` is found at the first and the third place, though it also stands
at the second and the fourth one, so there are three pieces. -/
theorem join_split_overlapping :
    ∃ (pieces : List (List Char)) (mark : Mark) (after : World),
      split (fun _ => pure .nil) [.string "aaaaa", .string "aa"] ⟨100, some 1000, .int 0⟩
        ⟨[], [], 0, 0⟩ = (.ok (.list (some mark) (pieces.map ofChars)), after) ∧
      pieces.length = 3 ∧
      join (fun _ => pure .nil) [.list (some mark) (pieces.map ofChars), .string "aa"]
        ⟨100, some 1000, .int 0⟩ after = (.ok (.string "aaaaa"), after) := by
  have stands (offset : Nat) (within : offset < 4) :
      Text.StandsAt ['a', 'a'] ['a', 'a', 'a', 'a', 'a'] offset := by
    unfold Text.StandsAt
    interval_cases offset <;> decide
  have found : Text.Found ['a', 'a'] ['a', 'a', 'a', 'a', 'a'] 0 [0, 2] := by
    refine .next (Nat.le_refl 0) (stands 0 (by decide)) (fun _ _ => nofun) ?_
    refine .next (Nat.le_refl 2) (stands 2 (by decide)) ?_
      (.nowhere fun offset reached stands => ?_)
    · intro other reached earlier
      exact absurd reached (Nat.not_le.2 earlier)
    · have short := stands.length_le
      rw [List.length_drop] at short
      exact absurd short (by simp at reached ⊢; omega)
  obtain ⟨pieces, mark, after, splits, joins, counts⟩ :=
    join_split (fun _ => pure .nil) ⟨100, some 1000, .int 0⟩ ⟨[], [], 0, 0⟩ "aaaaa" "aa"
  exact ⟨pieces, mark, after, splits, (counts (by decide)).2.2 [0, 2] found, joins after⟩

end SandboxLisp.Primitive
