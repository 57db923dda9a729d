import SandboxLisp.Text.Fingerprint

/-!
# Searching, splitting and replacing

A pattern is looked for from the left.  `breakOn?` cuts a text at the first occurrence; replacing
and splitting follow from it.  A window as long as the pattern moves over the text, and the pattern
is compared with it only where the fingerprints agree, so a search takes about as long as reading
the text and the pattern.

The fingerprints show nowhere: `breakOn?_nil` and `breakOn?_cons` say what is found without them.
The main fact is `breakOn?_eq_append`: what is cut apart is the text.
-/

namespace SandboxLisp.Text

/-- The search of a pattern with a fingerprint in a text, where `sum` is the fingerprint of the
window at its start and `behind` follows the window.  `weight` is the weight of the pattern without
one character. -/
def scan? (pattern : List Char) (target weight sum : UInt64) (behind : List Char) :
    List Char → Option (List Char × List Char)
  | [] => none
  | character :: rest =>
      if sum = target ∧ pattern.isPrefixOf (character :: rest) = true then some ([], behind)
      else
        match behind with
        | [] => none
        | next :: behind =>
            (scan? pattern target weight (slide weight sum character next) behind rest).map
              fun parts => (character :: parts.1, parts.2)

/-- The text before and after the first occurrence of a pattern. -/
def breakOn? (pattern text : List Char) : Option (List Char × List Char) :=
  match pattern with
  | [] => some ([], text)
  | _ :: others =>
      scan? pattern (fingerprint pattern) (weight others)
        (fingerprint (text.take pattern.length)) (text.drop pattern.length) text

/-- A pattern that is longer than the text is not found. -/
theorem scan?_of_length_lt {pattern text : List Char} (short : text.length < pattern.length)
    (target weight sum : UInt64) : scan? pattern target weight sum [] text = none := by
  cases text with
  | nil => rfl
  | cons character rest =>
    have other : ¬ pattern.isPrefixOf (character :: rest) = true := by
      intro start
      exact Nat.not_le_of_lt short (List.isPrefixOf_iff_prefix.1 start).length_le
    simp [scan?, other]

/-- The window at a pattern that stands at the start has the pattern's fingerprint. -/
theorem fingerprint_window (pattern text : List Char)
    (start : pattern.isPrefixOf text = true) :
    fingerprint (text.take pattern.length) = fingerprint pattern := by
  obtain ⟨rest, rfl⟩ := List.isPrefixOf_iff_prefix.1 start
  rw [List.take_left]

/-- A pattern that is not empty stands at the start or is looked for in the rest. -/
theorem breakOn?_cons_cons (first character : Char) (others rest : List Char) :
    breakOn? (first :: others) (character :: rest) =
      if (first :: others).isPrefixOf (character :: rest) then
        some ([], (character :: rest).drop (first :: others).length)
      else
        (breakOn? (first :: others) rest).map fun parts => (character :: parts.1, parts.2) := by
  have window := fingerprint_window (first :: others) (character :: rest)
  simp only [breakOn?, List.length_cons, List.take_succ_cons, List.drop_succ_cons] at window ⊢
  match behind : rest.drop others.length with
  | [] =>
    have short : rest.length < (first :: others).length :=
      Nat.lt_succ_of_le (List.drop_eq_nil_iff.1 behind)
    have nothing : rest.drop (others.length + 1) = [] :=
      List.drop_eq_nil_iff.2 (Nat.le_of_lt short)
    rw [nothing, scan?_of_length_lt short, scan?, Option.map_none]
    by_cases start : (first :: others).isPrefixOf (character :: rest) = true
    · simp only [start, window start, and_self, if_true]
    · simp only [start, and_false, if_false, Bool.false_eq_true]
  | next :: after =>
    have inside : others.length < rest.length := by
      rw [← Nat.not_le, ← List.drop_eq_nil_iff, behind]
      simp
    have same : weight others = weight (rest.take others.length) := by
      apply weight_congr
      rw [List.length_take]
      omega
    have moved : rest.take (others.length + 1) = rest.take others.length ++ [next] := by
      rw [List.take_add, behind]
      rfl
    have left : rest.drop (others.length + 1) = after := by
      rw [← List.drop_drop, behind]
      rfl
    rw [scan?, same, slide_eq, moved, left]
    by_cases start : (first :: others).isPrefixOf (character :: rest) = true
    · simp only [start, window start, and_self, if_true]
    · simp only [start, and_false, if_false, Bool.false_eq_true]

/-- The empty pattern stands at the start of any text, and no other occurs in the empty text. -/
theorem breakOn?_nil (pattern : List Char) :
    breakOn? pattern [] = if pattern.isEmpty then some ([], []) else none := by
  cases pattern <;> rfl

/-- A pattern that does not stand at the start is looked for in the rest. -/
theorem breakOn?_cons (pattern : List Char) (character : Char) (rest : List Char) :
    breakOn? pattern (character :: rest) =
      if pattern.isPrefixOf (character :: rest) then
        some ([], (character :: rest).drop pattern.length)
      else (breakOn? pattern rest).map fun parts => (character :: parts.1, parts.2) := by
  cases pattern with
  | nil => rfl
  | cons first others => exact breakOn?_cons_cons first character others rest

/-- Cutting loses nothing: the parts with the pattern between them are the text. -/
theorem breakOn?_eq_append {pattern text before after : List Char}
    (found : breakOn? pattern text = some (before, after)) :
    text = before ++ pattern ++ after := by
  induction text generalizing before with
  | nil =>
    simp only [breakOn?_nil, Option.ite_none_right_eq_some, List.isEmpty_iff, Option.some.injEq,
      Prod.mk.injEq] at found
    obtain ⟨rfl, rfl, rfl⟩ := found
    rfl
  | cons character rest ih =>
    by_cases start : pattern.isPrefixOf (character :: rest) = true
    · simp only [breakOn?_cons, start, if_true, Option.some.injEq, Prod.mk.injEq] at found
      obtain ⟨rfl, rfl⟩ := found
      obtain ⟨tail, split⟩ := List.isPrefixOf_iff_prefix.1 start
      rw [List.nil_append, ← split, List.drop_left]
    · simp only [breakOn?_cons, start, if_false, Option.map_eq_some_iff, Prod.mk.injEq, Prod.exists,
        Bool.false_eq_true] at found
      obtain ⟨front, back, cut, rfl, rfl⟩ := found
      simp [ih cut]

/-- The offset of the first occurrence of a pattern. -/
def find? (pattern text : List Char) : Option Nat :=
  (breakOn? pattern text).map fun parts => parts.1.length

/-- Whether the pattern occurs in the text. -/
def occurs (pattern text : List Char) : Bool :=
  (breakOn? pattern text).isSome

/-- The text with the first occurrence of a pattern replaced. -/
def replaceFirst (pattern replacement text : List Char) : List Char :=
  match breakOn? pattern text with
  | none => text
  | some (before, after) => before ++ replacement ++ after

/-- What follows a separator that is not empty is shorter than the text. -/
theorem length_lt_of_breakOn? {first : Char} {others text before after : List Char}
    (found : breakOn? (first :: others) text = some (before, after)) :
    after.length < text.length := by
  rw [breakOn?_eq_append found]
  simp only [List.length_append, List.length_cons]
  omega

/-- The pieces of a text between the occurrences of the separator `first :: others`, found from
the left and not overlapping. -/
def splitOn (first : Char) (others text : List Char) : List (List Char) :=
  match found : breakOn? (first :: others) text with
  | none => [text]
  | some (before, after) =>
      have _shorter : after.length < text.length := length_lt_of_breakOn? found
      before :: splitOn first others after
termination_by text.length
decreasing_by exact _shorter

/-- The pieces with the separator written between them. -/
def joinWith (separator : List Char) (pieces : List (List Char)) : List Char :=
  separator.intercalate pieces

/-- The text ends in the pattern. -/
def endsWith (pattern text : List Char) : Bool :=
  pattern.isSuffixOf text

example : find? ['b'] ['a', 'b', 'b'] = some 1 := by decide
example : replaceFirst [] ['x'] ['a'] = ['x', 'a'] := by decide

end SandboxLisp.Text
