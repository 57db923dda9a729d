import SandboxLisp.Token

/-!
# Matching brackets among tokens

Brackets are balanced if no prefix closes more lists than it opens and the whole closes as many.  A
bracket is matched if there is one of the other kind with balanced tokens between the two.  The
first defect of tokens that are not balanced is the first closing bracket without a match or, if
every closing bracket has one, the last opening bracket without a match.

The proofs go by the shape of the tokens: `Sequence` builds up a row of whole expressions, and
`Nested` the tokens in front of a place, with the lists that are still open there.
-/

namespace SandboxLisp

namespace Token

/-- Whether a token opens a list. -/
def isOpening (token : Token) : Bool :=
  token.lexeme = .leftParen

/-- Whether a token closes a list. -/
def isClosing (token : Token) : Bool :=
  token.lexeme = .rightParen

/-- Whether a token is an expression by itself. -/
def isPlain (token : Token) : Bool :=
  !token.isOpening && !token.isClosing && token.lexeme != .endOfInput

theorem not_isClosing_of_isOpening {token : Token} (opens : token.isOpening = true) :
    token.isClosing = false := by
  simp_all [isOpening, isClosing]

theorem not_isOpening_of_isClosing {token : Token} (closes : token.isClosing = true) :
    token.isOpening = false := by
  simp_all [isOpening, isClosing]

theorem no_bracket_of_isPlain {token : Token} (plain : token.isPlain = true) :
    token.isOpening = false ∧ token.isClosing = false := by
  simp only [isPlain, Bool.and_eq_true, Bool.not_eq_true'] at plain
  exact plain.1

end Token

namespace Brackets

open Token

/-- No prefix closes more lists than it opens, and the whole closes as many as it opens. -/
structure Balanced (tokens : List Token) : Prop where
  prefixes (before : List Token) (inside : before <+: tokens) :
    before.countP isClosing ≤ before.countP isOpening
  total : tokens.countP isOpening = tokens.countP isClosing

/-- A closing bracket behind the tokens is matched by one of them. -/
def HasOpening (before : List Token) : Prop :=
  ∃ outer opening inner, before = outer ++ opening :: inner ∧ opening.isOpening = true ∧
    Balanced inner

/-- An opening bracket in front of the tokens is matched by one of them. -/
def HasClosing (after : List Token) : Prop :=
  ∃ inner closing outer, after = inner ++ closing :: outer ∧ closing.isClosing = true ∧
    Balanced inner

/-- Every closing bracket among the tokens is matched. -/
def ClosingsMatched (tokens : List Token) : Prop :=
  ∀ before closing after, tokens = before ++ closing :: after → closing.isClosing = true →
    HasOpening before

/-- Every opening bracket among the tokens is matched. -/
def OpeningsMatched (tokens : List Token) : Prop :=
  ∀ before opening after, tokens = before ++ opening :: after → opening.isOpening = true →
    HasClosing after

/-- The first closing bracket without a match, or the last opening bracket without a match if every
closing bracket has one. -/
inductive FirstDefect (before : List Token) (token : Token) (after : List Token) : Prop where
  | closing (closes : token.isClosing = true) (unmatched : ¬ HasOpening before)
      (first : ClosingsMatched before)
  | opening (opens : token.isOpening = true) (unmatched : ¬ HasClosing after)
      (last : OpeningsMatched after) (closings : ClosingsMatched (before ++ token :: after))

/-- How many expressions are completed by tokens that start inside of `depth` lists, those that are
part of a longer expression left out. -/
def completed (depth : Nat) : List Token → Nat
  | [] => 0
  | token :: rest =>
      if token.isOpening then completed (depth + 1) rest
      else if token.isClosing then completed (depth - 1) rest + if depth = 1 then 1 else 0
      else completed depth rest + if token.isPlain && depth == 0 then 1 else 0

/-! ### Splitting a list in two ways -/

/-- Of two places in a list the second lies behind the first, is the first, or lies before it. -/
theorem split_cases {α : Type} {left right before after : List α} {here there : α}
    (same : left ++ here :: right = before ++ there :: after) :
    (∃ middle, before = left ++ here :: middle ∧ right = middle ++ there :: after) ∨
      (before = left ∧ there = here ∧ after = right) ∨
      ∃ middle, left = before ++ there :: middle ∧ after = middle ++ here :: right := by
  rcases List.append_eq_append_iff.mp same with ⟨between, rfl, split⟩ | ⟨between, rfl, split⟩
  · cases between with
    | nil =>
      cases split
      exact .inr (.inl ⟨(List.append_nil left), rfl, rfl⟩)
    | cons first middle =>
      cases split
      exact .inl ⟨middle, rfl, rfl⟩
  · cases between with
    | nil =>
      cases split
      exact .inr (.inl ⟨(List.append_nil before).symm, rfl, rfl⟩)
    | cons first middle =>
      cases split
      exact .inr (.inr ⟨middle, rfl, rfl⟩)

/-- More tokens in front leave a match in place. -/
theorem HasOpening.behind {before : List Token} (matched : HasOpening before)
    (front : List Token) : HasOpening (front ++ before) := by
  obtain ⟨outer, opening, inner, rfl, opens, balanced⟩ := matched
  exact ⟨front ++ outer, opening, inner, (List.append_assoc front outer _).symm, opens, balanced⟩

/-- More tokens at the end leave a match in place. -/
theorem HasClosing.before {after : List Token} (matched : HasClosing after)
    (back : List Token) : HasClosing (after ++ back) := by
  obtain ⟨inner, closing, outer, rfl, closes, balanced⟩ := matched
  exact ⟨inner, closing, outer ++ back, List.append_assoc inner _ back, closes, balanced⟩

/-! ### Rows of whole expressions -/

/-- The tokens make up a number of expressions, one after another. -/
inductive Sequence : List Token → Nat → Prop where
  | nil : Sequence [] 0
  | atom {token : Token} {rest : List Token} {n : Nat} (plain : token.isPlain = true)
      (others : Sequence rest n) : Sequence (token :: rest) (n + 1)
  | list {opening closing : Token} {inner rest : List Token} {m n : Nat}
      (opens : opening.isOpening = true) (inside : Sequence inner m)
      (closes : closing.isClosing = true) (others : Sequence rest n) :
      Sequence (opening :: (inner ++ closing :: rest)) (n + 1)

namespace Sequence

variable {tokens : List Token} {n : Nat}

theorem append {more : List Token} {m : Nat} (whole : Sequence tokens n)
    (others : Sequence more m) : Sequence (tokens ++ more) (n + m) := by
  induction whole with
  | nil => simpa using others
  | atom plain _ ih =>
    rw [Nat.add_right_comm]
    exact .atom plain ih
  | list opens inside closes _ _ ih =>
    rw [Nat.add_right_comm, List.cons_append, List.append_assoc, List.cons_append]
    exact .list opens inside closes ih

theorem total (whole : Sequence tokens n) :
    tokens.countP isOpening = tokens.countP isClosing := by
  induction whole with
  | nil => rfl
  | @atom token rest n plain _ ih =>
    simp [no_bracket_of_isPlain plain, ih]
  | @list opening closing inner rest m n opens _ closes _ inside others =>
    simp only [List.countP_cons, List.countP_append, opens, closes, inside, others,
      not_isClosing_of_isOpening opens, not_isOpening_of_isClosing closes]
    simp
    omega

theorem prefixes (whole : Sequence tokens n) {before : List Token} (inside : before <+: tokens) :
    before.countP isClosing ≤ before.countP isOpening := by
  induction whole generalizing before with
  | nil =>
    rw [List.prefix_nil.mp inside]
    simp
  | @atom token rest n plain _ ih =>
    rcases List.prefix_cons_iff.mp inside with rfl | ⟨shorter, rfl, within⟩
    · simp
    · simpa [List.countP_cons, no_bracket_of_isPlain plain] using ih within
  | @list opening closing inner rest m n opens row closes others inner_ih rest_ih =>
    rcases List.prefix_cons_iff.mp inside with rfl | ⟨shorter, rfl, behind⟩
    · simp
    -- The prefix ends inside the list, or it contains the list and ends in what follows.
    · have notClosing := not_isClosing_of_isOpening opens
      simp only [List.countP_cons, opens, notClosing]
      rcases List.prefix_or_prefix_of_prefix behind (List.prefix_append inner _) with
        within | ⟨more, rfl⟩
      · have shown := inner_ih within
        simp
        omega
      · rw [List.prefix_append_right_inj] at behind
        have balanced := row.total
        rcases List.prefix_cons_iff.mp behind with rfl | ⟨later, rfl, further⟩
        · simp [balanced]
        · have shown := rest_ih further
          simp only [List.countP_append, List.countP_cons, closes]
          simp
          omega

/-- Whole expressions are balanced. -/
theorem balanced (whole : Sequence tokens n) : Balanced tokens :=
  ⟨fun _ inside => whole.prefixes inside, whole.total⟩

/-- The bracket that closes a list is matched by the one that opens it. -/
theorem closings_matched (whole : Sequence tokens n) : ClosingsMatched tokens := by
  intro before there after split closesThere
  induction whole generalizing before after with
  | nil => simp at split
  | @atom token rest n plain _ ih =>
    cases before with
    | nil =>
      cases split
      simp [isPlain, closesThere] at plain
    | cons first before =>
      cases split
      exact (ih before after rfl).behind [token]
  | @list opening closing inner rest m n opens row closes _ inner_ih rest_ih =>
    cases before with
    | nil =>
      cases split
      rw [not_isClosing_of_isOpening opens] at closesThere
      cases closesThere
    | cons first before =>
      rw [List.cons_append] at split
      obtain ⟨rfl, tail⟩ := List.cons.inj split
      rcases split_cases tail with ⟨middle, rfl, behind⟩ | ⟨rfl, -, -⟩ | ⟨middle, rfl, -⟩
      · simpa using (rest_ih middle after behind).behind (opening :: (inner ++ [closing]))
      · exact ⟨[], opening, before, rfl, opens, row.balanced⟩
      · exact (inner_ih before middle rfl).behind [opening]

/-- The bracket that opens a list is matched by the one that closes it. -/
theorem openings_matched (whole : Sequence tokens n) : OpeningsMatched tokens := by
  intro before there after split opensThere
  induction whole generalizing before after with
  | nil => simp at split
  | @atom token rest n plain _ ih =>
    cases before with
    | nil =>
      cases split
      simp [isPlain, opensThere] at plain
    | cons first before =>
      cases split
      exact ih before after rfl
  | @list opening closing inner rest m n opens row closes _ inner_ih rest_ih =>
    cases before with
    | nil =>
      cases split
      exact ⟨inner, closing, rest, rfl, closes, row.balanced⟩
    | cons first before =>
      rw [List.cons_append] at split
      obtain ⟨rfl, tail⟩ := List.cons.inj split
      rcases split_cases tail with ⟨middle, rfl, behind⟩ | ⟨-, rfl, -⟩ | ⟨middle, rfl, rfl⟩
      · exact rest_ih middle after behind
      · rw [not_isClosing_of_isOpening opensThere] at closes
        cases closes
      · exact (inner_ih before middle rfl).before (closing :: rest)

/-- Whole expressions are counted one by one, unless they stand inside of a list. -/
theorem completed_append (whole : Sequence tokens n) (depth : Nat) (rest : List Token) :
    completed depth (tokens ++ rest) = completed depth rest + if depth = 0 then n else 0 := by
  induction whole generalizing depth rest with
  | nil => simp
  | atom plain _ ih =>
    obtain ⟨notOpening, notClosing⟩ := no_bracket_of_isPlain plain
    simp only [List.cons_append, completed, notOpening, notClosing, plain, Bool.false_eq_true,
      if_false, Bool.true_and, beq_iff_eq, ih]
    split <;> omega
  | @list opening closing inner others m n opens _ closes _ inner_ih rest_ih =>
    have inside := inner_ih (depth + 1) (closing :: (others ++ rest))
    have behind := rest_ih depth rest
    rw [List.cons_append, List.append_assoc, List.cons_append, completed, if_pos opens, inside,
      completed, not_isOpening_of_isClosing closes, closes, Nat.add_sub_cancel, behind]
    simp
    split <;> omega

end Sequence

/-! ### Lists that are still open -/

/-- The tokens complete `n` expressions and then leave lists open, whose opening brackets are
`pending`, the innermost one first. -/
inductive Nested (n : Nat) : List Token → List Token → Prop where
  | flat {tokens : List Token} (whole : Sequence tokens n) : Nested n tokens []
  | inside {outer pending inner : List Token} {opening : Token} {m : Nat}
      (outside : Nested n outer pending) (opens : opening.isOpening = true)
      (whole : Sequence inner m) : Nested n (outer ++ opening :: inner) (opening :: pending)

namespace Nested

variable {tokens pending : List Token} {n : Nat}

/-- If no list is open, the tokens are whole expressions. -/
theorem sequence (nested : Nested n tokens []) : Sequence tokens n := by
  cases nested with
  | flat whole => exact whole

/-- One more opening bracket opens a list. -/
theorem push {opening : Token} (nested : Nested n tokens pending)
    (opens : opening.isOpening = true) : Nested n (tokens ++ [opening]) (opening :: pending) :=
  .inside nested opens .nil

/-- One more expression belongs to the innermost open list, or is completed if none is open. -/
theorem append {more : List Token} (nested : Nested n tokens pending) (whole : Sequence more 1) :
    Nested (if pending = [] then n + 1 else n) (tokens ++ more) pending := by
  cases nested with
  | flat body => exact .flat (body.append whole)
  | inside outside opens body =>
    rw [List.append_assoc, List.cons_append]
    exact .inside outside opens (body.append whole)

/-- A closing bracket makes a whole expression of the innermost open list. -/
theorem pop {opening closing : Token} (nested : Nested n tokens (opening :: pending))
    (closes : closing.isClosing = true) :
    Nested (if pending = [] then n + 1 else n) (tokens ++ [closing]) pending := by
  cases nested with
  | inside outside opens body =>
    have expression : Sequence _ 1 := .list opens body closes .nil
    have done := outside.append expression
    rwa [List.append_assoc, List.cons_append]

/-- The open lists are those that are opened and not closed. -/
theorem total (nested : Nested n tokens pending) :
    tokens.countP isOpening = tokens.countP isClosing + pending.length := by
  induction nested with
  | flat whole => simpa using whole.total
  | inside _ opens whole ih =>
    simp only [List.countP_append, List.countP_cons, List.length_cons, opens, ih, whole.total,
      not_isClosing_of_isOpening opens]
    simp
    omega

theorem closings_matched (nested : Nested n tokens pending) : ClosingsMatched tokens := by
  induction nested with
  | flat whole => exact whole.closings_matched
  | @inside outer pending inner opening m _ opens whole ih =>
    intro before closing after split closes
    rcases split_cases split with ⟨middle, rfl, rfl⟩ | ⟨-, rfl, -⟩ | ⟨middle, rfl, -⟩
    · have matched := whole.closings_matched middle closing after rfl closes
      simpa using matched.behind (outer ++ [opening])
    · rw [not_isClosing_of_isOpening opens] at closes
      cases closes
    · exact ih before closing middle rfl closes

/-- The expressions in front of the open lists are those that are completed. -/
theorem completed_append (nested : Nested n tokens pending) (rest : List Token) :
    completed 0 (tokens ++ rest) = completed pending.length rest + n := by
  induction nested generalizing rest with
  | flat whole => simpa using whole.completed_append 0 rest
  | inside _ opens whole ih =>
    rw [List.append_assoc, ih, List.cons_append, completed, if_pos opens, whole.completed_append]
    simp

end Nested

/-! ### The first defect -/

/-- Behind whole expressions a closing bracket has no match. -/
theorem Balanced.not_hasOpening {tokens : List Token} (balanced : Balanced tokens) :
    ¬ HasOpening tokens := by
  rintro ⟨outer, opening, inner, rfl, opens, inside⟩
  have outerCount := balanced.prefixes outer (List.prefix_append outer _)
  have total := balanced.total
  have innerTotal := inside.total
  simp only [List.countP_append, List.countP_cons, opens, not_isClosing_of_isOpening opens] at total
  simp at total
  omega

/-- In front of balanced tokens and one that is no bracket an opening bracket has no match. -/
theorem Balanced.not_hasClosing {tokens : List Token} {last : Token} (balanced : Balanced tokens)
    (notClosing : last.isClosing = false) : ¬ HasClosing (tokens ++ [last]) := by
  rintro ⟨inner, closing, outer, split, closes, inside⟩
  rcases split_cases split with ⟨middle, -, none⟩ | ⟨-, rfl, -⟩ | ⟨middle, rfl, -⟩
  · simp at none
  · rw [closes] at notClosing
    cases notClosing
  · have count := balanced.prefixes (inner ++ [closing]) ⟨middle, by simp⟩
    have innerTotal := inside.total
    simp only [List.countP_append, List.countP_singleton, closes,
      not_isOpening_of_isClosing closes] at count
    simp at count
    omega

/-- Brackets that are matched in tokens are matched in front of a token that opens nothing. -/
theorem OpeningsMatched.concat {tokens : List Token} {last : Token}
    (matched : OpeningsMatched tokens) (notOpening : last.isOpening = false) :
    OpeningsMatched (tokens ++ [last]) := by
  intro before opening after split opens
  rcases split_cases split with ⟨middle, -, none⟩ | ⟨-, rfl, -⟩ | ⟨middle, rfl, rfl⟩
  · simp at none
  · rw [opens] at notOpening
    cases notOpening
  · exact (matched before opening middle rfl opens).before [last]

theorem ClosingsMatched.concat {tokens : List Token} {last : Token}
    (matched : ClosingsMatched tokens) (notClosing : last.isClosing = false) :
    ClosingsMatched (tokens ++ [last]) := by
  intro before closing after split closes
  rcases split_cases split with ⟨middle, -, none⟩ | ⟨-, rfl, -⟩ | ⟨middle, rfl, rfl⟩
  · simp at none
  · rw [closes] at notClosing
    cases notClosing
  · exact matched before closing middle rfl closes

end Brackets

end SandboxLisp
