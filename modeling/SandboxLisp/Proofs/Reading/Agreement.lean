import SandboxLisp.Proofs.Reading.Scan

/-!
# Reading characters and reading tokens agree

A text can be read in two ways: character by character with `Reader.parse`, or by cutting it into
tokens and taking these with `Brackets.read`.  The main statement is that both have one outcome on
every text that can be cut, and that a text that cannot be cut is malformed for `Reader.parse` at
the same place or before it.

Both readers keep their open lists on a stack.  `SameStack` relates the two stacks, and each of the
two inductions follows the reader of characters.
-/

namespace SandboxLisp

namespace Brackets

open Reader (Complaint)

variable {text rest : List Char} {position : Position}

/-- The list is open on both sides: it is opened at one place and has the same items so far. -/
structure SameList (text : List Char) (openList : Reader.OpenList) (opened : Opened) : Prop where
  marks : opened.position.Marks text openList.start
  items : openList.items = opened.items

/-- The same lists are open on both sides. -/
abbrev SameStack (text : List Char) : List Reader.OpenList → List Opened → Prop :=
  List.Forall₂ (SameList text)

namespace SameList

variable {openList : Reader.OpenList} {opened : Opened}

/-- One more item keeps the lists the same. -/
theorem push (same : SameList text openList opened) (value : Datum) :
    SameList text (openList.push value) (opened.push value) :=
  ⟨same.marks, congrArg (value :: ·) same.items⟩

/-- Closing the same list gives one datum. -/
theorem close_eq (same : SameList text openList opened) : openList.close = opened.close := by
  rw [Reader.OpenList.close, Opened.close, same.items]

end SameList

/-- One outcome of both readers: a datum behind which both are at the same place of the text, or a
failure that is one complaint. -/
inductive Agrees (text : List Char) :
    Except Reader.Failure (Datum × List Char) → Except Complaint (Datum × List Token) → Prop where
  | value {value : Datum} {after : List Char} {place : Position} {tokens : List Token}
      (marks : place.Marks text after) (cut : Token.scan place after = .ok tokens) :
      Agrees text (.ok (value, after)) (.ok (value, tokens))
  | failure {failure : Reader.Failure} {complaint : Complaint}
      (located : (failure.locate text).complaint? = some complaint) :
      Agrees text (.error failure) (.error complaint)

/-- A failure is located at the position of the place where it is met. -/
theorem locate_eq (cause : Reader.Cause) (marks : position.Marks text rest) :
    (Reader.Failure.malformed cause rest).locate text = .malformed cause position := by
  rw [Reader.Failure.locate, marks.ofOffset_eq]

theorem complaint?_locate {cause : Reader.Cause} (marks : position.Marks text rest) :
    ((Reader.Failure.malformed cause rest).locate text).complaint? =
      some ⟨cause.defect, position⟩ := by
  rw [locate_eq cause marks, Reader.Error.complaint?]

/-- Where an item is read in a text that can be cut, a token contributes it. -/
theorem exists_token {character : Char} {behind after : List Char} {found : Reader.Item}
    {tokens : List Token} (marks : position.Marks text rest)
    (skipped : Reader.skipGap false rest = character :: behind)
    (read : Reader.item character behind = .ok (found, after))
    (cut : Token.scan position rest = .ok tokens) :
    ∃ (token : Token) (others : List Token) (there : Position), tokens = token :: others ∧
      token.lexeme.item? = some found ∧ token.position.Marks text (character :: behind) ∧
      there.Marks text after ∧ Token.scan there after = .ok others := by
  obtain ⟨lexeme, here, there, contributes, place, next, same⟩ :=
    Token.exists_token_of_item marks skipped read
  rw [cut] at same
  cases others : Token.scan there after with
  | error error =>
      rw [others] at same
      cases same
  | ok others' =>
      rw [others] at same
      cases same
      exact ⟨⟨lexeme, here⟩, others', there, rfl, contributes, place, next, others⟩

/-- As long as the text can be cut, both readers have one outcome. -/
theorem expression_agrees {stack : List Reader.OpenList} {pending : List Opened}
    {tokens : List Token} (marks : position.Marks text rest) (same : SameStack text stack pending)
    (cut : Token.scan position rest = .ok tokens) :
    Agrees text (Reader.expression stack rest) (expression pending tokens) := by
  fun_induction Reader.expression stack rest generalizing position pending tokens with
  | case1 rest skipped =>
      obtain ⟨here, there, last⟩ := Token.scan_end marks skipped
      rw [cut] at last
      cases last
      cases same
      exact .failure (complaint?_locate there)
  | case2 rest skipped innermost outer =>
      obtain ⟨here, there, last⟩ := Token.scan_end marks skipped
      rw [cut] at last
      cases last
      cases same with
      | cons list _ => exact .failure (complaint?_locate list.marks)
  | case3 stack rest character behind skipped failure failed =>
      rcases Token.scan_of_item_error marks skipped failed with
        ⟨error, -, stops⟩ | ⟨cause, reported, here, -, -, stops⟩ <;>
      · rw [cut] at stops
        cases stops
  | case4 stack rest character behind skipped after found ih =>
      obtain ⟨token, others, there, rfl, contributes, here, place, next⟩ :=
        exists_token marks skipped found cut
      simp only [expression, contributes]
      exact ih place (.cons ⟨here, rfl⟩ same) next
  | case5 rest character behind skipped after found =>
      obtain ⟨token, others, there, rfl, contributes, here, place, next⟩ :=
        exists_token marks skipped found cut
      cases same
      simp only [expression, contributes]
      exact .failure (complaint?_locate here)
  | case6 rest character behind skipped after found outermost =>
      obtain ⟨token, others, there, rfl, contributes, here, place, next⟩ :=
        exists_token marks skipped found cut
      cases same with
      | cons list nothing =>
          cases nothing
          simp only [expression, contributes, list.close_eq]
          exact .value place next
  | case7 rest character behind skipped after found innermost second outer ih =>
      obtain ⟨token, others, there, rfl, contributes, here, place, next⟩ :=
        exists_token marks skipped found cut
      cases same with
      | cons list lists =>
          cases lists with
          | cons list' lists' =>
              simp only [expression, contributes, list.close_eq]
              rw [list.close_eq] at ih
              exact ih place (.cons (list'.push _) lists') next
  | case8 rest character behind skipped value after found =>
      obtain ⟨token, others, there, rfl, contributes, here, place, next⟩ :=
        exists_token marks skipped found cut
      cases same
      simp only [expression, contributes]
      exact .value place next
  | case9 rest character behind skipped value after found innermost outer ih =>
      obtain ⟨token, others, there, rfl, contributes, here, place, next⟩ :=
        exists_token marks skipped found cut
      cases same with
      | cons list lists =>
          simp only [expression, contributes]
          exact ih place (.cons (list.push value) lists) next

/-- What reading comes to in a text that cannot be cut at `limit`: a datum behind which the text
still cannot be cut there, or a malformed text at that place or before it. -/
inductive Stops (text : List Char) (reported : Token.Cause) (limit : Position) :
    Except Reader.Failure (Datum × List Char) → Prop where
  | value {value : Datum} {after : List Char} {place : Position}
      (marks : place.Marks text after)
      (failed : Token.scan place after = .error (.lexical reported limit)) :
      Stops text reported limit (.ok (value, after))
  | failure {cause : Reader.Cause} {left : List Char} {place : Position}
      (marks : place.Marks text left) (early : place.AtMost limit) :
      Stops text reported limit (.error (.malformed cause left))

/-- Where an item is read in a text that cannot be cut, it cannot be cut behind the item. -/
theorem exists_place {character : Char} {behind after : List Char} {found : Reader.Item}
    {reported : Token.Cause} {limit : Position} (marks : position.Marks text rest)
    (skipped : Reader.skipGap false rest = character :: behind)
    (read : Reader.item character behind = .ok (found, after))
    (failed : Token.scan position rest = .error (.lexical reported limit)) :
    ∃ here there : Position, here.Marks text (character :: behind) ∧ here.AtMost limit ∧
      there.Marks text after ∧ Token.scan there after = .error (.lexical reported limit) := by
  obtain ⟨lexeme, here, there, -, place, next, same⟩ :=
    Token.exists_token_of_item marks skipped read
  rw [failed] at same
  cases later : Token.scan there after with
  | error error =>
      rw [later] at same
      cases same
      have shorter : after.length ≤ (character :: behind).length :=
        Nat.le_succ_of_le (Reader.length_le_of_item read)
      exact ⟨here, there, place,
        (place.atMost next shorter).trans (Token.atMost_of_scan_lexical later), next, later⟩
  | ok tokens =>
      rw [later] at same
      cases same

/-- A text that cannot be cut stops the reader there or before. -/
theorem expression_stops {stack : List Reader.OpenList} {reported : Token.Cause}
    {limit : Position} (marks : position.Marks text rest)
    (failed : Token.scan position rest = .error (.lexical reported limit)) :
    Stops text reported limit (Reader.expression stack rest) := by
  fun_induction Reader.expression stack rest generalizing position with
  | case1 rest skipped =>
      obtain ⟨here, -, last⟩ := Token.scan_end marks skipped
      rw [failed] at last
      cases last
  | case2 rest skipped innermost outer =>
      obtain ⟨here, -, last⟩ := Token.scan_end marks skipped
      rw [failed] at last
      cases last
  | case3 stack rest character behind skipped failure stuck =>
      rcases Token.scan_of_item_error marks skipped stuck with
        ⟨error, -, stops⟩ | ⟨cause, reported', here, rfl, place, stops⟩
      · rw [failed] at stops
        cases stops
      · rw [failed] at stops
        cases stops
        exact .failure place (Position.AtMost.refl limit)
  | case4 stack rest character behind skipped after found ih =>
      obtain ⟨here, there, -, -, place, later⟩ := exists_place marks skipped found failed
      exact ih place later
  | case5 rest character behind skipped after found =>
      obtain ⟨here, there, place, early, -, -⟩ := exists_place marks skipped found failed
      exact .failure place early
  | case6 rest character behind skipped after found outermost =>
      obtain ⟨here, there, -, -, place, later⟩ := exists_place marks skipped found failed
      exact .value place later
  | case7 rest character behind skipped after found innermost second outer ih =>
      obtain ⟨here, there, -, -, place, later⟩ := exists_place marks skipped found failed
      exact ih place later
  | case8 rest character behind skipped value after found =>
      obtain ⟨here, there, -, -, place, later⟩ := exists_place marks skipped found failed
      exact .value place later
  | case9 rest character behind skipped value after found innermost outer ih =>
      obtain ⟨here, there, -, -, place, later⟩ := exists_place marks skipped found failed
      exact ih place later

/-- Behind a datum, either both readers are at the end, or both find something at one place. -/
theorem behind_agrees {place : Position} {tokens : List Token}
    (marks : place.Marks text rest) (cut : Token.scan place rest = .ok tokens) :
    (Reader.skipGap false rest = [] ∧ ∃ here, tokens = [⟨.endOfInput, here⟩]) ∨
      ∃ character behind token others, Reader.skipGap false rest = character :: behind ∧
        tokens = token :: others ∧ token.lexeme ≠ .endOfInput ∧
        token.position.Marks text (character :: behind) := by
  cases skipped : Reader.skipGap false rest with
  | nil =>
      obtain ⟨here, -, last⟩ := Token.scan_end marks skipped
      rw [cut] at last
      cases last
      exact Or.inl ⟨rfl, here, rfl⟩
  | cons character behind =>
      cases read : Reader.item character behind with
      | error failure =>
          rcases Token.scan_of_item_error marks skipped read with
            ⟨error, -, stops⟩ | ⟨cause, reported, here, -, -, stops⟩ <;>
          · rw [cut] at stops
            cases stops
      | ok found =>
          obtain ⟨token, others, there, rfl, contributes, here, -, -⟩ :=
            exists_token marks skipped read cut
          refine Or.inr ⟨character, behind, token, others, rfl, rfl, ?_, here⟩
          intro last
          rw [last] at contributes
          cases contributes

/-- On a text that can be cut, reading its tokens has the outcome of reading its characters. -/
theorem parse_eq_read {tokens : List Token} (cut : Token.tokenize text = .ok tokens) :
    (Reader.parse text).mapError Reader.Error.complaint? = (read tokens).mapError some := by
  have agree : Agrees text (Reader.expression [] text) (expression [] tokens) :=
    expression_agrees (Position.Marks.start text) .nil cut
  unfold Reader.parse read
  generalize Reader.expression [] text = left, expression [] tokens = right at agree ⊢
  cases agree with
  | failure located => simp only [Except.mapError, located]
  | value marks cut =>
      rcases behind_agrees marks cut with
        ⟨nothing, here, rfl⟩ | ⟨character, behind, token, others, something, rfl, more, there⟩
      · simp only [nothing, if_true, Except.mapError]
      · simp only [something, more, if_false, Except.mapError]
        rw [complaint?_locate there]
        rfl

/-- On a text that cannot be cut, reading its characters finds it malformed there or before. -/
theorem parse_of_lexical {reported : Token.Cause} {limit : Position}
    (failed : Token.tokenize text = .error (.lexical reported limit)) :
    ∃ cause place, Reader.parse text = .error (.malformed cause place) ∧ place.AtMost limit := by
  have stops : Stops text reported limit (Reader.expression [] text) :=
    expression_stops (Position.Marks.start text) failed
  unfold Reader.parse
  generalize Reader.expression [] text = outcome at stops ⊢
  cases stops with
  | @failure cause left place marks early =>
      exact ⟨cause, place, congrArg Except.error (locate_eq cause marks), early⟩
  | @value value after place marks later =>
      obtain ⟨here, there, same⟩ := Token.scan_behind_gap marks
      rw [later] at same
      have early : here.AtMost limit := Token.atMost_of_scan_lexical same.symm
      cases skipped : Reader.skipGap false after with
      | nil =>
          rw [skipped, Token.scan] at same
          cases same
      | cons character behind =>
          rw [skipped] at there
          refine ⟨.trailing ((character :: behind).take 20), here, ?_, early⟩
          simp only [skipped, locate_eq _ there]

/-- Reading the characters of a text and reading its tokens agree: if the text can be cut into
tokens, both have one outcome, and if it cannot, it is malformed for the reader of characters at the
same position or before it. -/
theorem parse_agrees_with_tokens (text : List Char) :
    (∀ tokens, Token.tokenize text = .ok tokens →
      (Reader.parse text).mapError Reader.Error.complaint? = (read tokens).mapError some) ∧
    ∀ reported limit, Token.tokenize text = .error (.lexical reported limit) →
      ∃ cause place, Reader.parse text = .error (.malformed cause place) ∧
        (place = limit ∨ place.before limit = true) :=
  ⟨fun _ cut => parse_eq_read cut, fun _ _ failed => parse_of_lexical failed⟩

/-- A string with an escaped quote, text behind the first expression, and a square bracket. -/
theorem parse_agrees_with_tokens_escaped :
    (Token.tokenize ['(', '"', '\\', '"', '"', ')', '\n', '7'] =
        .ok [⟨.leftParen, ⟨1, 1⟩⟩, ⟨.string "\"", ⟨1, 2⟩⟩, ⟨.rightParen, ⟨1, 6⟩⟩,
          ⟨.number (.int 7), ⟨2, 1⟩⟩, ⟨.endOfInput, ⟨2, 2⟩⟩] ∧
      (Reader.parse ['(', '"', '\\', '"', '"', ')', '\n', '7']).mapError
        Reader.Error.complaint? = .error (some ⟨.trailingInput, ⟨2, 1⟩⟩)) ∧
    (Token.tokenize ['(', '\n', '['] =
        .error (.lexical (.unexpectedCharacter '[') ⟨2, 1⟩) ∧
      ∃ cause place, Reader.parse ['(', '\n', '['] = .error (.malformed cause place) ∧
        (place = ⟨2, 1⟩ ∨ place.before ⟨2, 1⟩ = true)) := by
  have cut : Token.tokenize ['(', '"', '\\', '"', '"', ')', '\n', '7'] =
      .ok [⟨.leftParen, ⟨1, 1⟩⟩, ⟨.string "\"", ⟨1, 2⟩⟩, ⟨.rightParen, ⟨1, 6⟩⟩,
        ⟨.number (.int 7), ⟨2, 1⟩⟩, ⟨.endOfInput, ⟨2, 2⟩⟩] := by
    decide +kernel
  have failed : Token.tokenize ['(', '\n', '['] =
      .error (.lexical (.unexpectedCharacter '[') ⟨2, 1⟩) := by
    decide +kernel
  exact ⟨⟨cut, (parse_agrees_with_tokens _).1 _ cut⟩,
    failed, (parse_agrees_with_tokens _).2 _ _ failed⟩

end Brackets

end SandboxLisp
