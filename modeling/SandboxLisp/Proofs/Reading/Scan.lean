import SandboxLisp.Proofs.Reading.Brackets
import SandboxLisp.Proofs.Reading.Place

/-!
# Tokens and items

Cutting a text into tokens and reading it character by character pass the same gaps, and what
follows a gap is the same for both: `scan_item` says that the next token contributes the next item,
or that both fail there.  The lemmas before it compare the two ways of skipping a gap, of reading a
string and of classifying an atom.
-/

namespace SandboxLisp.Token

/-! ### Gaps -/

/-- Skipping a gap passes all blanks at the start. -/
theorem skipGap_dropWhile_isBlank (text : List Char) :
    Reader.skipGap false (text.dropWhile Text.isBlank) = Reader.skipGap false text := by
  induction text with
  | nil => rfl
  | cons character rest ih =>
      by_cases blank : Text.isBlank character = true
      · rw [List.dropWhile_cons_of_pos blank, ih]
        simp [Reader.skipGap, blank]
      · rw [List.dropWhile_cons_of_neg blank]

/-- Skipping a gap inside a comment goes on behind the end of the line. -/
theorem skipGap_dropWhile_comment (text : List Char) :
    Reader.skipGap false (text.dropWhile (· != '\n')) = Reader.skipGap true text := by
  induction text with
  | nil => rfl
  | cons character rest ih =>
      by_cases feed : character = '\n'
      · subst feed
        rfl
      · have inside : (character != '\n') = true := by simpa using feed
        simp [inside, ih, Reader.skipGap]

/-- The tokens of a text that starts with a piece are those of the piece and of what follows it. -/
theorem scan_of_piece_ok {position : Position} {character : Char} {rest after : List Char}
    {found : Piece} (cut : piece position character rest = .ok (found, after)) :
    scan position (character :: rest) =
      (scan (position.after found.spelling) after).map (found.precede position) := by
  rw [scan]
  split
  · next failed => rw [cut] at failed; cases failed
  · next same => rw [cut] at same; cases same; rfl

/-- A text that starts with no piece has no tokens. -/
theorem scan_of_piece_error {position : Position} {character : Char} {rest : List Char}
    {error : Error} (cut : piece position character rest = .error error) :
    scan position (character :: rest) = .error error := by
  rw [scan]
  split
  · next same => rw [cut] at same; cases same; rfl
  · next found => rw [cut] at found; cases found

/-- A piece without a lexeme contributes no token. -/
theorem scan_of_gap {position : Position} {character : Char} {rest spelling after : List Char}
    (cut : piece position character rest = .ok (⟨none, spelling⟩, after)) :
    scan position (character :: rest) = scan (position.after spelling) after := by
  rw [scan_of_piece_ok cut]
  cases scan (position.after spelling) after <;> rfl

/-- Cutting passes the gap that reading skips. -/
theorem scan_skipGap (position : Position) (text : List Char) :
    ∃ gap, text = gap ++ Reader.skipGap false text ∧
      scan position text = scan (position.after gap) (Reader.skipGap false text) := by
  match text with
  | [] => exact ⟨[], rfl, rfl⟩
  | character :: rest =>
      -- A blank or a comment starts a piece of a gap; any other character ends the gap at once.
      have through (spelling after : List Char)
          (cut : piece position character rest = .ok (⟨none, spelling⟩, after))
          (parts : character :: rest = spelling ++ after)
          (skip : Reader.skipGap false after = Reader.skipGap false (character :: rest)) :
          ∃ gap, character :: rest = gap ++ Reader.skipGap false (character :: rest) ∧
            scan position (character :: rest) =
              scan (position.after gap) (Reader.skipGap false (character :: rest)) := by
        have shorter : after.length ≤ rest.length := length_le_of_piece cut
        obtain ⟨gap, split, same⟩ := scan_skipGap (position.after spelling) after
        rw [skip] at split same
        refine ⟨spelling ++ gap, ?_, ?_⟩
        · rw [List.append_assoc, ← split, parts]
        · rw [scan_of_gap cut, same, Position.after_append]
      by_cases blank : Text.isBlank character = true
      · apply through (character :: rest.takeWhile Text.isBlank) (rest.dropWhile Text.isBlank)
        · unfold piece
          rw [if_pos blank]
        · rw [List.cons_append, List.takeWhile_append_dropWhile]
        · rw [skipGap_dropWhile_isBlank]
          simp [Reader.skipGap, blank]
      · by_cases comment : character = ';'
        · apply through (';' :: rest.takeWhile (· != '\n')) (rest.dropWhile (· != '\n'))
          · unfold piece
            rw [if_neg blank, if_pos comment]
          · rw [List.cons_append, List.takeWhile_append_dropWhile, comment]
          · rw [skipGap_dropWhile_comment, Reader.skipGap, if_neg Bool.false_ne_true, if_neg blank,
              if_pos comment]
        · refine ⟨[], ?_, ?_⟩ <;> simp [Reader.skipGap, blank, comment, Position.after]
termination_by text.length
decreasing_by
  simp only [List.length_cons]
  omega

/-! ### Strings -/

/-- Resolving escapes while reading a string is resolving them afterwards in its spelling. -/
theorem stringBody?_eq (rest : List Char) :
    Reader.stringBody? rest =
      (literalBody? rest).map fun parts => (unescape parts.1, parts.2) := by
  fun_induction literalBody? rest with
  | case1 => rfl
  | case2 rest => rfl
  | case3 => rfl
  | case4 escaped rest ih =>
      rw [Reader.stringBody?, ih, Option.map_map, Option.map_map]
      rfl
  | case5 character rest noQuote noEnd noEscape ih =>
      -- Whether something follows a backslash or not, it belongs to an earlier case.
      have noBackslash : character ≠ '\\' := by
        intro same
        cases rest with
        | nil => exact noEnd same rfl
        | cons escaped after => exact noEscape escaped after same rfl
      have plain (body : List Char) : unescape (character :: body) = character :: unescape body := by
        simp [unescape, noBackslash]
      rw [Reader.stringBody?, ih, Option.map_map, Option.map_map]
      · simp only [Function.comp_def, plain]
      · exact noQuote
      · exact noEscape

/-- The spelling of a string's content, its closing quote and what follows it are the whole text. -/
theorem eq_append_of_literalBody? {rest body after : List Char}
    (found : literalBody? rest = some (body, after)) : rest = body ++ '"' :: after := by
  fun_induction literalBody? rest generalizing body after with
  | case1 => cases found
  | case2 rest =>
      cases found
      rfl
  | case3 => cases found
  | case4 escaped rest ih =>
      obtain ⟨parts, inner, same⟩ := Option.map_eq_some_iff.1 found
      cases same
      rw [List.cons_append, List.cons_append, ← ih inner]
  | case5 character rest _ _ _ ih =>
      obtain ⟨parts, inner, same⟩ := Option.map_eq_some_iff.1 found
      cases same
      rw [List.cons_append, ← ih inner]

/-! ### Atoms -/

/-- A decimal numeral never spells the result that is not a number. -/
theorem value_ne_nan (numeral : Numeral) : numeral.value ≠ .ok .nan := by
  unfold Numeral.value
  split
  · split <;> simp
  · simp

/-- What a text spells is never the result that is not a number. -/
theorem read_ne_nan (spelling : List Char) : Numeral.read spelling ≠ .ok (some .nan) := by
  unfold Numeral.read
  split
  · next numeral _ =>
    cases known : numeral.value with
    | error cause => simp
    | ok number =>
        cases number with
        | int value => simp
        | double value =>
            cases finite : value.isFinite <;> simp [finite]
        | nan => exact absurd known (value_ne_nan numeral)
  · cases Numeral.radixValue? spelling <;> simp

/-- Two names stand for nil, and they are the atoms that are read as nil. -/
theorem datumOfName_ofList (spelling : List Char) :
    Lexeme.datumOfName (String.ofList spelling) =
      if Atom.isNil spelling then .nil else .symbol (String.ofList spelling) := by
  have same (name : List Char) : String.ofList spelling = String.ofList name ↔ spelling = name := by
    constructor
    · intro equal
      simpa using congrArg String.toList equal
    · exact congrArg String.ofList
  have nil : String.ofList spelling = "nil" ↔ spelling = ['n', 'i', 'l'] := same _
  have null : String.ofList spelling = "null" ↔ spelling = ['n', 'u', 'l', 'l'] := same _
  simp only [Lexeme.datumOfName, nil, null, Atom.isNil, Bool.or_eq_true, decide_eq_true_eq]
  simp only [or_comm]

/-- Classifying an atom and reading it agree: the lexeme contributes the datum, and a numeral that
cannot be read is reported by both. -/
theorem classify_atom (spelling : List Char) :
    (∃ error, classify spelling = .error error ∧ Reader.atom spelling = .error error) ∨
      ∃ lexeme value, classify spelling = .ok lexeme ∧ Reader.atom spelling = .ok value ∧
        lexeme.item? = some (.datum value) := by
  unfold classify Reader.atom
  cases named : Atom.boolean? spelling with
  | some value => exact Or.inr ⟨_, _, rfl, rfl, rfl⟩
  | none =>
      have symbol := datumOfName_ofList spelling
      by_cases nil : Atom.isNil spelling = true
      · have noNumeral : Numeral.read spelling = .ok none := by
          simp only [Atom.isNil, Bool.or_eq_true, decide_eq_true_eq] at nil
          rcases nil with rfl | rfl <;> rfl
        rw [if_pos nil] at symbol
        refine Or.inr ⟨.symbol (String.ofList spelling), .nil, ?_, ?_, ?_⟩
        · simp only [noNumeral]
        · simp only [nil, if_true]
        · rw [Lexeme.item?, symbol]
      · rw [if_neg nil] at symbol
        simp only [nil, Bool.false_eq_true, if_false]
        cases spelled : Numeral.read spelling with
        | error error => exact Or.inl ⟨error, rfl, rfl⟩
        | ok number =>
            match number with
            | none => exact Or.inr ⟨_, _, rfl, rfl, by rw [Lexeme.item?, symbol]⟩
            | some (.int value) => exact Or.inr ⟨_, _, rfl, rfl, rfl⟩
            | some (.double value) => exact Or.inr ⟨_, _, rfl, rfl, rfl⟩
            | some .nan => exact absurd spelled (read_ne_nan spelling)

/-! ### Where cutting fails -/

/-- A piece that cannot be cut is reported at its own position. -/
theorem eq_of_piece_lexical {position limit : Position} {character : Char} {rest : List Char}
    {cause : Cause} (failed : piece position character rest = .error (.lexical cause limit)) :
    limit = position := by
  unfold piece at failed
  dsimp only at failed
  repeat' split at failed
  all_goals cases failed
  all_goals rfl

/-- A text that cannot be cut is reported at its start or behind it. -/
theorem atMost_of_scan_lexical {position limit : Position} {text : List Char} {cause : Cause}
    (failed : scan position text = .error (.lexical cause limit)) : position.AtMost limit := by
  fun_induction scan position text with
  | case1 position => cases failed
  | case2 position character rest error cut =>
      cases failed
      rw [eq_of_piece_lexical cut]
      exact Position.AtMost.refl position
  | case3 position character rest found after cut ih =>
      cases later : scan (position.after found.spelling) after with
      | error error =>
          rw [later] at failed
          cases failed
          exact (position.le_after found.spelling).trans (ih later)
      | ok tokens =>
          rw [later] at failed
          cases failed

/-! ### Items -/

/-- How the tokens of a text go on at a position where an item is read or reading fails: with the
token that contributes the item and with those behind it, or not at all. -/
inductive Continues (text : List Char) (here : Position) (left : List Char) :
    Except Reader.Failure (Reader.Item × List Char) → Except Error (List Token) → Prop where
  | item {found : Reader.Item} {after : List Char} {lexeme : Lexeme} {there : Position}
      (contributes : lexeme.item? = some found) (marks : there.Marks text after) :
      Continues text here left (.ok (found, after)) ((scan there after).map (⟨lexeme, here⟩ :: ·))
  | malformed (cause : Reader.Cause) (reported : Cause) :
      Continues text here left (.error (.malformed cause left)) (.error (.lexical reported here))
  | number (error : NumberError) :
      Continues text here left (.error (.number error)) (.error (.number error))

/-- What is left behind a gap starts neither with a blank nor with a comment. -/
theorem of_skipGap_eq_cons {inComment : Bool} {text rest : List Char} {character : Char}
    (skipped : Reader.skipGap inComment text = character :: rest) :
    Text.isBlank character = false ∧ character ≠ ';' := by
  induction text generalizing inComment with
  | nil => cases skipped
  | cons first others ih =>
      unfold Reader.skipGap at skipped
      split at skipped
      · exact ih skipped
      split at skipped
      · exact ih skipped
      split at skipped
      · exact ih skipped
      · next blank comment =>
        cases skipped
        exact ⟨by simpa using blank, comment⟩

/-- At a character that starts no gap, cutting goes on with the item that is read there. -/
theorem scan_item {text rest : List Char} {here : Position} {character : Char}
    (marks : here.Marks text (character :: rest)) (noBlank : Text.isBlank character = false)
    (noComment : character ≠ ';') :
    Continues text here (character :: rest) (Reader.item character rest)
      (scan here (character :: rest)) := by
  have passed {lexeme : Lexeme} {found : Reader.Item} {spelling after : List Char}
      (cut : piece here character rest = .ok (⟨some lexeme, spelling⟩, after))
      (parts : character :: rest = spelling ++ after)
      (contributes : lexeme.item? = some found) :
      Continues text here (character :: rest) (.ok (found, after))
        (scan here (character :: rest)) := by
    rw [scan_of_piece_ok cut]
    rw [parts] at marks
    exact .item contributes marks.after
  have stuck {error : Error} {failure : Reader.Failure}
      (cut : piece here character rest = .error error)
      (reported : Continues text here (character :: rest) (.error failure) (.error error)) :
      Continues text here (character :: rest) (.error failure) (scan here (character :: rest)) := by
    rw [scan_of_piece_error cut]
    exact reported
  -- Both sides ask the same questions about the character in the same order.
  unfold piece at passed stuck
  simp only [noBlank, noComment, Bool.false_eq_true, if_false] at passed stuck
  unfold Reader.item
  by_cases opening : character = '('
  · subst opening
    exact passed rfl rfl rfl
  by_cases closing : character = ')'
  · subst closing
    exact passed rfl rfl rfl
  by_cases quote : character = '"'
  · subst quote
    rw [stringBody?_eq]
    cases closed : literalBody? rest with
    | none =>
        exact stuck (by simp [closed]) (.malformed .unclosedString .unterminatedString)
    | some parts =>
        obtain ⟨body, after⟩ := parts
        have spelled : Lexeme.item? (.string (String.ofList (unescape body))) =
            some (.datum (.string (String.ofList (unescape body)))) := rfl
        refine passed (by rw [closed]; rfl) ?_ spelled
        simp [eq_append_of_literalBody? closed]
  by_cases delimiter : Atom.isDelimiter character = true
  · simp only [opening, closing, quote, delimiter, if_false, if_true] at stuck ⊢
    exact stuck rfl (.malformed (.unexpectedCharacter character) (.unexpectedCharacter character))
  · simp only [opening, closing, quote, delimiter, if_false, Bool.false_eq_true] at passed stuck ⊢
    rcases classify_atom (character :: rest.takeWhile fun next => !Atom.isDelimiter next) with
      ⟨error, classified, read⟩ | ⟨lexeme, value, classified, read, contributes⟩
    · rw [classified] at stuck
      rw [read]
      exact stuck rfl (.number error)
    · rw [classified] at passed
      rw [read]
      refine passed rfl ?_ contributes
      rw [List.cons_append, List.takeWhile_append_dropWhile]

/-- A text has the tokens that it has behind the gap at its start. -/
theorem scan_behind_gap {text rest : List Char} {position : Position}
    (marks : position.Marks text rest) :
    ∃ here, here.Marks text (Reader.skipGap false rest) ∧
      scan position rest = scan here (Reader.skipGap false rest) := by
  obtain ⟨gap, split, same⟩ := scan_skipGap position rest
  rw [split] at marks
  exact ⟨position.after gap, marks.after, same⟩

/-- At the end of a text reading finds nothing, and the last token stands there. -/
theorem scan_end {text rest : List Char} {position : Position} (marks : position.Marks text rest)
    (skipped : Reader.skipGap false rest = []) :
    ∃ here, here.Marks text [] ∧ scan position rest = .ok [⟨.endOfInput, here⟩] := by
  obtain ⟨here, place, same⟩ := scan_behind_gap marks
  rw [skipped] at place same
  refine ⟨here, place, ?_⟩
  rw [same, scan]

/-- Behind a gap, cutting goes on as at the item that is read there. -/
theorem scan_next {text rest behind : List Char} {position : Position} {character : Char}
    (marks : position.Marks text rest)
    (skipped : Reader.skipGap false rest = character :: behind) :
    ∃ here, here.Marks text (character :: behind) ∧
      Continues text here (character :: behind) (Reader.item character behind)
        (scan position rest) := by
  obtain ⟨here, place, same⟩ := scan_behind_gap marks
  rw [skipped] at place same
  obtain ⟨noBlank, noComment⟩ := of_skipGap_eq_cons skipped
  refine ⟨here, place, ?_⟩
  rw [same]
  exact scan_item place noBlank noComment

/-- Where an item is read, a token that contributes it stands before the other tokens. -/
theorem exists_token_of_item {text rest behind after : List Char} {position : Position}
    {character : Char} {found : Reader.Item} (marks : position.Marks text rest)
    (skipped : Reader.skipGap false rest = character :: behind)
    (read : Reader.item character behind = .ok (found, after)) :
    ∃ lexeme here there, lexeme.item? = some found ∧ here.Marks text (character :: behind) ∧
      there.Marks text after ∧
      scan position rest = (scan there after).map (⟨lexeme, here⟩ :: ·) := by
  obtain ⟨here, place, next⟩ := scan_next marks skipped
  rw [read] at next
  generalize scan position rest = cut at next ⊢
  cases next with
  | item contributes behind => exact ⟨_, here, _, contributes, place, behind, rfl⟩

/-- Where no item can be read, the text cannot be cut either. -/
theorem scan_of_item_error {text rest behind : List Char} {position : Position}
    {character : Char} {failure : Reader.Failure} (marks : position.Marks text rest)
    (skipped : Reader.skipGap false rest = character :: behind)
    (failed : Reader.item character behind = .error failure) :
    (∃ error, failure = .number error ∧ scan position rest = .error (.number error)) ∨
      ∃ cause reported here, failure = .malformed cause (character :: behind) ∧
        here.Marks text (character :: behind) ∧
        scan position rest = .error (.lexical reported here) := by
  obtain ⟨here, place, next⟩ := scan_next marks skipped
  rw [failed] at next
  generalize scan position rest = cut at next ⊢
  cases next with
  | malformed cause reported => exact Or.inr ⟨cause, reported, here, rfl, place, rfl⟩
  | number error => exact Or.inl ⟨error, rfl, rfl⟩

end SandboxLisp.Token
