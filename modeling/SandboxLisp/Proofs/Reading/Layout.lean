import SandboxLisp.Proofs.Reading.Cutting

/-!
# The layout of a text

A text that is cut into tokens is laid out as their spellings, with nothing but blanks and comments
between them.  `Laid` says so together with the offsets at which the spellings start, and the
positions of the tokens are those of the offsets.  A text that cannot be cut is laid out up to the
place where cutting gets stuck.

`piece_passes` says once what can become of the piece at a place, `Ends.pass` carries the layout
over one piece, and `scan_ends` over all of them.
-/

namespace SandboxLisp

namespace Position

/-- A position that is at most another is before what the other is before. -/
theorem before_of_before_atMost {first second third : Position} (below : first.before second = true)
    (low : second.AtMost third) : first.before third = true := by
  rcases low with rfl | low
  · exact below
  · rw [before_iff] at below low ⊢
    omega

/-- The position of an offset of a text is the one behind what stands before the offset. -/
theorem ofOffset_eq_after {text : List Char} {offset : Nat} (inside : offset ≤ text.length) :
    ofOffset text offset = start.after (text.take offset) := by
  have place := ofOffset_append (text.take offset) (text.drop offset)
  rwa [List.take_append_drop, List.length_take_of_le inside] at place

/-- A later offset has a later position. -/
theorem ofOffset_before {text : List Char} {first second : Nat} (less : first < second)
    (inside : second ≤ text.length) :
    (ofOffset text first).before (ofOffset text second) = true := by
  have between : text.take second = text.take first ++ (text.take second).drop first := by
    conv_lhs => rw [← List.take_append_drop first (text.take second)]
    rw [List.take_take, Nat.min_eq_left (Nat.le_of_lt less)]
  have inside' : first ≤ text.length := Nat.le_trans (Nat.le_of_lt less) inside
  rw [ofOffset_eq_after inside', ofOffset_eq_after inside, between, after_append]
  cases passed : (text.take second).drop first with
  | nil =>
    have length := congrArg List.length passed
    simp only [List.length_drop, List.length_take_of_le inside, List.length_nil] at length
    omega
  | cons character rest =>
    exact before_of_before_atMost (before_next _ character) (le_after _ rest)

end Position

namespace Token

/-! ### Gaps, spellings and layouts -/

/-- What stands between tokens, in front of a text: blanks, and comments that run to the end of
their line. -/
inductive Gap (after : List Char) : List Char → Prop where
  | nil : Gap after []
  | blank {character : Char} {gap : List Char} (blank : Text.isBlank character = true)
      (rest : Gap after gap) : Gap after (character :: gap)
  | comment {words gap : List Char} (line : '\n' ∉ words)
      (ends : ∀ next ∈ (gap ++ after).head?, next = '\n') (rest : Gap after gap) :
      Gap after (';' :: (words ++ gap))

/-- What can stand between the quotes of a string: no quote without a backslash before it, and
something behind every backslash. -/
inductive IsBody : List Char → Prop where
  | nil : IsBody []
  | escaped (character : Char) {body : List Char} (rest : IsBody body) :
      IsBody ('\\' :: character :: body)
  | plain {character : Char} {body : List Char} (noQuote : character ≠ '"')
      (noBackslash : character ≠ '\\') (rest : IsBody body) : IsBody (character :: body)

/-- A lexeme is spelled in front of a text. -/
inductive Spells (after : List Char) : List Char → Lexeme → Prop where
  | leftParen : Spells after ['('] .leftParen
  | rightParen : Spells after [')'] .rightParen
  | string {body : List Char} (isBody : IsBody body) :
      Spells after ('"' :: (body ++ ['"'])) (.string (String.ofList (unescape body)))
  | atom {spelling : List Char} {lexeme : Lexeme} (isAtom : IsAtom spelling after)
      (spells : classify spelling = .ok lexeme) : Spells after spelling lexeme

/-- A text that starts at an offset, and that another text follows, is laid out as the spellings of
lexemes at their offsets with gaps around them. -/
inductive Laid (behind : List Char) : Nat → List Char → List (Nat × Lexeme) → Prop where
  | gap {offset : Nat} {gap : List Char} (between : Gap behind gap) : Laid behind offset gap []
  | lexeme {offset : Nat} {gap spelling rest : List Char} {lexeme : Lexeme}
      {others : List (Nat × Lexeme)} (between : Gap (spelling ++ rest ++ behind) gap)
      (spells : Spells (rest ++ behind) spelling lexeme)
      (laid : Laid behind (offset + gap.length + spelling.length) rest others) :
      Laid behind offset (gap ++ spelling ++ rest) ((offset + gap.length, lexeme) :: others)

/-- Why no token starts at a place: there is a square bracket, or a quote that no other one
closes. -/
inductive Stuck : Cause → List Char → Prop where
  | bracket {character : Char} (square : character = '[' ∨ character = ']') (rest : List Char) :
      Stuck (.unexpectedCharacter character) (character :: rest)
  | quote {rest : List Char}
      (unclosed : ∀ body after, rest = body ++ '"' :: after → ¬ IsBody body) :
      Stuck .unterminatedString ('"' :: rest)

/-- The token of a lexeme at an offset of a text. -/
def placedIn (text : List Char) (place : Nat × Lexeme) : Token :=
  ⟨place.2, .ofOffset text place.1⟩

variable {after : List Char}

/-- Every spelling has a character. -/
theorem Spells.ne_nil {spelling : List Char} {lexeme : Lexeme}
    (spells : Spells after spelling lexeme) : spelling ≠ [] := by
  cases spells with
  | atom isAtom => exact isAtom.ne_nil
  | _ => exact List.cons_ne_nil _ _

/-- Two gaps in a row are one. -/
theorem Gap.append {first second : List Char} (one : Gap (second ++ after) first)
    (other : Gap after second) : Gap after (first ++ second) := by
  induction one with
  | nil => exact other
  | blank blank _ ih => exact .blank blank ih
  | comment line ends _ ih =>
    rw [List.cons_append, List.append_assoc]
    exact .comment line (by rwa [List.append_assoc]) ih

/-- A run of blanks is a gap. -/
theorem gap_of_blanks {spelling : List Char}
    (blanks : ∀ c ∈ spelling, Text.isBlank c = true) : Gap after spelling := by
  induction spelling with
  | nil => exact .nil
  | cons character rest ih =>
    obtain ⟨blank, others⟩ := List.forall_mem_cons.mp blanks
    exact .blank blank (ih others)

/-- What runs from a semicolon to the end of the line is a gap. -/
theorem gap_of_comment (rest : List Char) :
    Gap (rest.dropWhile (· != '\n')) (';' :: rest.takeWhile (· != '\n')) := by
  have line : '\n' ∉ rest.takeWhile (· != '\n') := by
    intro isWord
    cases List.mem_takeWhile_imp isWord
  rw [← List.append_nil (rest.takeWhile _)]
  refine .comment line (fun next starts => ?_) .nil
  rw [List.nil_append] at starts
  simpa using Text.not_of_head?_dropWhile starts

namespace Laid

variable {behind text gap : List Char} {offset : Nat} {placed : List (Nat × Lexeme)}

/-- A gap may stand before a text that is laid out. -/
theorem behind_gap (between : Gap (text ++ behind) gap)
    (laid : Laid behind (offset + gap.length) text placed) :
    Laid behind offset (gap ++ text) placed := by
  cases laid with
  | gap other => exact .gap (between.append other)
  | @lexeme _ gap' spelling rest lexeme others other spells laid =>
    have both : Gap (spelling ++ rest ++ behind) (gap ++ gap') := by
      refine Gap.append ?_ other
      simpa only [List.append_assoc] using between
    have lengths : offset + gap.length + gap'.length = offset + (gap ++ gap').length := by
      rw [List.length_append, Nat.add_assoc]
    rw [lengths] at laid ⊢
    have whole := Laid.lexeme both spells laid
    simpa only [List.append_assoc] using whole

/-- A spelling may stand before a text that is laid out. -/
theorem behind_lexeme {spelling : List Char} {lexeme : Lexeme}
    (spells : Spells (text ++ behind) spelling lexeme)
    (laid : Laid behind (offset + spelling.length) text placed) :
    Laid behind offset (spelling ++ text) ((offset, lexeme) :: placed) := by
  have whole : Laid behind offset ([] ++ spelling ++ text) _ := .lexeme .nil spells laid
  exact whole

/-- The spellings start inside of the text, each behind the one before. -/
theorem offsets (laid : Laid behind offset text placed) :
    (∀ start ∈ placed.map Prod.fst, offset ≤ start ∧ start < offset + text.length) ∧
      (placed.map Prod.fst).Pairwise (· < ·) := by
  induction laid with
  | gap => exact ⟨nofun, .nil⟩
  | @lexeme offset gap spelling rest lexeme others _ spells _ ih =>
    obtain ⟨inside, increasing⟩ := ih
    have positive : 0 < spelling.length := List.length_pos_iff.mpr spells.ne_nil
    simp only [List.map_cons, List.forall_mem_cons, List.length_append, List.pairwise_cons]
    refine ⟨⟨by omega, fun start isStart => ?_⟩, fun start isStart => ?_, increasing⟩
    · have bounds := inside start isStart
      omega
    · have bounds := inside start isStart
      omega

/-- The starts of the spellings and the end of the text increase. -/
theorem offsets_increase (laid : Laid behind offset text placed) :
    (placed.map Prod.fst ++ [offset + text.length]).Pairwise (· < ·) := by
  obtain ⟨inside, increasing⟩ := laid.offsets
  refine List.pairwise_append.mpr ⟨increasing, List.pairwise_singleton _ _, ?_⟩
  intro start isStart last isLast
  rw [List.mem_singleton.mp isLast]
  exact (inside start isStart).2

end Laid

/-! ### One piece -/

/-- What stands before the quote that closes a string is its content. -/
theorem isBody_of_literalBody? {rest body : List Char}
    (found : literalBody? rest = some (body, after)) : IsBody body := by
  fun_induction literalBody? rest generalizing body after with
  | case1 => cases found
  | case2 =>
    cases found
    exact .nil
  | case3 => cases found
  | case4 escaped rest ih =>
    obtain ⟨parts, inner, same⟩ := Option.map_eq_some_iff.1 found
    cases same
    exact .escaped escaped (ih inner)
  | case5 character rest noQuote noEnd noEscape ih =>
    obtain ⟨parts, inner, same⟩ := Option.map_eq_some_iff.1 found
    cases same
    refine .plain noQuote ?_ (ih inner)
    -- Whether something follows a backslash or not, it belongs to an earlier case.
    intro same
    cases rest with
    | nil => exact noEnd same rfl
    | cons escaped after => exact noEscape escaped after same rfl

/-- The first quote that can close a string does. -/
theorem literalBody?_of_isBody {body : List Char} (isBody : IsBody body) (after : List Char) :
    literalBody? (body ++ '"' :: after) = some (body, after) := by
  induction isBody with
  | nil => rfl
  | escaped character _ ih => simp [literalBody?, ih]
  | plain noQuote noBackslash _ ih => simp [literalBody?, noBackslash, ih]

/-- A delimiter that starts neither a gap nor a token is a square bracket. -/
theorem square_of_isDelimiter {character : Char} (delimiter : Atom.isDelimiter character = true)
    (noBlank : ¬ Text.isBlank character = true) (noComment : character ≠ ';')
    (noOpening : character ≠ '(') (noClosing : character ≠ ')') (noQuote : character ≠ '"') :
    character = '[' ∨ character = ']' := by
  simpa [Atom.isDelimiter, Atom.punctuation, noBlank, noComment, noOpening, noClosing, noQuote]
    using delimiter

/-- A piece in front of a text is a gap or spells its lexeme. -/
inductive Piece.Fits (after : List Char) : Piece → Prop where
  | gap {spelling : List Char} (between : Gap after spelling) : Fits after ⟨none, spelling⟩
  | lexeme {lexeme : Lexeme} {spelling : List Char} (spells : Spells after spelling lexeme) :
      Fits after ⟨some lexeme, spelling⟩

/-- What becomes of the piece at the start of a text: it fits in front of what follows it, or
cutting is stuck there, or a numeral is too long. -/
inductive Passes (position : Position) (text : List Char) :
    Except Error (Piece × List Char) → Prop where
  | fits {found : Piece} {after : List Char} (split : text = found.spelling ++ after)
      (fits : found.Fits after) : Passes position text (.ok (found, after))
  | stuck {cause : Cause} (stuck : Stuck cause text) :
      Passes position text (.error (.lexical cause position))
  | number (error : NumberError) : Passes position text (.error (.number error))

theorem piece_passes (position : Position) (character : Char) (rest : List Char) :
    Passes position (character :: rest) (piece position character rest) := by
  have run (test : Char → Bool) :
      character :: rest = (character :: rest.takeWhile test) ++ rest.dropWhile test := by
    rw [List.cons_append, List.takeWhile_append_dropWhile]
  unfold piece
  by_cases blank : Text.isBlank character = true
  · rw [if_pos blank]
    refine .fits (run Text.isBlank) (.gap (gap_of_blanks ?_))
    exact List.forall_mem_cons.mpr ⟨blank, fun _ => List.mem_takeWhile_imp⟩
  rw [if_neg blank]
  by_cases comment : character = ';'
  · subst comment
    rw [if_pos rfl]
    exact .fits (run (· != '\n')) (.gap (gap_of_comment rest))
  rw [if_neg comment]
  by_cases opening : character = '('
  · subst opening
    exact .fits rfl (.lexeme .leftParen)
  rw [if_neg opening]
  by_cases closing : character = ')'
  · subst closing
    exact .fits rfl (.lexeme .rightParen)
  rw [if_neg closing]
  by_cases quote : character = '"'
  · subst quote
    rw [if_pos rfl]
    cases closed : literalBody? rest with
    | none =>
      refine .stuck (.quote ?_)
      rintro body after rfl isBody
      cases closed.symm.trans (literalBody?_of_isBody isBody after)
    | some parts =>
      obtain ⟨body, after⟩ := parts
      refine .fits ?_ (.lexeme (.string (isBody_of_literalBody? closed)))
      simp [eq_append_of_literalBody? closed]
  rw [if_neg quote]
  by_cases delimiter : Atom.isDelimiter character = true
  · rw [if_pos delimiter]
    have square := square_of_isDelimiter delimiter blank comment opening closing quote
    exact .stuck (.bracket square rest)
  rw [if_neg delimiter]
  have isAtom := isAtom_takeWhile rest delimiter
  dsimp only
  cases spells : classify (character :: rest.takeWhile fun next => !Atom.isDelimiter next) with
  | error error => exact .number error
  | ok lexeme => exact .fits (run _) (.lexeme (.atom isAtom spells))

/-! ### All pieces -/

/-- How cutting a text ends that starts at an offset of a whole one: with the tokens of its layout
and one for the end, at the end of what is laid out because it is stuck, or for the sake of a
number. -/
inductive Ends (whole : List Char) (offset : Nat) (text : List Char) :
    Except Error (List Token) → Prop where
  | accepted {placed : List (Nat × Lexeme)} (laid : Laid [] offset text placed) :
      Ends whole offset text
        (.ok (placed.map (placedIn whole) ++ [placedIn whole (whole.length, .endOfInput)]))
  | stuck {cut rest : List Char} {placed : List (Nat × Lexeme)} {cause : Cause}
      (split : text = cut ++ rest) (laid : Laid rest offset cut placed) (stuck : Stuck cause rest) :
      Ends whole offset text (.error (.lexical cause (.ofOffset whole (offset + cut.length))))
  | number (error : NumberError) : Ends whole offset text (.error (.number error))

/-- A piece that fits is laid out before a text, at a place of its own if it spells a lexeme. -/
theorem Piece.Fits.laid {found : Piece} {text behind : List Char} {offset : Nat}
    {placed : List (Nat × Lexeme)} (fits : found.Fits (text ++ behind))
    (laid : Laid behind (offset + found.spelling.length) text placed) (whole : List Char) :
    ∃ places, Laid behind offset (found.spelling ++ text) places ∧
      places.map (placedIn whole) =
        found.precede (.ofOffset whole offset) (placed.map (placedIn whole)) := by
  cases fits with
  | gap between => exact ⟨placed, laid.behind_gap between, rfl⟩
  | @lexeme lexeme spelling spells =>
    exact ⟨(offset, lexeme) :: placed, laid.behind_lexeme spells, rfl⟩

/-- The tokens behind a piece come before further ones. -/
theorem Piece.precede_append (piece : Piece) (position : Position) (tokens others : List Token) :
    piece.precede position (tokens ++ others) = piece.precede position tokens ++ others := by
  obtain ⟨lexeme | _, _⟩ := piece <;> rfl

/-- Cutting ends at a piece as it ends behind it. -/
theorem Ends.pass {whole after : List Char} {offset : Nat} {found : Piece}
    {outcome : Except Error (List Token)} (fits : found.Fits after)
    (ends : Ends whole (offset + found.spelling.length) after outcome) :
    Ends whole offset (found.spelling ++ after)
      (outcome.map (found.precede (.ofOffset whole offset))) := by
  cases ends with
  | accepted laid =>
    rw [← List.append_nil after] at fits
    obtain ⟨places, laid, same⟩ := fits.laid laid whole
    rw [Except.map, Piece.precede_append, ← same]
    exact .accepted laid
  | @stuck cut rest placed cause split laid stuck =>
    subst split
    obtain ⟨places, laid, _⟩ := fits.laid laid whole
    have ended : Ends whole offset (found.spelling ++ (cut ++ rest)) _ :=
      .stuck (List.append_assoc _ _ _).symm laid stuck
    rwa [List.length_append, ← Nat.add_assoc] at ended
  | number error => exact .number error

/-- How cutting ends at a place of a text. -/
theorem scan_ends {whole before text : List Char} (split : whole = before ++ text) :
    Ends whole before.length text (scan (.ofOffset whole before.length) text) := by
  generalize here : Position.ofOffset whole before.length = position
  fun_induction scan position text generalizing before with
  | case1 position =>
    have last : whole.length = before.length := by rw [split, List.append_nil]
    have ended : Ends whole before.length [] _ := .accepted (.gap .nil)
    rwa [List.map_nil, List.nil_append, placedIn, last, here] at ended
  | case2 position character rest error cut =>
    have passes := piece_passes position character rest
    rw [cut] at passes
    cases passes with
    | stuck stuck =>
      have ended : Ends whole before.length (character :: rest) _ := .stuck rfl (.gap .nil) stuck
      rwa [List.length_nil, Nat.add_zero, here] at ended
    | number => exact .number _
  | case3 position character rest found after cut ih =>
    have passes := piece_passes position character rest
    rw [cut] at passes
    cases passes with
    | fits parts fits =>
      have split' : whole = before ++ found.spelling ++ after := by
        rw [split, parts, List.append_assoc]
      have behind : Position.ofOffset whole (before ++ found.spelling).length =
          position.after found.spelling := by
        rw [← here, split', Position.ofOffset_append, Position.after_append, List.append_assoc,
          Position.ofOffset_append]
      have ended := ih split' behind
      rw [List.length_append] at ended
      rw [parts]
      subst here
      exact ended.pass fits

/-! ### The whole text -/

/-- Where an atom starts there is no delimiter. -/
theorem IsAtom.not_isDelimiter {character : Char} {rest spelling after : List Char}
    (isAtom : IsAtom spelling after) (split : character :: rest = spelling ++ after) :
    Atom.isDelimiter character = false := by
  cases spelling with
  | nil => exact absurd rfl isAtom.ne_nil
  | cons first others =>
    cases split
    exact isAtom.plain _ (.head _)

/-- Where cutting is stuck no token starts. -/
theorem Stuck.not_spells {cause : Cause} {spelling after : List Char}
    (stuck : Stuck cause (spelling ++ after)) (lexeme : Lexeme) :
    ¬ Spells after spelling lexeme := by
  intro spells
  generalize split : spelling ++ after = rest at stuck
  cases stuck with
  | bracket square rest =>
    cases spells with
    | atom isAtom =>
      have plain := isAtom.not_isDelimiter split.symm
      rcases square with rfl | rfl <;> cases plain
    | _ =>
      cases split
      simp at square
  | quote unclosed =>
    cases spells with
    | leftParen => cases split
    | rightParen => cases split
    | @string body isBody =>
      refine unclosed body after ?_ isBody
      simpa using (List.cons.inj split).2.symm
    | atom isAtom => cases isAtom.not_isDelimiter split.symm

/-- A text that can be cut is laid out as the spellings of its tokens at increasing offsets, with
blanks and comments between them, each token is at the position of its offset, and the last one at
the position of the end.  A text that cannot be cut is laid out so up to the first place where no
token starts, and the failure is at the position of that place.  Positions increase with the
offsets, so each one is that of one offset only. -/
theorem tokenize_layout (text : List Char) :
    (∀ tokens, tokenize text = .ok tokens → ∃ placed : List (Nat × Lexeme),
      let places := placed ++ [(text.length, .endOfInput)]
      Laid [] 0 text placed ∧ (places.map Prod.fst).Pairwise (· < ·) ∧
        tokens = places.map (placedIn text)) ∧
    (∀ cause position, tokenize text = .error (.lexical cause position) →
      ∃ cut rest placed, text = cut ++ rest ∧ Laid rest 0 cut placed ∧ Stuck cause rest ∧
        (∀ spelling after lexeme, rest = spelling ++ after → ¬ Spells after spelling lexeme) ∧
        position = .ofOffset text cut.length) ∧
    ∀ first second, first < second → second ≤ text.length →
      (Position.ofOffset text first).before (.ofOffset text second) = true := by
  have ends : Ends text 0 text (tokenize text) := scan_ends (List.nil_append text).symm
  refine ⟨?_, ?_, fun _ _ => Position.ofOffset_before⟩
  · intro tokens cut
    rw [cut] at ends
    cases ends with
    | @accepted placed laid =>
      have increase := laid.offsets_increase
      rw [Nat.zero_add] at increase
      exact ⟨placed, laid, by simpa using increase, by simp⟩
  · intro cause position failed
    rw [failed] at ends
    cases ends with
    | @stuck cut rest placed _ split laid stuck =>
      refine ⟨cut, rest, placed, split, laid, stuck, ?_, by rw [Nat.zero_add]⟩
      rintro spelling after lexeme rfl
      exact stuck.not_spells lexeme

/-- A comment with a bracket in it and a string that holds a line feed, and a quote that is not
closed on the second line. -/
theorem tokenize_layout_lines :
    let accepted := ['(', ';', ')', '\n', '"', '\n', '"', ')']
    let stuck := ['a', '\n', '"', 'b']
    let tokens : List Token := [⟨.leftParen, ⟨1, 1⟩⟩, ⟨.string "\n", ⟨2, 1⟩⟩,
      ⟨.rightParen, ⟨3, 2⟩⟩, ⟨.endOfInput, ⟨3, 3⟩⟩]
    (tokenize accepted = .ok tokens ∧ ∃ placed : List (Nat × Lexeme),
      let places := placed ++ [(8, .endOfInput)]
      Laid [] 0 accepted placed ∧ (places.map Prod.fst).Pairwise (· < ·) ∧
        tokens = places.map (placedIn accepted)) ∧
    (tokenize stuck = .error (.lexical .unterminatedString ⟨2, 1⟩) ∧
      ∃ cut rest placed, stuck = cut ++ rest ∧ Laid rest 0 cut placed ∧
        Stuck .unterminatedString rest ∧
        (∀ spelling after lexeme, rest = spelling ++ after → ¬ Spells after spelling lexeme) ∧
        ⟨2, 1⟩ = Position.ofOffset stuck cut.length) ∧
    0 < 2 ∧ 2 ≤ stuck.length ∧
      (Position.ofOffset stuck 0).before (.ofOffset stuck 2) = true := by
  intro accepted stuck tokens
  have cut : tokenize accepted = .ok tokens := by decide +kernel
  have failed : tokenize stuck = .error (.lexical .unterminatedString ⟨2, 1⟩) := by decide +kernel
  exact ⟨⟨cut, (tokenize_layout accepted).1 tokens cut⟩,
    ⟨failed, (tokenize_layout stuck).2.1 _ _ failed⟩,
    by decide, by decide, (tokenize_layout stuck).2.2 0 2 (by decide) (by decide)⟩

end Token

end SandboxLisp
