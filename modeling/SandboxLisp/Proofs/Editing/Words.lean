import SandboxLisp.Editor
import SandboxLisp.Proofs.Reading.Entries

/-!
# Words and the names of an index

A document is cut in two ways.  Tokens end at every blank and at brackets, and their positions count
line feeds; words end at a few breaks, and the lines that words are looked up in end at more
characters than the line feed.  The main statement is that both ways agree on the names of an index
exactly if a name stands between breaks of words and no line ends in front of it but at a line feed
(`hover_entry`).
-/

namespace SandboxLisp

namespace Text

/-! ### Lines -/

/-- Whether lines end only at line feeds, which may have a carriage return in front. -/
def plainLineEnds : List Char → Bool
  | [] => true
  | '\r' :: '\n' :: rest => plainLineEnds rest
  | character :: rest => (character == '\n' || !isLineEnd character) && plainLineEnds rest

/-- Characters that end a line are blanks. -/
theorem isBlank_of_isLineEnd {character : Char} (ends : isLineEnd character = true) :
    isBlank character = true := by
  simp only [isLineEnd, isBlank, Bool.or_eq_true, Bool.and_eq_true, decide_eq_true_eq,
    beq_iff_eq] at ends ⊢
  omega

/-- What stands in front of a character other than a line feed has plain line ends if all has. -/
theorem plainLineEnds_of_append {before rest : List Char} {character : Char}
    (plain : plainLineEnds (before ++ character :: rest) = true) (noFeed : character ≠ '\n') :
    plainLineEnds before = true := by
  fun_induction plainLineEnds before with
  | case1 => rfl
  | case2 before ih => exact ih plain
  | case3 first before noPair ih =>
    have single : ∀ tail, first = '\r' → before ++ character :: rest = '\n' :: tail → False := by
      rintro tail returns starts
      cases before with
      | nil => exact noFeed (List.cons.inj starts).1
      | cons next others =>
        obtain ⟨rfl, -⟩ := List.cons.inj starts
        exact noPair others returns rfl
    rw [List.cons_append, plainLineEnds.eq_3 _ _ single, Bool.and_eq_true] at plain
    rw [Bool.and_eq_true]
    exact ⟨plain.1, ih plain.2⟩

/-- A line feed ends a run of other characters. -/
theorem takeWhile_append_lineFeed (front back : List Char) :
    (front ++ '\n' :: back).takeWhile (· != '\n') = front.takeWhile (· != '\n') := by
  induction front with
  | nil => rfl
  | cons first rest ih => simp only [List.cons_append, List.takeWhile_cons, ih]

theorem linesFrom_cons {character : Char} (noReturn : character ≠ '\r') (line rest : List Char) :
    linesFrom line (character :: rest) =
      if isLineEnd character then (character :: line).reverse :: linesFrom [] rest
      else linesFrom (character :: line) rest := by
  rw [linesFrom]
  exact fun _ returns => (noReturn returns).elim

/-- Behind a text with plain line ends, as many lines are complete as it has line feeds, and the
characters since the last one have begun a line. -/
theorem linesFrom_append {before line : List Char} (plain : plainLineEnds before = true)
    (begun : '\n' ∉ line) (rest : List Char) :
    ∃ complete, complete.length = before.count '\n' ∧
      linesFrom line (before ++ rest) =
        complete ++ linesFrom ((before.reverse ++ line).takeWhile (· != '\n')) rest := by
  -- Either a character goes on with the line that has begun, or it completes that line and the next
  -- one begins empty; so the line has to vary.
  fun_induction plainLineEnds before generalizing line with
  | case1 =>
    refine ⟨[], rfl, ?_⟩
    rw [List.reverse_nil, List.nil_append, List.nil_append, List.nil_append,
      List.takeWhile_eq_self_iff.mpr]
    exact fun c among => by simpa using ne_of_mem_of_not_mem among begun
  | case2 before ih =>
    obtain ⟨complete, count, rows⟩ := ih plain List.not_mem_nil
    refine ⟨('\n' :: '\r' :: line).reverse :: complete, by simp [count], ?_⟩
    rw [List.cons_append, List.cons_append, linesFrom, rows, List.cons_append]
    simp [takeWhile_append_lineFeed]
  | case3 first before noPair ih =>
    obtain ⟨single, others⟩ := (Bool.and_eq_true _ _).mp plain
    by_cases feed : first = '\n'
    · subst feed
      obtain ⟨complete, count, rows⟩ := ih others List.not_mem_nil
      refine ⟨('\n' :: line).reverse :: complete, by simp [count], ?_⟩
      have ends : isLineEnd '\n' = true := rfl
      rw [List.cons_append, linesFrom_cons (by decide), if_pos ends, rows, List.cons_append]
      simp [takeWhile_append_lineFeed]
    · have inside : isLineEnd first = false := by simpa [feed] using single
      have noReturn : first ≠ '\r' := by
        rintro rfl
        cases inside
      have begunNext : '\n' ∉ first :: line := by simp [Ne.symm feed, begun]
      obtain ⟨complete, count, rows⟩ := ih others begunNext
      refine ⟨complete, by simp [count, feed], ?_⟩
      rw [List.cons_append, linesFrom_cons noReturn, inside, if_neg Bool.false_ne_true, rows]
      simp

/-- Characters that end no line go on with the line that has begun. -/
theorem linesFrom_inside {spelling : List Char} (inside : ∀ c ∈ spelling, isLineEnd c = false)
    (line rest : List Char) :
    linesFrom line (spelling ++ rest) = linesFrom (spelling.reverse ++ line) rest := by
  induction spelling generalizing line with
  | nil => rfl
  | cons first behind ih =>
    have noReturn : first ≠ '\r' := by
      rintro rfl
      cases inside '\r' (.head _)
    have others := ih fun c among => inside c (.tail _ among)
    rw [List.cons_append, linesFrom_cons noReturn, inside first (.head _),
      if_neg Bool.false_ne_true, others]
    simp

/-- A line that has begun goes on with what follows. -/
theorem linesFrom_begun {line : List Char} (begun : line ≠ []) (rest : List Char) :
    ∃ tail more, linesFrom line rest = (line.reverse ++ tail) :: more ∧
      tail.head? = rest.head? := by
  fun_induction linesFrom line rest with
  | case1 line noLine => exact (begun (List.isEmpty_iff.mp noLine)).elim
  | case2 line someLine => exact ⟨[], [], by simp, rfl⟩
  | case3 line rest ih => exact ⟨['\r', '\n'], linesFrom [] rest, by simp, rfl⟩
  | case4 line character rest noPair ends ih =>
    exact ⟨[character], linesFrom [] rest, by simp, rfl⟩
  | case5 line character rest noPair inside ih =>
    obtain ⟨tail, more, rows, -⟩ := ih (List.cons_ne_nil _ _)
    exact ⟨character :: tail, more, by simp [rows], rfl⟩

/-- The line with a spelling that ends no line, if the lines in front are plain. -/
theorem exists_line {before spelling : List Char} (plain : plainLineEnds before = true)
    (something : spelling ≠ []) (inside : ∀ c ∈ spelling, isLineEnd c = false) (after : List Char) :
    ∃ tail, (lines (before ++ spelling ++ after))[before.count '\n']? =
        some ((before.reverse.takeWhile (· != '\n')).reverse ++ spelling ++ tail) ∧
      tail.head? = after.head? := by
  obtain ⟨complete, count, rows⟩ :=
    linesFrom_append plain List.not_mem_nil (spelling ++ after)
  have begun : spelling.reverse ++ before.reverse.takeWhile (· != '\n') ≠ [] := by
    simp [something]
  obtain ⟨tail, more, here, starts⟩ := linesFrom_begun begun after
  refine ⟨tail, ?_, starts⟩
  rw [lines, List.append_assoc, rows, List.append_nil, linesFrom_inside inside, here, ← count,
    List.getElem?_append_right (Nat.le_refl _)]
  simp

end Text

/-- A text cannot be cut into tokens from a square bracket on. -/
theorem Token.scan_bracket {character : Char} (bracket : character = '[' ∨ character = ']')
    (position : Position) (rest : List Char) :
    ∃ error, scan position (character :: rest) = .error error := by
  have stopped : piece position character rest =
      .error (.lexical (.unexpectedCharacter character) position) := by
    unfold piece
    rcases bracket with rfl | rfl <;> rfl
  exact ⟨_, scan_of_piece_error stopped⟩

namespace Document

/-! ### Words -/

/-- What ends no atom belongs to a word, for every break of words ends atoms. -/
theorem isWordCharacter_of_not_isDelimiter {character : Char}
    (plain : Atom.isDelimiter character = false) : isWordCharacter character = true := by
  by_contra breaks
  have among : character ∈ wordBreaks := by simpa [isWordCharacter] using breaks
  have delimit : wordBreaks.all Atom.isDelimiter = true := by decide
  rw [List.all_eq_true.mp delimit character among] at plain
  cases plain

/-- At every character of a spelling without breaks, and behind it, the word is the spelling with
the characters of words on both sides. -/
theorem wordIn_append {spelling : List Char} (inside : ∀ c ∈ spelling, isWordCharacter c = true)
    (left right : List Char) {distance : Nat} (within : distance ≤ spelling.length) :
    wordIn (left ++ spelling ++ right) (left.length + distance) =
      (left.reverse.takeWhile isWordCharacter).reverse ++ spelling ++
        right.takeWhile isWordCharacter := by
  have first : ∀ c ∈ (spelling.take distance).reverse, isWordCharacter c = true :=
    fun c among => inside c (List.mem_of_mem_take (List.mem_reverse.mp among))
  have second : ∀ c ∈ spelling.drop distance, isWordCharacter c = true :=
    fun c among => inside c (List.mem_of_mem_drop among)
  have front : (left ++ (spelling ++ right)).take (left.length + distance) =
      left ++ spelling.take distance := by
    rw [List.take_length_add_append, List.take_append_of_le_length within]
  have back : (left ++ (spelling ++ right)).drop (left.length + distance) =
      spelling.drop distance ++ right := by
    rw [List.drop_length_add_append, List.drop_append_of_le_length within]
  rw [wordIn, List.append_assoc, front, back, List.reverse_append,
    List.takeWhile_append_of_pos first, List.takeWhile_append_of_pos second, List.reverse_append,
    List.reverse_reverse, ← List.append_assoc, List.append_assoc _ _ (spelling.drop distance),
    List.take_append_drop]

/-- A run of characters of words is empty exactly if it cannot start. -/
theorem takeWhile_isWordCharacter_eq_nil_iff (characters : List Char) :
    characters.takeWhile isWordCharacter = [] ↔
      ∀ c ∈ characters.head?, isWordCharacter c = false := by
  cases characters with
  | nil => simp
  | cons first rest => simp [List.takeWhile_cons]

/-- Words do not reach over line feeds. -/
theorem takeWhile_sameLine (characters : List Char) :
    (characters.takeWhile (· != '\n')).takeWhile isWordCharacter =
      characters.takeWhile isWordCharacter := by
  rw [List.takeWhile_takeWhile]
  congr
  funext c
  by_cases feed : c = '\n'
  · subst feed
    rfl
  · simp [feed]

/-- The word at a place of a line. -/
theorem wordAt?_eq_iff {text : String} {place : Place} {line : List Char} {word : String}
    (here : (Text.lines text.toList)[place.line]? = some line) (something : word.toList ≠ []) :
    wordAt? text place = some word ↔ wordIn line place.character = word.toList := by
  unfold wordAt?
  rw [here]
  dsimp only
  split
  · next nothing => simp [nothing, Ne.symm something]
  · rw [Option.some_inj, ← String.toList_inj, String.toList_ofList]

/-! ### Names -/

/-- The place of the character at a distance behind a position. -/
def placeBehind (position : Position) (distance : Nat) : Place :=
  ⟨position.line - 1, position.column - 1 + distance⟩

/-- At every character of an atom with plain line ends in front, the word is that atom exactly if
no character of a word stands on either side. -/
theorem wordAt?_of_atomAt {text name : String} {before after : List Char}
    (atomAt : Token.AtomAt text.toList before name.toList after)
    (plain : Text.plainLineEnds before = true) {distance : Nat} (within : distance < name.length) :
    wordAt? text (placeBehind (Position.start.after before) distance) = some name ↔
      (∀ c ∈ before.getLast?, isWordCharacter c = false) ∧
        ∀ c ∈ after.head?, isWordCharacter c = false := by
  have endsNoLine : ∀ c ∈ name.toList, Text.isLineEnd c = false := by
    intro c among
    by_contra ends
    have blank := Text.isBlank_of_isLineEnd (eq_true_of_ne_false ends)
    have delimiter := atomAt.plain c among
    rw [Atom.isDelimiter, blank] at delimiter
    cases delimiter
  obtain ⟨tail, line, starts⟩ := Text.exists_line plain atomAt.ne_nil endsNoLine after
  rw [← atomAt.split] at line
  have inside : ∀ c ∈ name.toList, isWordCharacter c = true :=
    fun c among => isWordCharacter_of_not_isDelimiter (atomAt.plain c among)
  have word := wordIn_append inside (before.reverse.takeWhile (· != '\n')).reverse tail
    (Nat.le_of_lt (String.length_toList ▸ within))
  rw [List.reverse_reverse, takeWhile_sameLine, List.length_reverse] at word
  rw [Position.start_after, placeBehind, wordAt?_eq_iff line atomAt.ne_nil, Nat.add_sub_cancel,
    Nat.add_sub_cancel, word, ← starts, ← takeWhile_isWordCharacter_eq_nil_iff,
    ← List.head?_reverse, ← takeWhile_isWordCharacter_eq_nil_iff]
  constructor
  · intro same
    have lengths := congrArg List.length same
    simp only [List.length_append, List.length_reverse] at lengths
    exact ⟨List.length_eq_zero_iff.mp (by omega), List.length_eq_zero_iff.mp (by omega)⟩
  · rintro ⟨noneLeft, noneRight⟩
    rw [noneLeft, noneRight, List.reverse_nil, List.nil_append, List.append_nil]

/-- A blank next to the place of a spelling breaks words. -/
structure SetOff (before after : List Char) : Prop where
  left : ∀ c ∈ before.getLast?, Text.isBlank c = true → isWordCharacter c = false
  right : ∀ c ∈ after.head?, Text.isBlank c = true → isWordCharacter c = false

/-- Every blank of the text breaks words, and its lines end at line feeds only. -/
structure PlainlySpaced (text : List Char) : Prop where
  blanks : ∀ c ∈ text, Text.isBlank c = true → isWordCharacter c = false
  lineEnds : Text.plainLineEnds text = true

/-- What stands behind an atom in a text that can be cut into tokens is a blank or breaks words. -/
theorem blank_or_breaks_of_atomAt {text before spelling after : List Char} {tokens : List Token}
    (cut : Token.tokenize text = .ok tokens)
    (atomAt : Token.AtomAt text before spelling after) {next : Char}
    (follows : next ∈ after.head?) :
    Text.isBlank next = true ∨ isWordCharacter next = false := by
  obtain ⟨rest, rfl⟩ := List.head?_eq_some_iff.mp follows
  rcases (Bool.or_eq_true _ _).mp (atomAt.ends next rfl) with blank | punctuation
  · exact .inl blank
  · -- A square bracket ends an atom and breaks no word, but no text is cut into tokens at one.
    have unlessBracket (bracket : next = '[' ∨ next = ']') : False := by
      obtain ⟨earlier, same⟩ := atomAt.reached.tokenize_eq
      obtain ⟨error, stopped⟩ :=
        Token.scan_bracket bracket ((Position.start.after before).after spelling) rest
      rw [cut, Token.scan_of_isAtom atomAt.toIsAtom, stopped] at same
      cases spells : Token.classify spelling <;> rw [spells] at same <;> cases same
    simp only [Atom.punctuation, List.contains_cons, Bool.or_eq_true, beq_iff_eq] at punctuation
    refine .inr ?_
    rcases punctuation with rfl | rfl | rfl | rfl | bracket | bracket | none
    iterate 4 rfl
    · exact (unlessBracket (.inl bracket)).elim
    · exact (unlessBracket (.inr bracket)).elim
    · cases none

/-- What stands in front of an atom is a blank or breaks words. -/
theorem blank_or_breaks_of_partsLeft {character : Char}
    (parts : Token.partsLeft character = true) :
    Text.isBlank character = true ∨ isWordCharacter character = false := by
  rcases (Bool.or_eq_true _ _).mp parts with blank | token
  · exact .inl blank
  · simp only [List.contains_cons, Bool.or_eq_true, beq_iff_eq] at token
    refine .inr ?_
    rcases token with rfl | rfl | rfl | none
    iterate 3 rfl
    cases none

/-- Between tokens, no character of a word stands next to an atom exactly if no blank there is
one. -/
theorem setOff_iff {text before spelling after : List Char} {tokens : List Token}
    (cut : Token.tokenize text = .ok tokens) (atomAt : Token.AtomAt text before spelling after) :
    SetOff before after ↔ (∀ c ∈ before.getLast?, isWordCharacter c = false) ∧
      ∀ c ∈ after.head?, isWordCharacter c = false := by
  constructor
  · rintro ⟨left, right⟩
    refine ⟨fun c among => ?_, fun c among => ?_⟩
    · rcases blank_or_breaks_of_partsLeft (atomAt.partsLeft c among) with blank | breaks
      · exact left c among blank
      · exact breaks
    · rcases blank_or_breaks_of_atomAt cut atomAt among with blank | breaks
      · exact right c among blank
      · exact breaks
  · rintro ⟨left, right⟩
    exact ⟨fun c among _ => left c among, fun c among _ => right c among⟩

/-- The names of an index and the words of its text.  If every blank of the text breaks words and
its lines end at line feeds, the word at each character of a name in the index is that name, and the
usage line or the binding of the name is shown there.  Otherwise this still holds of a name with
plain line ends in front, exactly if the blanks next to it break words; and wherever the word is the
name, its usage line or its binding is shown. -/
theorem hover_entry (text : String) (document : Document) (indexed : ofText text = .ok document)
    (name : String) (binding : Binding) (listed : (name, binding) ∈ document.index.symbols) :
    (PlainlySpaced text.toList → ∀ distance < name.length,
      wordAt? text (placeBehind binding.position distance) = some name ∧
        document.hover? (placeBehind binding.position distance) =
          some ((Usage.of? name).getD (describe name binding))) ∧
    (∃ before after, text.toList = before ++ name.toList ++ after ∧
      binding.position = Position.start.after before ∧
      (Text.plainLineEnds before = true → ∀ distance < name.length,
        (wordAt? text (placeBehind binding.position distance) = some name ↔
          SetOff before after))) ∧
    ∀ place, wordAt? text place = some name →
      document.hover? place = some ((Usage.of? name).getD (describe name binding)) := by
  obtain ⟨index, built, rfl⟩ := ofText_eq_ok_iff.mp indexed
  obtain ⟨tokens, cut, entries⟩ := Index.entries_of_build built listed
  obtain ⟨before, after, atomAt, here⟩ := Index.exists_atomAt_of_entry built listed
  have shown : ∀ place, wordAt? text place = some name →
      hover? ⟨text, index⟩ place = some ((Usage.of? name).getD (describe name binding)) := by
    intro place word
    have found : Table.get? index.symbols name = some binding := entries.found _ listed
    rw [hover?, word, Option.bind_some, hoverWord?, found]
    cases Usage.of? name <;> rfl
  have agrees (plain : Text.plainLineEnds before = true) (distance : Nat)
      (within : distance < name.length) :
      wordAt? text (placeBehind binding.position distance) = some name ↔ SetOff before after := by
    rw [setOff_iff cut atomAt, here, wordAt?_of_atomAt atomAt plain within]
  refine ⟨fun spaced distance within => ?_, ⟨before, after, atomAt.split, here, agrees⟩, shown⟩
  have plain : Text.plainLineEnds before = true := by
    obtain ⟨first, others, spelled⟩ := List.exists_cons_of_ne_nil atomAt.ne_nil
    have noFeed : first ≠ '\n' := by
      rintro rfl
      cases atomAt.plain '\n' (spelled ▸ .head _)
    have lineEnds := spaced.lineEnds
    rw [atomAt.split, spelled, List.append_assoc, List.cons_append] at lineEnds
    exact Text.plainLineEnds_of_append lineEnds noFeed
  have setOff : SetOff before after := by
    refine ⟨fun c among => spaced.blanks c ?_, fun c among => spaced.blanks c ?_⟩ <;>
      rw [atomAt.split]
    · simp [List.mem_of_getLast? among]
    · simp [List.mem_of_head? among]
  have word := (agrees plain distance within).mpr setOff
  exact ⟨word, shown _ word⟩

/-- A document whose second line starts behind a carriage return and a line feed. -/
def spacedText : String := "(define s \"a b\") ; x\r\n\t(let ((total 1)) total)"

/-- It binds one name on each line. -/
def spacedDocument : Document :=
  ⟨spacedText, [("s", ⟨.value, ⟨1, 9⟩⟩), ("total", ⟨.localName, ⟨2, 9⟩⟩)], [], 0, 2⟩

theorem hover_entry_spaced :
    ofText spacedText = .ok spacedDocument ∧
      ("total", ⟨.localName, ⟨2, 9⟩⟩) ∈ spacedDocument.index.symbols ∧
      PlainlySpaced spacedText.toList ∧
      (∀ distance < 5, wordAt? spacedText ⟨1, 8 + distance⟩ = some "total" ∧
        spacedDocument.hover? ⟨1, 8 + distance⟩ = some "total: local (defined at 2:9)") := by
  have built : Index.build spacedText.toList = .ok spacedDocument.index := by decide +kernel
  have indexed : ofText spacedText = .ok spacedDocument := ofText_eq_ok_iff.mpr ⟨_, built, rfl⟩
  have listed : ("total", ⟨.localName, ⟨2, 9⟩⟩) ∈ spacedDocument.index.symbols := by decide
  have blanks : (spacedText.toList.all fun c => !Text.isBlank c || !isWordCharacter c) = true := by
    decide +kernel
  have spaced : PlainlySpaced spacedText.toList := by
    refine ⟨fun c among blank => ?_, by decide +kernel⟩
    simpa [blank] using List.all_eq_true.mp blanks c among
  have usage : Usage.of? "total" = none := by decide +kernel
  have shown : describe "total" ⟨.localName, ⟨2, 9⟩⟩ = "total: local (defined at 2:9)" := by
    decide +kernel
  refine ⟨indexed, listed, spaced, fun distance within => ?_⟩
  have agrees := (hover_entry spacedText spacedDocument indexed _ _ listed).1 spaced distance within
  rwa [usage, Option.getD_none, shown] at agrees

/-- A blank that breaks no word becomes part of the word. -/
example : wordAt? "(define\u00a0x 1)" ⟨0, 8⟩ = some "define\u00a0x" := by decide +kernel

/-- Positions do not count a line that ends at a vertical tab, so the wrong line is looked up. -/
example : wordAt? "1\x0b(define x 1)" ⟨0, 10⟩ = some "1\x0b" := by decide +kernel

end Document

end SandboxLisp
