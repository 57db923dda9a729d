import SandboxLisp.Proofs.Reading.Cutting
import SandboxLisp.Proofs.Reading.Forest

/-!
# The index of a text with more text below it

A text whose index has no problem is closed in every respect: it leaves no list open and no string,
and the line feed behind it ends the comment or the atom at its end.  So a text below it is cut and
read as it is by itself, some lines further down.  The main statement is that the index of both
together is made up of the two indexes.

Three things are followed over the line feed, each with its own lemma: the tokens (`scan_append`),
the expressions that are read (`readAll_append`), and the names that the tokens bind, of which the
first ones count (`adds_bindings`).
-/

namespace SandboxLisp

/-! ### Lines further down -/

/-- The place some lines further down in the same column. -/
def Position.down (lines : Nat) (position : Position) : Position :=
  ⟨position.line + lines, position.column⟩

/-- The token some lines further down. -/
def Token.down (lines : Nat) (token : Token) : Token :=
  ⟨token.lexeme, token.position.down lines⟩

/-- The failure some lines further down. -/
def Token.Error.down (lines : Nat) : Token.Error → Token.Error
  | .lexical cause position => .lexical cause (position.down lines)
  | .number error => .number error

/-- The entry of an index some lines further down. -/
def Binding.entryDown (lines : Nat) (entry : String × Binding) : String × Binding :=
  (entry.1, ⟨entry.2.kind, entry.2.position.down lines⟩)

/-- The problem some lines further down. -/
def Problem.down (lines : Nat) (problem : Problem) : Problem :=
  { problem with position := problem.position.down lines }

theorem Position.next_down (lines : Nat) (position : Position) (character : Char) :
    (position.down lines).next character = (position.next character).down lines := by
  by_cases feed : character = '\n'
  · simp [next, down, feed, Nat.add_right_comm]
  · simp [next, down, feed]

theorem Position.after_down (lines : Nat) (position : Position) (spelling : List Char) :
    (position.down lines).after spelling = (position.after spelling).down lines := by
  induction spelling generalizing position with
  | nil => rfl
  | cons character rest ih =>
    have moved := ih (position.next character)
    rw [← next_down] at moved
    exact moved

/-- Behind a text and a line feed the first column starts, below all lines of the text. -/
theorem Position.start_after_concat (before : List Char) :
    start.after (before ++ ['\n']) = start.down (before.count '\n' + 1) := by
  rw [after_append, start_after]
  simp [after, next, start, down, Nat.add_comm]

/-- Below a text and a line feed an offset is further down than in the text that starts there. -/
theorem Position.ofOffset_below (first second : List Char) (offset : Nat) :
    ofOffset (first ++ '\n' :: second) (first.length + 1 + offset) =
      (ofOffset second offset).down (first.count '\n' + 1) := by
  have front : (first ++ '\n' :: second).take (first.length + 1 + offset) =
      (first ++ ['\n']) ++ second.take offset := by
    have shape : first ++ '\n' :: second = (first ++ ['\n']) ++ second := by simp
    have count : first.length + 1 + offset = (first ++ ['\n']).length + offset := by simp
    rw [shape, count, List.take_length_add_append]
  have here : ofOffset (first ++ '\n' :: second) (first.length + 1 + offset) =
      start.after ((first ++ ['\n']) ++ second.take offset) := by
    rw [start_after, ofOffset, front]
  rw [here, after_append, start_after_concat, after_down, start_after, ofOffset]

namespace Token

theorem piece_down (lines : Nat) (position : Position) (character : Char) (rest : List Char) :
    piece (position.down lines) character rest =
      (piece position character rest).mapError (Error.down lines) := by
  unfold piece
  dsimp only
  repeat' split
  all_goals rfl

/-- A text further down has the same tokens further down, or fails in the same way there. -/
theorem scan_down (lines : Nat) (position : Position) (text : List Char) :
    scan (position.down lines) text =
      ((scan position text).map (List.map (down lines))).mapError (Error.down lines) := by
  fun_induction scan position text with
  | case1 position =>
    rw [scan]
    rfl
  | case2 position character rest error cut =>
    have failed := piece_down lines position character rest
    rw [cut] at failed
    rw [scan_of_piece_error failed]
    rfl
  | case3 position character rest found after cut ih =>
    have same := piece_down lines position character rest
    rw [cut] at same
    rw [scan_of_piece_ok same, Position.after_down, ih]
    obtain ⟨lexeme, spelling⟩ := found
    cases scan (position.after spelling) after with
    | error error => rfl
    | ok tokens => cases lexeme <;> rfl

/-! ### Tokens over a line feed -/

/-- A blank contributes no token, whether or not more blanks follow it. -/
theorem scan_of_blank {character : Char} (blank : Text.isBlank character = true)
    (position : Position) (rest : List Char) :
    scan position (character :: rest) = scan (position.next character) rest := by
  have run (position : Position) (character : Char) (rest : List Char)
      (blank : Text.isBlank character = true) : scan position (character :: rest) =
        scan (position.after (character :: rest.takeWhile Text.isBlank))
          (rest.dropWhile Text.isBlank) := by
    apply scan_of_gap
    unfold piece
    rw [if_pos blank]
  rw [run position character rest blank]
  cases rest with
  | nil => rfl
  | cons next behind =>
    by_cases blankNext : Text.isBlank next = true
    · rw [run _ next behind blankNext, List.takeWhile_cons_of_pos blankNext,
        List.dropWhile_cons_of_pos blankNext]
      rfl
    · rw [List.takeWhile_cons_of_neg blankNext, List.dropWhile_cons_of_neg blankNext]
      rfl

theorem scan_of_blanks {blanks : List Char} (blank : ∀ c ∈ blanks, Text.isBlank c = true)
    (position : Position) (rest : List Char) :
    scan position (blanks ++ rest) = scan (position.after blanks) rest := by
  induction blanks generalizing position with
  | nil => rfl
  | cons character others ih =>
    rw [List.cons_append, scan_of_blank (blank character (.head _)),
      ih fun c among => blank c (.tail _ among)]
    rfl

/-- A line feed ends what goes on up to a character of its kind. -/
theorem takeWhile_lineFeed (test : Char → Bool) (ends : test '\n' = false)
    (front back : List Char) :
    (front ++ '\n' :: back).takeWhile test = front.takeWhile test ∧
      (front ++ '\n' :: back).dropWhile test = front.dropWhile test ++ '\n' :: back := by
  induction front with
  | nil => simp [ends]
  | cons first rest ih =>
    by_cases goesOn : test first = true
    · simp [goesOn, ih]
    · simp [goesOn]

theorem literalBody?_append {rest body after : List Char}
    (found : literalBody? rest = some (body, after)) (more : List Char) :
    literalBody? (rest ++ more) = some (body, after ++ more) := by
  fun_induction literalBody? rest generalizing body after with
  | case1 => cases found
  | case2 rest =>
    cases found
    rfl
  | case3 => cases found
  | case4 escaped rest ih =>
    obtain ⟨parts, inner, same⟩ := Option.map_eq_some_iff.mp found
    cases same
    simp only [List.cons_append, literalBody?, ih inner, Option.map_some]
  | case5 character rest noQuote noEnd noEscape ih =>
    obtain ⟨parts, inner, same⟩ := Option.map_eq_some_iff.mp found
    cases same
    have noBackslash : character ≠ '\\' := by
      rintro rfl
      cases rest with
      | nil => exact noEnd rfl rfl
      | cons escaped others => exact noEscape escaped others rfl rfl
    rw [List.cons_append, literalBody?, ih inner]
    · rfl
    · exact noQuote
    · exact fun same => (noBackslash same).elim
    · exact fun _ _ same => (noBackslash same).elim

/-- In front of a line feed, every piece but a run of blanks ends where it ends anyway. -/
theorem piece_append {position : Position} {character : Char} {rest after : List Char}
    {found : Piece} (noBlank : Text.isBlank character = false)
    (cut : piece position character rest = .ok (found, after)) (more : List Char) :
    piece position character (rest ++ '\n' :: more) = .ok (found, after ++ '\n' :: more) := by
  have comment := takeWhile_lineFeed (· != '\n') rfl rest more
  have atom := takeWhile_lineFeed (!Atom.isDelimiter ·) rfl rest more
  unfold piece at cut ⊢
  simp only [noBlank, Bool.false_eq_true, if_false, comment, atom] at cut ⊢
  split
  · next isComment =>
    rw [if_pos isComment] at cut
    cases cut
    rfl
  next notComment =>
  rw [if_neg notComment] at cut
  split
  · next opening =>
    rw [if_pos opening] at cut
    cases cut
    rfl
  next notOpening =>
  rw [if_neg notOpening] at cut
  split
  · next closing =>
    rw [if_pos closing] at cut
    cases cut
    rfl
  next notClosing =>
  rw [if_neg notClosing] at cut
  split
  · next quote =>
    rw [if_pos quote] at cut
    cases closed : literalBody? rest with
    | none =>
      rw [closed] at cut
      cases cut
    | some parts =>
      rw [closed] at cut
      cases cut
      rw [literalBody?_append closed]
  next notQuote =>
  rw [if_neg notQuote] at cut
  split
  · next delimiter =>
    rw [if_pos delimiter] at cut
    cases cut
  next notDelimiter =>
  rw [if_neg notDelimiter] at cut
  split
  · next fails =>
    rw [fails] at cut
    cases cut
  · next spells =>
    rw [spells] at cut
    cases cut
    rfl

/-- The tokens of a text that can be cut stand in front of those of the text below it. -/
theorem scan_append {position : Position} {first : List Char} {tokens : List Token}
    (cut : scan position first = .ok tokens) (second : List Char) :
    ∃ passed here, tokens = passed ++ [⟨.endOfInput, here⟩] ∧
      scan position (first ++ '\n' :: second) =
        (scan (position.after (first ++ ['\n'])) second).map (passed ++ ·) := by
  fun_induction scan position first generalizing tokens with
  | case1 position =>
    cases cut
    refine ⟨[], position, rfl, ?_⟩
    rw [List.nil_append, scan_of_blank (by rfl)]
    cases later : scan (position.next '\n') second <;> simp [Position.after, later, Except.map]
  | case2 => cases cut
  | case3 position character rest found after cutHere ih =>
    obtain ⟨others, cutBehind, rfl⟩ : ∃ others,
        scan (position.after found.spelling) after = .ok others ∧
          tokens = found.precede position others := by
      cases later : scan (position.after found.spelling) after with
      | error error =>
        rw [later] at cut
        cases cut
      | ok others =>
        rw [later] at cut
        cases cut
        exact ⟨others, rfl, rfl⟩
    obtain ⟨passed, here, rfl, same⟩ := ih cutBehind
    have split := eq_append_of_piece cutHere
    have moved : position.after (character :: rest ++ ['\n']) =
        (position.after found.spelling).after (after ++ ['\n']) := by
      rw [split, ← Position.after_append, List.append_assoc]
    have pieceFirst : scan position (character :: rest ++ '\n' :: second) =
        (scan (position.after found.spelling) (after ++ '\n' :: second)).map
          (found.precede position) := by
      by_cases blank : Text.isBlank character = true
      -- A run of blanks may go on behind the line feed, so it is passed blank by blank.
      · unfold piece at cutHere
        rw [if_pos blank] at cutHere
        cases cutHere
        have blanks : ∀ c ∈ character :: rest.takeWhile Text.isBlank, Text.isBlank c = true := by
          intro c among
          rcases List.mem_cons.mp among with rfl | taken
          · exact blank
          · exact List.mem_takeWhile_imp taken
        rw [split, List.append_assoc, scan_of_blanks blanks]
        cases scan (position.after (character :: rest.takeWhile Text.isBlank))
          (rest.dropWhile Text.isBlank ++ '\n' :: second) <;> rfl
      · exact scan_of_piece_ok (piece_append (by simpa using blank) cutHere second)
    rw [pieceFirst, same, moved]
    refine ⟨found.precede position passed, here, ?_, ?_⟩
    · obtain ⟨lexeme, spelling⟩ := found
      cases lexeme <;> rfl
    · obtain ⟨lexeme, spelling⟩ := found
      cases scan ((position.after spelling).after (after ++ ['\n'])) second <;>
        cases lexeme <;> rfl

/-- Below a text that can be cut, a text is cut as it is by itself. -/
theorem tokenize_append {first : List Char} {tokens : List Token}
    (cut : tokenize first = .ok tokens) (second : List Char) :
    ∃ passed here, tokens = passed ++ [⟨.endOfInput, here⟩] ∧
      tokenize (first ++ '\n' :: second) =
        (((tokenize second).map (List.map (down (first.count '\n' + 1)))).mapError
          (Error.down (first.count '\n' + 1))).map (passed ++ ·) := by
  obtain ⟨passed, here, shape, same⟩ := scan_append cut second
  rw [Position.start_after_concat, scan_down] at same
  exact ⟨passed, here, shape, same⟩

end Token

/-! ### Expressions over a line feed -/

namespace Reader

/-- A text that is a gap ends at the line feed, and any other goes on as it does by itself. -/
theorem skipGap_append (inComment : Bool) (first second : List Char) :
    skipGap inComment (first ++ '\n' :: second) =
      match skipGap inComment first with
      | [] => skipGap false second
      | character :: rest => character :: (rest ++ '\n' :: second) := by
  induction first generalizing inComment with
  | nil => cases inComment <;> rfl
  | cons character rest ih =>
    rw [List.cons_append, skipGap, skipGap]
    cases inComment with
    | true => exact ih _
    | false =>
      by_cases blank : Text.isBlank character = true
      · simp only [blank, if_true]
        exact ih false
      · by_cases comment : character = ';'
        · simp only [comment, if_true]
          exact ih true
        · simp [blank, comment]

theorem stringBody?_append {rest body after : List Char}
    (found : stringBody? rest = some (body, after)) (more : List Char) :
    stringBody? (rest ++ more) = some (body, after ++ more) := by
  rw [Token.stringBody?_eq] at found ⊢
  obtain ⟨parts, closed, same⟩ := Option.map_eq_some_iff.mp found
  cases same
  rw [Token.literalBody?_append closed]
  rfl

/-- In front of a line feed an item is the one that is read anyway. -/
theorem item_append {character : Char} {rest after : List Char} {found : Item}
    (read : item character rest = .ok (found, after)) (more : List Char) :
    item character (rest ++ '\n' :: more) = .ok (found, after ++ '\n' :: more) := by
  have stops := Token.takeWhile_lineFeed (!Atom.isDelimiter ·) rfl rest more
  unfold item at read ⊢
  simp only [stops] at read ⊢
  split
  · next opening =>
    rw [if_pos opening] at read
    cases read
    rfl
  next notOpening =>
  rw [if_neg notOpening] at read
  split
  · next closing =>
    rw [if_pos closing] at read
    cases read
    rfl
  next notClosing =>
  rw [if_neg notClosing] at read
  split
  · next quote =>
    rw [if_pos quote] at read
    cases closed : stringBody? rest with
    | none =>
      rw [closed] at read
      cases read
    | some parts =>
      rw [closed] at read
      cases read
      rw [stringBody?_append closed]
  next notQuote =>
  rw [if_neg notQuote] at read
  split
  · next delimiter =>
    rw [if_pos delimiter] at read
    cases read
  next notDelimiter =>
  rw [if_neg notDelimiter] at read
  split
  · next fails =>
    rw [fails] at read
    cases read
  · next value spells =>
    rw [spells] at read
    cases read
    rfl

/-- The open list with more text behind what is left to read at its bracket. -/
def OpenList.followedBy (more : List Char) (openList : OpenList) : OpenList :=
  ⟨openList.start ++ more, openList.items⟩

/-- An expression that is read in front of a line feed is the one that is read anyway. -/
theorem expression_append {stack : List OpenList} {text after : List Char} {value : Datum}
    (read : expression stack text = .ok (value, after)) (more : List Char) :
    expression (stack.map (OpenList.followedBy ('\n' :: more))) (text ++ '\n' :: more) =
      .ok (value, after ++ '\n' :: more) := by
  fun_induction expression stack text with
  | case1 => cases read
  | case2 => cases read
  | case3 => cases read
  | case4 stack text character rest skipped after' found ih =>
    rw [expression_eq, skipGap_append, skipped]
    simp only [item_append found]
    exact ih read
  | case5 => cases read
  | case6 text character rest skipped after' found outermost =>
    cases read
    rw [expression_eq, skipGap_append, skipped]
    simp only [item_append found]
    rfl
  | case7 text character rest skipped after' found innermost next outer ih =>
    rw [expression_eq, skipGap_append, skipped]
    simp only [item_append found]
    exact ih read
  | case8 text character rest skipped value' after' found =>
    cases read
    rw [expression_eq, skipGap_append, skipped]
    simp only [item_append found]
    rfl
  | case9 text character rest skipped value' after' found innermost outer ih =>
    rw [expression_eq, skipGap_append, skipped]
    simp only [item_append found]
    exact ih read

/-- A failure is met where no more is left to read than at the start. -/
theorem length_le_of_item_error {character : Char} {rest left : List Char} {cause : Cause}
    (failed : item character rest = .error (.malformed cause left)) :
    left.length ≤ (character :: rest).length := by
  unfold item at failed
  repeat' split at failed
  all_goals cases failed
  all_goals exact Nat.le_refl _

theorem length_le_of_expression_error {stack : List OpenList} {text left : List Char}
    {cause : Cause} {bound : Nat} (inside : text.length ≤ bound)
    (opened : ∀ openList ∈ stack, openList.start.length ≤ bound)
    (failed : expression stack text = .error (.malformed cause left)) : left.length ≤ bound := by
  have shorter {text after : List Char} {character : Char} {rest : List Char} {found : Item}
      (inside : text.length ≤ bound) (skipped : skipGap false text = character :: rest)
      (read : item character rest = .ok (found, after)) :
      (character :: rest).length ≤ bound ∧ after.length ≤ bound := by
    have gap := length_skipGap_le false text
    have item := length_le_of_item read
    rw [skipped, List.length_cons] at gap
    rw [List.length_cons]
    omega
  fun_induction expression stack text with
  | case1 =>
    cases failed
    exact Nat.zero_le bound
  | case2 text skipped innermost outer =>
    cases failed
    exact opened innermost (.head _)
  | case3 stack text character rest skipped failure found =>
    cases failed
    have gap := length_skipGap_le false text
    have item := length_le_of_item_error found
    rw [skipped] at gap
    omega
  | case4 stack text character rest skipped after found ih =>
    obtain ⟨start, behind⟩ := shorter inside skipped found
    apply ih behind _ failed
    intro openList among
    rcases List.mem_cons.mp among with rfl | outside
    · exact start
    · exact opened openList outside
  | case5 text character rest skipped after found =>
    cases failed
    exact (shorter inside skipped found).1
  | case6 => cases failed
  | case7 text character rest skipped after found innermost next outer ih =>
    apply ih (shorter inside skipped found).2 _ failed
    intro openList among
    rcases List.mem_cons.mp among with rfl | outside
    · exact opened next (.tail _ (.head _))
    · exact opened openList (.tail _ (.tail _ outside))
  | case8 => cases failed
  | case9 text character rest skipped value after found innermost outer ih =>
    apply ih (shorter inside skipped found).2 _ failed
    intro openList among
    rcases List.mem_cons.mp among with rfl | outside
    · exact opened innermost (.head _)
    · exact opened openList (.tail _ outside)

/-- A failure below a text and a line feed is the same failure further down. -/
theorem locate_below (first second : List Char) (cause : Cause) {left : List Char}
    (inside : left.length ≤ second.length) :
    (Failure.malformed cause left).locate (first ++ '\n' :: second) =
      .malformed cause ((Position.ofOffset second (second.length - left.length)).down
        (first.count '\n' + 1)) := by
  have offset : (first ++ '\n' :: second).length - left.length =
      first.length + 1 + (second.length - left.length) := by
    rw [List.length_append, List.length_cons]
    omega
  rw [Failure.locate, offset, Position.ofOffset_below]

end Reader

namespace Index

open SandboxLisp.Tree

theorem readAll_of_skipGap {text : List Char} (skipped : Reader.skipGap false text = []) :
    readAll text = (0, none) := by
  rw [readAll.eq_def]
  split
  · rfl
  · next other =>
    rw [skipped] at other
    cases other

theorem readAll_of_error {text rest : List Char} {character : Char} {failure : Reader.Failure}
    (skipped : Reader.skipGap false text = character :: rest)
    (stopped : Reader.expression [] text = .error failure) : readAll text = (0, some failure) := by
  rw [readAll.eq_def]
  split
  · next other =>
    rw [skipped] at other
    cases other
  · split
    · next found =>
      rw [stopped] at found
      cases found
      rfl
    · next found =>
      rw [stopped] at found
      cases found

theorem readAll_of_ok {text rest : List Char} {character : Char} {found : Datum × List Char}
    (skipped : Reader.skipGap false text = character :: rest)
    (read : Reader.expression [] text = .ok found) :
    readAll text = ((readAll found.2).1 + 1, (readAll found.2).2) := by
  rw [readAll.eq_def]
  split
  · next other =>
    rw [skipped] at other
    cases other
  · split
    · next other =>
      rw [read] at other
      cases other
    · next other =>
      rw [read] at other
      cases other
      rfl

/-- Reading all expressions of a text that is no gap is reading one and then those behind it. -/
theorem readAll_eq (text : List Char) :
    readAll text =
      match Reader.skipGap false text with
      | [] => (0, none)
      | _ :: _ =>
          match Reader.expression [] text with
          | .error failure => (0, some failure)
          | .ok (_, after) => ((readAll after).1 + 1, (readAll after).2) := by
  cases skipped : Reader.skipGap false text with
  | nil => rw [readAll_of_skipGap skipped]
  | cons character rest =>
    cases read : Reader.expression [] text with
    | error failure => rw [readAll_of_error skipped read]
    | ok found => rw [readAll_of_ok skipped read]

/-- What reading all expressions comes to depends only on what is left behind the gap. -/
theorem readAll_congr {text other : List Char}
    (same : Reader.skipGap false text = Reader.skipGap false other) :
    readAll text = readAll other := by
  have read : Reader.expression [] text = Reader.expression [] other := by
    rw [Reader.expression_eq, Reader.expression_eq, same]
  rw [readAll_eq, readAll_eq other, same, read]

/-- If nothing keeps a text from being read, its expressions are read before those below it. -/
theorem readAll_append {first : List Char} (whole : (readAll first).2 = none) (second : List Char) :
    readAll (first ++ '\n' :: second) =
      ((readAll first).1 + (readAll second).1, (readAll second).2) := by
  fun_induction readAll first with
  | case1 text skipped =>
    rw [Nat.zero_add]
    apply readAll_congr
    rw [Reader.skipGap_append, skipped]
  | case2 => cases whole
  | case3 text character rest skipped value after read forms failure later ih =>
    have longer := Reader.expression_append read second
    rw [List.map_nil] at longer
    rw [later] at ih
    rw [readAll_eq, Reader.skipGap_append, skipped]
    simp only [longer, ih whole, Nat.add_right_comm]

/-! ### Names over a line feed -/

/-- A scan of the tokens adds the same entries whatever is bound already, and the same entries
further down to the tokens further down. -/
def Adds (scan : List (String × Binding) → List Token → List (String × Binding))
    (tokens : List Token) : Prop :=
  ∃ entries : List (String × Binding), ∀ lines symbols,
    scan symbols (tokens.map (Token.down lines)) =
      bindAll symbols (entries.map (Binding.entryDown lines))

theorem adds_nothing {scan : List (String × Binding) → List Token → List (String × Binding)}
    {tokens : List Token}
    (unchanged : ∀ lines symbols, scan symbols (tokens.map (Token.down lines)) = symbols) :
    Adds scan tokens :=
  ⟨[], unchanged⟩

theorem adds_bindFirst (kind : BindingKind) (tokens : List Token) :
    Adds (fun symbols => bindFirst symbols kind) tokens := by
  rcases tokens with _ | ⟨⟨lexeme, position⟩, rest⟩
  · exact adds_nothing fun _ _ => rfl
  · cases lexeme with
    | symbol name => exact ⟨[(name, ⟨kind, position⟩)], fun _ _ => rfl⟩
    | _ => exact adds_nothing fun _ _ => rfl

theorem adds_bindDefinition (tokens : List Token) : Adds bindDefinition tokens := by
  rcases tokens with _ | ⟨⟨lexeme, position⟩, rest⟩
  · exact adds_nothing fun _ _ => rfl
  · cases lexeme with
    | leftParen => exact adds_bindFirst .function rest
    | symbol name => exact adds_bindFirst .value (⟨.symbol name, position⟩ :: rest)
    | _ => exact adds_nothing fun _ _ => rfl

theorem adds_bindLocals (depth : Nat) (tokens : List Token) :
    Adds (fun symbols => bindLocals symbols depth) tokens := by
  induction tokens generalizing depth with
  | nil => exact adds_nothing fun _ _ => rfl
  | cons token rest ih =>
    obtain ⟨lexeme, position⟩ := token
    cases lexeme with
    | leftParen =>
      obtain ⟨names, first⟩ := adds_bindFirst .localName rest
      obtain ⟨others, behind⟩ := ih (depth + 1)
      by_cases item : depth = 1
      · refine ⟨names ++ others, fun lines symbols => ?_⟩
        rw [List.map_append, bindAll_append, ← first, ← behind]
        simp only [List.map_cons, Token.down, bindLocals, if_pos item]
      · refine ⟨others, fun lines symbols => ?_⟩
        rw [← behind]
        simp only [List.map_cons, Token.down, bindLocals, if_neg item]
    | rightParen =>
      by_cases last : depth ≤ 1
      · exact adds_nothing fun _ _ => if_pos last
      · obtain ⟨others, behind⟩ := ih (depth - 1)
        exact ⟨others, fun lines symbols => (if_neg last).trans (behind lines symbols)⟩
    | _ => exact ih depth

theorem adds_bindLet (tokens : List Token) : Adds bindLet tokens := by
  rcases tokens with _ | ⟨⟨lexeme, position⟩, rest⟩
  · exact adds_nothing fun _ _ => rfl
  · cases lexeme with
    | leftParen => exact adds_bindLocals 0 (⟨.leftParen, position⟩ :: rest)
    | _ => exact adds_nothing fun _ _ => rfl

theorem adds_bindList (tokens : List Token) : Adds bindList tokens := by
  rcases tokens with _ | ⟨⟨lexeme, position⟩, rest⟩
  · exact adds_nothing fun _ _ => rfl
  · cases lexeme with
    | symbol head =>
      by_cases defines : head = "define" ∨ head = "defun"
      · obtain ⟨entries, same⟩ := adds_bindDefinition rest
        exact ⟨entries, fun lines symbols => (if_pos defines).trans (same lines symbols)⟩
      · by_cases binds : head = "let"
        · obtain ⟨entries, same⟩ := adds_bindLet rest
          refine ⟨entries, fun lines symbols => (if_neg defines).trans ?_⟩
          exact (if_pos binds).trans (same lines symbols)
        · exact adds_nothing fun _ _ => (if_neg defines).trans (if_neg binds)
    | _ => exact adds_nothing fun _ _ => rfl

theorem adds_bindings (tokens : List Token) : Adds Index.bindings tokens := by
  induction tokens with
  | nil => exact adds_nothing fun _ _ => rfl
  | cons token rest ih =>
    obtain ⟨others, behind⟩ := ih
    obtain ⟨lexeme, position⟩ := token
    cases lexeme with
    | leftParen =>
      obtain ⟨own, here⟩ := adds_bindList rest
      refine ⟨own ++ others, fun lines symbols => ?_⟩
      rw [List.map_append, bindAll_append, ← here, ← behind]
      rfl
    | _ => exact ⟨others, behind⟩

theorem firsts_entryDown (lines : Nat) (entries : List (String × Binding)) :
    Table.firsts (entries.map (Binding.entryDown lines)) =
      (Table.firsts entries).map (Binding.entryDown lines) := by
  induction entries with
  | nil => rfl
  | cons entry rest ih =>
    rw [List.map_cons, Table.firsts, Table.firsts, List.map_cons, ih, List.filter_map]
    rfl

theorem map_entryDown_zero (entries : List (String × Binding)) :
    entries.map (Binding.entryDown 0) = entries :=
  List.map_id entries

theorem map_down_zero (tokens : List Token) : tokens.map (Token.down 0) = tokens :=
  List.map_id tokens

/-- The names that tokens further down add to what is bound are those that they bind by themselves
and that are not bound yet. -/
theorem bindings_down (lines : Nat) (symbols : List (String × Binding)) (tokens : List Token) :
    Index.bindings symbols (tokens.map (Token.down lines)) =
      symbols ++ ((Index.bindings [] tokens).map (Binding.entryDown lines)).filter
        fun entry => !Table.has symbols entry.1 := by
  obtain ⟨entries, adds⟩ := adds_bindings tokens
  have alone := adds 0 []
  rw [map_down_zero, map_entryDown_zero, bindAll_eq, List.nil_append] at alone
  have fresh : Index.bindings [] tokens = Table.firsts entries := by
    rw [alone]
    exact List.filter_eq_self.mpr fun _ _ => rfl
  rw [adds, bindAll_eq, firsts_entryDown, fresh]

theorem balanceOf_append (tokens more : List Token) :
    balanceOf (tokens ++ more) = balanceOf tokens + balanceOf more := by
  rw [balanceOf_eq, balanceOf_eq, balanceOf_eq, List.countP_append, List.countP_append]
  omega

theorem balanceOf_down (lines : Nat) (tokens : List Token) :
    balanceOf (tokens.map (Token.down lines)) = balanceOf tokens := by
  rw [balanceOf_eq, balanceOf_eq, List.countP_map, List.countP_map]
  rfl

/-! ### The index of both -/

/-- The failure that ends the reading of a text is met inside of the text. -/
theorem length_le_of_readAll {text left : List Char} {cause : Reader.Cause}
    (failed : (readAll text).2 = some (.malformed cause left)) : left.length ≤ text.length := by
  fun_induction readAll text with
  | case1 => cases failed
  | case2 text character rest skipped failure stopped =>
    cases failed
    apply Reader.length_le_of_expression_error (Nat.le_refl _) _ stopped
    exact fun openList among => (List.not_mem_nil among).elim
  | case3 text character rest skipped value after read forms failure later ih =>
    rw [later] at ih
    exact (ih failed).trans (Nat.le_of_lt (Reader.length_lt_of_expression read))

/-- The problems of a text below another one are its own, further down. -/
theorem problemsOf_below (first : List Char) {second : List Char} {balance : Int}
    {problems : List Problem} (level : (readAll second).2 = none → balance = 0)
    (found : problemsOf second balance (readAll second).2 = .ok problems) :
    problemsOf (first ++ '\n' :: second) balance (readAll second).2 =
      .ok (problems.map (Problem.down (first.count '\n' + 1))) := by
  cases ended : (readAll second).2 with
  | none =>
    rw [ended] at found
    cases found
    simp [problemsOf, level ended]
  | some failure =>
    rw [ended] at found
    cases failure with
    | number error => cases found
    | malformed cause left =>
      have below := Reader.locate_below first second cause (length_le_of_readAll ended)
      simp only [problemsOf, below]
      cases found
      rfl

/-- A text whose index has no problem is cut into whole expressions, which leave no bracket open,
and nothing keeps them from being read. -/
theorem closed_of_build {text : List Char} {index : Index} (built : build text = .ok index)
    (clean : index.problems = []) :
    ∃ tokens here trees, Token.tokenize text = .ok (tokens ++ [⟨.endOfInput, here⟩]) ∧
      Views trees tokens ∧ balanceOf tokens = 0 ∧ (readAll text).2 = none ∧
      index = ⟨bindAll [] (bindingsOf trees), [], 0, (readAll text).1⟩ := by
  obtain ⟨tokens, here, n, cut, whole⟩ := sequence_of_build built clean
  obtain ⟨trees, views⟩ := exists_views whole
  obtain ⟨found, builtFound, diagnosed, forms, finished⟩ := build_of_tokens cut
  cases built.symm.trans builtFound
  have names : index.symbols = bindAll [] (bindingsOf trees) := by
    rw [symbols_of_build built cut, bindings_of_views views]
    rfl
  have level : index.balance = 0 := by
    rw [diagnosed.balance, (diagnosed.exact.mp clean).total, Int.sub_self]
  have ofWhole : balanceOf tokens = 0 := by
    have total := diagnosed.balance.symm.trans level
    rw [← balanceOf_eq, balanceOf_append] at total
    simpa [balanceOf] using total
  refine ⟨tokens, here, trees, cut, views, ofWhole, finished.mp clean, ?_⟩
  obtain ⟨symbols, problems, balance, count⟩ := index
  cases names
  cases clean
  cases level
  cases forms
  rfl

/-- The index of a text below one whose index has no problem.  If the lower text can be cut into
tokens, its index `other` is added to the index of the upper one: its problems and the names that
the upper one does not have move down by the lines of the upper one, and its brackets and
expressions are counted on.  If the lower text cannot be cut, that is the one problem of both, and
nothing else is known. -/
theorem build_append (first : List Char) (index : Index) (built : build first = .ok index)
    (clean : index.problems = []) (second : List Char) :
    (∀ tokens, Token.tokenize second = .ok tokens → ∃ other, build second = .ok other ∧
      build (first ++ '\n' :: second) = .ok
        ⟨index.symbols ++ (other.symbols.map (Binding.entryDown (first.count '\n' + 1))).filter
            fun entry => !Table.has index.symbols entry.1,
          other.problems.map (Problem.down (first.count '\n' + 1)),
          index.balance + other.balance, index.forms + other.forms⟩) ∧
    ∀ cause position, Token.tokenize second = .error (.lexical cause position) →
      build (first ++ '\n' :: second) = .ok
        ⟨[], [⟨cause.message, position.down (first.count '\n' + 1), .error⟩], 0, 0⟩ := by
  obtain ⟨upper, here, trees, cut, views, level, whole, rfl⟩ := closed_of_build built clean
  obtain ⟨passed, place, shape, both⟩ := Token.tokenize_append cut second
  obtain ⟨rfl, -⟩ := List.append_inj' shape rfl
  constructor
  · intro lower cutLower
    obtain ⟨other, builtOther, diagnosed, -, finished⟩ := build_of_tokens cutLower
    rcases build_cases builtOther with ⟨_, _, stopped, -⟩ | ⟨same, problems, cutSame, found, rfl⟩
    · cases stopped.symm.trans cutLower
    cases cutSame.symm.trans cutLower
    refine ⟨_, builtOther, ?_⟩
    have ends : (readAll second).2 = none → balanceOf lower = 0 := by
      intro complete
      rw [balanceOf_eq, (diagnosed.exact.mp (finished.mpr complete)).total, Int.sub_self]
    have balance : balanceOf (upper ++ lower.map (Token.down (first.count '\n' + 1))) =
        balanceOf lower := by
      rw [balanceOf_append, balanceOf_down, level, Int.zero_add]
    have problemsBelow := problemsOf_below first ends found
    rw [cutLower] at both
    have cutBoth : Token.tokenize (first ++ '\n' :: second) =
        .ok (upper ++ lower.map (Token.down (first.count '\n' + 1))) := both
    rw [build, cutBoth]
    simp only [balance, readAll_append whole, problemsBelow, bindings_of_views views,
      bindings_down, Int.zero_add]
  · intro cause position stopped
    rw [stopped] at both
    have cutBoth : Token.tokenize (first ++ '\n' :: second) =
        .error (.lexical cause (position.down (first.count '\n' + 1))) := both
    rw [build, cutBoth]

/-- A text that ends in a comment, with no line feed behind it. -/
def upperText : List Char := "(define a 1)\n(let ((b a)) b) ; (end".toList

/-- Its index, without a problem. -/
def upperIndex : Index :=
  ⟨[("a", ⟨.value, ⟨1, 9⟩⟩), ("b", ⟨.localName, ⟨2, 8⟩⟩)], [], 0, 2⟩

/-- A text that binds one of these names again, another one by an open list, and then ends. -/
def lowerText : List Char := "(define a 2)\n (define c".toList

/-- Its index, whose problem is the open list. -/
def lowerIndex : Index :=
  ⟨[("a", ⟨.value, ⟨1, 9⟩⟩), ("c", ⟨.value, ⟨2, 10⟩⟩)],
    [⟨Reader.Cause.unclosedList.message, ⟨2, 2⟩, .error⟩], 1, 1⟩

theorem build_append_open :
    build upperText = .ok upperIndex ∧ upperIndex.problems = [] ∧
      build (upperText ++ '\n' :: lowerText) = .ok
        ⟨upperIndex.symbols ++ [("c", ⟨.value, ⟨4, 10⟩⟩)],
          [⟨Reader.Cause.unclosedList.message, ⟨4, 2⟩, .error⟩], 1, 3⟩ ∧
      build (upperText ++ '\n' :: ['(', '[']) = .ok
        ⟨[], [⟨(Token.Cause.unexpectedCharacter '[').message, ⟨3, 2⟩, .error⟩], 0, 0⟩ := by
  have upper : build upperText = .ok upperIndex := by decide +kernel
  have lower : build lowerText = .ok lowerIndex := by decide +kernel
  refine ⟨upper, rfl, ?_, ?_⟩
  · rcases build_cases lower with ⟨_, _, _, other⟩ | ⟨tokens, _, cut, _⟩
    · cases other
    obtain ⟨other, builtOther, both⟩ :=
      (build_append upperText upperIndex upper rfl lowerText).1 tokens cut
    cases lower.symm.trans builtOther
    exact both
  · have stopped : Token.tokenize ['(', '['] =
        .error (.lexical (.unexpectedCharacter '[') ⟨1, 2⟩) := by decide +kernel
    exact (build_append upperText upperIndex upper rfl ['(', '[']).2 _ _ stopped

end Index

end SandboxLisp
