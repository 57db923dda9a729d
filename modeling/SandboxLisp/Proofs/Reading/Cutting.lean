import Mathlib.Data.List.TakeWhile
import SandboxLisp.Proofs.Reading.RoundTrip
import SandboxLisp.Proofs.Reading.Scan

/-!
# Where atoms are spelled

Cutting a text passes one piece after another, and `Reached` holds of the places between them.  The
main statements are that every token of a number, a symbol or a boolean is spelled at its position
by an atom that cutting reaches (`exists_atomAt_of_mem`), and that cutting fails for the sake of a
number exactly if it reaches an integer numeral of too many digits (`tokenize_number_iff`).

`Cuts` says once what can become of the piece at a place; the other lemmas never open `piece`.
-/

namespace SandboxLisp

/-- Whether a lexeme is spelled by an atom. -/
def Lexeme.isAtom : Lexeme → Bool
  | .number _ | .symbol _ | .boolean _ => true
  | _ => false

/-- The text spells an integer of more digits than a numeral may have. -/
def Numeral.Overlong (spelling : List Char) (digits : Nat) : Prop :=
  ∃ numeral, scan? spelling = some (numeral, []) ∧ numeral.isInteger = true ∧
    numeral.whole.length = digits ∧ NumberError.digitLimit < digits

/-- A numeral has no value exactly if it spells an integer of too many digits. -/
theorem Numeral.value_eq_error_iff {numeral : Numeral} {error : NumberError} :
    numeral.value = .error error ↔ numeral.isInteger = true ∧
      NumberError.digitLimit < numeral.whole.length ∧
      error = .numeralTooLong numeral.whole.length := by
  unfold value
  by_cases integer : numeral.isInteger = true
  · by_cases long : NumberError.digitLimit < numeral.whole.length
    · simp [integer, long, eq_comm]
    · simp [integer, long]
  · simp [integer]

/-- Reading a spelling fails exactly if it is an integer numeral of too many digits. -/
theorem Numeral.read_eq_error_iff {spelling : List Char} {error : NumberError} :
    read spelling = .error error ↔
      ∃ digits, Overlong spelling digits ∧ error = .numeralTooLong digits := by
  constructor
  · intro fails
    unfold read at fails
    split at fails
    · next numeral scanned =>
      cases valued : numeral.value with
      | error cause =>
        rw [valued] at fails
        cases fails
        obtain ⟨integer, long, same⟩ := value_eq_error_iff.mp valued
        exact ⟨_, ⟨numeral, scanned, integer, rfl, long⟩, same⟩
      | ok number =>
        rw [valued] at fails
        cases number <;> cases fails
    · cases fails
  · rintro ⟨digits, ⟨numeral, scanned, integer, rfl, long⟩, rfl⟩
    have valued := value_eq_error_iff.mpr ⟨integer, long, rfl⟩
    simp only [read, scanned, valued]

namespace Token

/-! ### One piece -/

/-- The spelling is an atom if `after` follows it: it has no delimiter inside and ends at one. -/
structure IsAtom (spelling after : List Char) : Prop where
  ne_nil : spelling ≠ []
  plain : ∀ c ∈ spelling, Atom.isDelimiter c = false
  ends : Reader.EndsAtom after

/-- Whether an atom may stand behind the character: it is a blank or ends a token of its own. -/
def partsLeft (character : Char) : Bool :=
  Text.isBlank character || ['(', ')', '"'].contains character

/-- No atom reaches over the place between two texts. -/
def Bounded (before after : List Char) : Prop :=
  Reader.EndsAtom after ∨ ∀ c ∈ before.getLast?, partsLeft c = true

/-- What becomes of the piece at the start of a text: a gap, a token of its own, an atom, or one of
two failures. -/
inductive Cuts (position : Position) (text : List Char) :
    Except Error (Piece × List Char) → Prop where
  | other {lexeme : Option Lexeme} {spelling after : List Char} (split : text = spelling ++ after)
      (noAtom : ∀ found ∈ lexeme, found.isAtom = false) (bounded : Bounded spelling after) :
      Cuts position text (.ok (⟨lexeme, spelling⟩, after))
  | atom {lexeme : Lexeme} {spelling after : List Char} (split : text = spelling ++ after)
      (isAtom : IsAtom spelling after) (spells : classify spelling = .ok lexeme) :
      Cuts position text (.ok (⟨some lexeme, spelling⟩, after))
  | lexical (cause : Cause) : Cuts position text (.error (.lexical cause position))
  | number {error : NumberError} {spelling after : List Char} (split : text = spelling ++ after)
      (isAtom : IsAtom spelling after) (fails : classify spelling = .error error) :
      Cuts position text (.error (.number error))

/-- A run of blanks is bounded by the blank at its end. -/
theorem bounded_blanks {character : Char} (rest after : List Char)
    (blank : Text.isBlank character = true) :
    Bounded (character :: rest.takeWhile Text.isBlank) after := by
  refine .inr fun last among => ?_
  have inside : last ∈ character :: rest.takeWhile Text.isBlank := List.mem_of_getLast? among
  have blankLast : Text.isBlank last = true := by
    rcases List.mem_cons.mp inside with rfl | taken
    · exact blank
    · exact List.mem_takeWhile_imp taken
  simp [partsLeft, blankLast]

/-- What is left behind a comment starts with the end of its line. -/
theorem endsAtom_dropWhile_comment (rest : List Char) :
    Reader.EndsAtom (rest.dropWhile (· != '\n')) := by
  intro next starts
  obtain rfl : next = '\n' := by simpa using Text.not_of_head?_dropWhile starts
  rfl

/-- What is left behind an atom starts with a delimiter. -/
theorem endsAtom_dropWhile (rest : List Char) :
    Reader.EndsAtom (rest.dropWhile fun next => !Atom.isDelimiter next) := by
  intro next starts
  simpa using Text.not_of_head?_dropWhile starts

/-- A character that is no delimiter starts an atom, which runs to the next delimiter. -/
theorem isAtom_takeWhile {character : Char} (rest : List Char)
    (plain : ¬ Atom.isDelimiter character = true) :
    IsAtom (character :: rest.takeWhile fun next => !Atom.isDelimiter next)
      (rest.dropWhile fun next => !Atom.isDelimiter next) := by
  refine ⟨List.cons_ne_nil _ _, fun c among => ?_, endsAtom_dropWhile rest⟩
  rcases List.mem_cons.mp among with rfl | taken
  · simpa using plain
  · simpa using List.mem_takeWhile_imp taken

theorem piece_cuts (position : Position) (character : Char) (rest : List Char) :
    Cuts position (character :: rest) (piece position character rest) := by
  unfold piece
  by_cases blank : Text.isBlank character = true
  · rw [if_pos blank]
    refine .other ?_ (by simp) (bounded_blanks rest _ blank)
    rw [List.cons_append, List.takeWhile_append_dropWhile]
  rw [if_neg blank]
  by_cases comment : character = ';'
  · subst comment
    rw [if_pos rfl]
    refine .other ?_ (by simp) (.inl (endsAtom_dropWhile_comment rest))
    rw [List.cons_append, List.takeWhile_append_dropWhile]
  rw [if_neg comment]
  by_cases opening : character = '('
  · subst opening
    exact .other rfl (by simp [Lexeme.isAtom]) (.inr (by simp [partsLeft]))
  rw [if_neg opening]
  by_cases closing : character = ')'
  · subst closing
    exact .other rfl (by simp [Lexeme.isAtom]) (.inr (by simp [partsLeft]))
  rw [if_neg closing]
  by_cases quote : character = '"'
  · subst quote
    rw [if_pos rfl]
    cases closed : literalBody? rest with
    | none => exact .lexical .unterminatedString
    | some parts =>
      obtain ⟨body, after⟩ := parts
      refine .other ?_ (by simp [Lexeme.isAtom]) (.inr fun last among => ?_)
      · simp [eq_append_of_literalBody? closed]
      · rw [← List.cons_append, List.getLast?_concat] at among
        cases among
        rfl
  rw [if_neg quote]
  by_cases delimiter : Atom.isDelimiter character = true
  · rw [if_pos delimiter]
    exact .lexical (.unexpectedCharacter character)
  rw [if_neg delimiter]
  have split : character :: rest =
      (character :: rest.takeWhile fun next => !Atom.isDelimiter next) ++
        rest.dropWhile fun next => !Atom.isDelimiter next := by
    rw [List.cons_append, List.takeWhile_append_dropWhile]
  have isAtom := isAtom_takeWhile rest delimiter
  dsimp only
  generalize (character :: rest.takeWhile fun next => !Atom.isDelimiter next) = spelling
    at split isAtom ⊢
  cases spells : classify spelling with
  | error error => exact .number split isAtom spells
  | ok lexeme => exact .atom split isAtom spells

/-! ### Places that cutting reaches -/

/-- Cutting the text reaches the place between `before` and `rest`. -/
inductive Reached (text : List Char) : List Char → List Char → Prop where
  | start : Reached text [] text
  | pass {before rest after : List Char} {character : Char} {found : Piece}
      (reached : Reached text before (character :: rest))
      (cut : piece (Position.start.after before) character rest = .ok (found, after)) :
      Reached text (before ++ found.spelling) after

/-- The spelling of a piece and what follows it are the text. -/
theorem eq_append_of_piece {position : Position} {character : Char} {rest after : List Char}
    {found : Piece} (cut : piece position character rest = .ok (found, after)) :
    character :: rest = found.spelling ++ after := by
  have outcome := piece_cuts position character rest
  rw [cut] at outcome
  cases outcome with
  | other split | atom split => exact split

namespace Reached

variable {text before rest : List Char}

/-- The parts on both sides of a place make up the text. -/
theorem split (reached : Reached text before rest) : text = before ++ rest := by
  induction reached with
  | start => rfl
  | pass _ cut ih => rw [ih, eq_append_of_piece cut, List.append_assoc]

/-- No atom reaches over a place between two pieces. -/
theorem bounded (reached : Reached text before rest) : Bounded before rest := by
  induction reached with
  | start => exact .inr (by simp)
  | @pass before rest after character found _ cut ih =>
    have outcome := piece_cuts (Position.start.after before) character rest
    rw [cut] at outcome
    cases outcome with
    | @other lexeme spelling _ split noAtom bounded =>
      rcases bounded with ends | parts
      · exact .inl ends
      · cases spelling with
        | nil =>
          rw [List.append_nil]
          rw [List.nil_append] at split
          rwa [split] at ih
        | cons first others =>
          rw [Bounded, List.getLast?_append]
          rw [List.getLast?_eq_some_getLast (List.cons_ne_nil first others)] at parts ⊢
          exact .inr parts
    | atom _ isAtom => exact .inl isAtom.ends

/-- The tokens of a text are some earlier ones and those behind a place that is reached. -/
theorem tokenize_eq (reached : Reached text before rest) :
    ∃ earlier, tokenize text =
      (scan (Position.start.after before) rest).map (earlier ++ ·) := by
  induction reached with
  | start =>
    refine ⟨[], ?_⟩
    cases whole : scan Position.start text <;> simp [tokenize, Position.after, whole, Except.map]
  | @pass before rest after character found _ cut ih =>
    obtain ⟨earlier, same⟩ := ih
    refine ⟨earlier ++ found.precede (Position.start.after before) [], ?_⟩
    rw [same, scan_of_piece_ok cut, ← Position.after_append]
    obtain ⟨lexeme, spelling⟩ := found
    cases scan (Position.start.after (before ++ spelling)) after <;> cases lexeme <;>
      simp [Except.map, Piece.precede]

end Reached

/-! ### Atoms of a text -/

/-- Cutting the text reaches an atom with the given spelling between `before` and `after`. -/
structure AtomAt (text before spelling after : List Char) : Prop
    extends IsAtom spelling after where
  reached : Reached text before (spelling ++ after)

namespace AtomAt

variable {text before spelling after : List Char}

theorem split (atomAt : AtomAt text before spelling after) :
    text = before ++ spelling ++ after := by
  rw [List.append_assoc, ← atomAt.reached.split]

/-- What stands in front of an atom parts it from the text before. -/
theorem partsLeft (atomAt : AtomAt text before spelling after) :
    ∀ c ∈ before.getLast?, partsLeft c = true := by
  rcases atomAt.reached.bounded with ends | parts
  · obtain ⟨first, others, rfl⟩ := List.exists_cons_of_ne_nil atomAt.ne_nil
    have delimiter : Atom.isDelimiter first = true := ends first rfl
    rw [atomAt.plain first (.head _)] at delimiter
    cases delimiter
  · exact parts

end AtomAt

/-- Where an atom stands, the piece is that atom, or cutting fails as classifying the atom does. -/
theorem piece_of_isAtom {first : Char} {others after : List Char}
    (isAtom : IsAtom (first :: others) after) (position : Position) :
    piece position first (others ++ after) =
      ((classify (first :: others)).mapError Error.number).map
        fun lexeme => (⟨some lexeme, first :: others⟩, after) := by
  have plain := isAtom.plain first (.head _)
  have noBlank : Text.isBlank first = false := (Bool.or_eq_false_iff.mp plain).1
  have different : first ≠ ';' ∧ first ≠ '(' ∧ first ≠ ')' ∧ first ≠ '"' := by
    refine ⟨?_, ?_, ?_, ?_⟩ <;>
    · rintro rfl
      cases plain
  have inside : ∀ c ∈ others, (!Atom.isDelimiter c) = true := by
    intro c among
    rw [isAtom.plain c (.tail _ among), Bool.not_false]
  unfold piece
  simp only [noBlank, different, plain, Bool.false_eq_true, if_false,
    List.takeWhile_append_of_pos inside, List.dropWhile_append_of_pos inside,
    isAtom.ends.stops, List.append_nil]
  cases classify (first :: others) <;> rfl

/-- At an atom that cutting reaches, the text goes on with its token or cannot be cut. -/
theorem scan_of_isAtom {spelling after : List Char} (isAtom : IsAtom spelling after)
    (position : Position) :
    scan position (spelling ++ after) =
      match classify spelling with
      | .ok lexeme => (scan (position.after spelling) after).map (⟨lexeme, position⟩ :: ·)
      | .error error => .error (.number error) := by
  obtain ⟨first, others, rfl⟩ := List.exists_cons_of_ne_nil isAtom.ne_nil
  have cut := piece_of_isAtom isAtom position
  cases spells : classify (first :: others) with
  | ok lexeme =>
    rw [spells] at cut
    exact scan_of_piece_ok cut
  | error error =>
    rw [spells] at cut
    exact scan_of_piece_error cut

/-- An atom that cannot be classified keeps the text from being cut. -/
theorem AtomAt.tokenize_error {text before spelling after : List Char} {error : NumberError}
    (atomAt : AtomAt text before spelling after) (fails : classify spelling = .error error) :
    tokenize text = .error (.number error) := by
  obtain ⟨earlier, same⟩ := atomAt.reached.tokenize_eq
  rw [same, scan_of_isAtom atomAt.toIsAtom, fails]
  rfl

theorem exists_atomAt_of_scan_number {text before rest : List Char} {error : NumberError}
    (reached : Reached text before rest)
    (failed : scan (Position.start.after before) rest = .error (.number error)) :
    ∃ left spelling right, AtomAt text left spelling right ∧ classify spelling = .error error := by
  generalize here : Position.start.after before = position at failed
  fun_induction scan position rest generalizing before with
  | case1 => cases failed
  | case2 position character rest found cut =>
    cases failed
    have outcome := piece_cuts position character rest
    rw [cut] at outcome
    cases outcome with
    | @number _ spelling right split isAtom fails =>
      exact ⟨before, spelling, right, ⟨isAtom, split ▸ reached⟩, fails⟩
  | case3 position character rest found after cut ih =>
    subst here
    cases later : scan ((Position.start.after before).after found.spelling) after with
    | ok tokens =>
      rw [later] at failed
      cases failed
    | error cause =>
      rw [later] at failed
      cases failed
      exact ih (reached.pass cut) (Position.after_append _ _ _) later

theorem exists_atomAt_of_mem_scan {text before rest : List Char} {tokens : List Token}
    {token : Token} (reached : Reached text before rest)
    (cut : scan (Position.start.after before) rest = .ok tokens) (among : token ∈ tokens)
    (isAtom : token.lexeme.isAtom = true) :
    ∃ left spelling right, AtomAt text left spelling right ∧
      token.position = Position.start.after left ∧ classify spelling = .ok token.lexeme := by
  generalize here : Position.start.after before = position at cut
  fun_induction scan position rest generalizing before tokens with
  | case1 position =>
    cases cut
    rw [List.mem_singleton.mp among] at isAtom
    cases isAtom
  | case2 => cases cut
  | case3 position character rest found after passed ih =>
    subst here
    cases later : scan ((Position.start.after before).after found.spelling) after with
    | error error =>
      rw [later] at cut
      cases cut
    | ok others =>
      rw [later] at cut
      cases cut
      have behind (inOthers : token ∈ others) :=
        ih (reached.pass passed) inOthers (Position.after_append _ _ _) later
      have outcome := piece_cuts (Position.start.after before) character rest
      rw [passed] at outcome
      cases outcome with
      | @other lexeme spelling _ split noAtom =>
        cases lexeme with
        | none => exact behind among
        | some lexeme =>
          rcases List.mem_cons.mp among with rfl | inOthers
          · rw [noAtom lexeme rfl] at isAtom
            cases isAtom
          · exact behind inOthers
      | @atom lexeme spelling _ split shape spells =>
        rcases List.mem_cons.mp among with rfl | inOthers
        · exact ⟨before, spelling, after, ⟨shape, split ▸ reached⟩, rfl, spells⟩
        · exact behind inOthers

/-- Every token of a number, a symbol or a boolean is spelled by an atom at its position. -/
theorem exists_atomAt_of_mem {text : List Char} {tokens : List Token} {token : Token}
    (cut : tokenize text = .ok tokens) (among : token ∈ tokens)
    (isAtom : token.lexeme.isAtom = true) :
    ∃ before spelling after, AtomAt text before spelling after ∧
      token.position = Position.start.after before ∧ classify spelling = .ok token.lexeme :=
  exists_atomAt_of_mem_scan .start cut among isAtom

/-! ### What atoms spell -/

/-- A symbol is spelled by its own name, which names no boolean and spells no number. -/
theorem of_classify_symbol {spelling : List Char} {name : String}
    (spells : classify spelling = .ok (.symbol name)) :
    name.toList = spelling ∧ Atom.boolean? spelling = none ∧ Numeral.read spelling = .ok none := by
  unfold classify at spells
  split at spells
  · cases spells
  · next notBoolean =>
    split at spells
    · cases spells
    · cases spells
    · next notNumber =>
      cases spells
      exact ⟨String.toList_ofList, notBoolean, notNumber⟩

/-- A number token is spelled by a numeral of its value. -/
theorem of_classify_number {spelling : List Char} {value : Number}
    (spells : classify spelling = .ok (.number value)) :
    Numeral.read spelling = .ok (some value) := by
  unfold classify at spells
  split at spells
  · cases spells
  · split at spells
    · cases spells
    · next value' reads =>
      cases spells
      exact reads
    · cases spells

/-- A name of a boolean does not start with a numeral. -/
theorem scan?_of_boolean? {spelling : List Char} {value : Bool}
    (names : Atom.boolean? spelling = some value) : Numeral.scan? spelling = none := by
  unfold Atom.boolean? at names
  split at names
  · next word =>
    rcases (Bool.or_eq_true _ _).mp word with same | same <;>
    · rw [of_decide_eq_true same]
      rfl
  · split at names
    · next word =>
      rcases (Bool.or_eq_true _ _).mp word with same | same <;>
      · rw [of_decide_eq_true same]
        rfl
    · cases names

/-- An atom cannot be classified exactly if it is an integer numeral of too many digits. -/
theorem classify_eq_error_iff {spelling : List Char} {error : NumberError} :
    classify spelling = .error error ↔
      ∃ digits, Numeral.Overlong spelling digits ∧ error = .numeralTooLong digits := by
  rw [← Numeral.read_eq_error_iff]
  unfold classify
  cases named : Atom.boolean? spelling with
  | none => cases Numeral.read spelling with
    | error cause => simp
    | ok found => cases found <;> simp
  | some value => simp [Numeral.read, scan?_of_boolean? named]

/-- Cutting the text reaches an integer numeral of too many digits. -/
def ReachesOverlong (text : List Char) (digits : Nat) : Prop :=
  ∃ before spelling after, AtomAt text before spelling after ∧ Numeral.Overlong spelling digits

/-- Cutting a text fails for the sake of a number exactly if it reaches an integer numeral of too
many digits. -/
theorem tokenize_number_iff {text : List Char} {error : NumberError} :
    tokenize text = .error (.number error) ↔
      ∃ digits, ReachesOverlong text digits ∧ error = .numeralTooLong digits := by
  constructor
  · intro failed
    obtain ⟨before, spelling, after, atomAt, fails⟩ := exists_atomAt_of_scan_number .start failed
    obtain ⟨digits, overlong, same⟩ := classify_eq_error_iff.mp fails
    exact ⟨digits, ⟨before, spelling, after, atomAt, overlong⟩, same⟩
  · rintro ⟨digits, ⟨before, spelling, after, atomAt, overlong⟩, same⟩
    exact atomAt.tokenize_error (classify_eq_error_iff.mpr ⟨digits, overlong, same⟩)

end Token

end SandboxLisp
