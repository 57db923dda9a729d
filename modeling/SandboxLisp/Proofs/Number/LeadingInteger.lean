import Mathlib.Data.List.DropRight
import Mathlib.Data.Nat.Digits.Defs
import SandboxLisp.Evaluator
import SandboxLisp.Primitive.Strings
import SandboxLisp.Proofs.Reading.RoundTrip

/-!
# The integer at the start of a text

`Leads` says how a text is taken apart as a leading integer in a radix.  Every text is, in some way
(`exists_leads`), and whichever way it is, the value of the digits with the sign is what is read
(`leadingInteger_eq`).

What is taken for a digit is decided by the lower-case form of a character, and what its value is by
the character.  The two differ for one character only (`looksLikeDigit_iff`), and reading fails
there, or because the digits are too many.
-/

namespace SandboxLisp

namespace Numeral

/-- The number that digits stand for has them as its digits, the least of which stands last. -/
theorem ofDigits_eq (radix : Nat) (digits : List Nat) :
    ofDigits radix digits = Nat.ofDigits radix digits.reverse := by
  have sum (digits : List Nat) : placeSum radix digits = Nat.ofDigits radix digits := by
    induction digits with
    | nil => rfl
    | cons digit rest ih => simp only [placeSum, Nat.ofDigits_cons, ih]
  rw [ofDigits, ofLeastFirst_eq_placeSum, sum]

/-- Characters behind the small letters are no digits. -/
theorem alphanumericValue?_of_le {character : Char} (behind : 0x7b ≤ character.toNat) :
    alphanumericValue? character = none := by
  have notDigit : ¬ character.isDigit = true := by
    intro digit
    have within := of_decide_eq_true (Bool.and_eq_true_iff.mp digit).2
    exact absurd (Nat.le_trans behind within) (by decide)
  have notLower : ¬ character.isLower = true := by
    intro lower
    have within := of_decide_eq_true (Bool.and_eq_true_iff.mp lower).2
    exact absurd (Nat.le_trans behind within) (by decide)
  have notUpper : ¬ character.isUpper = true := by
    intro upper
    have within := (of_decide_eq_true upper).2
    exact absurd (Nat.le_trans behind within) (by decide)
  rw [alphanumericValue?, if_neg notDigit, if_neg notLower, if_neg notUpper]

/-- Nor is the character of such a code, be there one or not. -/
theorem alphanumericValue?_ofNat {code : Nat} (behind : 0x7b ≤ code) :
    alphanumericValue? (Char.ofNat code) = none := by
  by_cases valid : code.isValidChar
  · have same : (Char.ofNat code).toNat = code := by
      rw [Char.ofNat, dif_pos valid]
      rfl
    exact alphanumericValue?_of_le (Nat.le_trans behind (Nat.le_of_eq same.symm))
  · rw [Char.ofNat, dif_neg valid]
    rfl

/-- A capital letter stands for the same digit as the small one. -/
theorem alphanumericValue?_capital {character : Char} (low : 0x41 ≤ character.toNat)
    (high : character.toNat ≤ 0x5a) :
    alphanumericValue? (Char.ofNat (character.toNat + 32)) = alphanumericValue? character := by
  have each : ∀ index < 26, alphanumericValue? (Char.ofNat (0x41 + index + 32)) =
      alphanumericValue? (Char.ofNat (0x41 + index)) := by decide +kernel
  have found := each (character.toNat - 0x41) (by omega)
  rwa [Nat.add_sub_cancel' low, Char.ofNat_toNat] at found

end Numeral

namespace Primitive

/-- The sign of a unit of temperature, of which the lower-case form is the letter `k`. -/
def kelvinSign : Char := '\u212a'

/-- A run of capital letters is that of ASCII, or the sign alone, or it is behind the small letters
of ASCII and leads to letters behind them. -/
theorem lowerRuns_apart : ∀ run ∈ Text.lowerRuns,
    (run.first = 0x41 ∧ run.last = 0x5a ∧ run.shift = 32) ∨
      (run.first = 0x212a ∧ run.last = 0x212a ∧ run.shift = -8383) ∨
        (0x7b ≤ run.first ∧ 0x7b ≤ run.first + run.shift) := by
  decide +kernel

open Numeral

/-- The small letter of a character stands for the same digit, unless the character is the sign. -/
theorem alphanumericValue?_shifted {character lower : Char} (other : character ≠ kelvinSign)
    (shifted : Text.shiftedBy? Text.lowerRuns character.toNat = some lower) :
    alphanumericValue? lower = alphanumericValue? character := by
  rw [Text.shiftedBy?, Option.map_eq_some_iff] at shifted
  obtain ⟨run, found, rfl⟩ := shifted
  have within := List.find?_some found
  simp only [Bool.and_eq_true, decide_eq_true_eq] at within
  obtain ⟨⟨low, high⟩, _⟩ := within
  rcases lowerRuns_apart run (List.mem_of_find?_eq_some found) with
    ⟨first, last, shift⟩ | ⟨first, last, shift⟩ | ⟨first, shifted⟩
  · rw [first] at low
    rw [last] at high
    rw [shift]
    exact alphanumericValue?_capital low high
  · refine absurd ?_ other
    rw [← Char.ofNat_toNat character, show character.toNat = 0x212a by omega]
    rfl
  · rw [alphanumericValue?_ofNat (by omega), alphanumericValue?_of_le (by omega)]

/-- A character is taken for a digit if it is one, and the sign is where `k` is one. -/
theorem looksLikeDigit_iff (radix : Nat) (character : Char) :
    looksLikeDigit radix character = true ↔
      (radixDigit? radix character).isSome = true ∨ (character = kelvinSign ∧ 20 < radix) := by
  by_cases sign : character = kelvinSign
  · have lower : Text.lowerForm kelvinSign = ['k'] := by decide +kernel
    have value : alphanumericValue? 'k' = some 20 := by decide
    have noDigit : alphanumericValue? kelvinSign = none := by decide
    simp [sign, looksLikeDigit, lower, radixDigit?, value, noDigit]
  simp only [sign, false_and, or_false]
  rw [looksLikeDigit, Text.lowerForm, Text.caseForm]
  cases expanded : Text.lowerExpansions.lookup character.toNat with
  | some codes =>
    -- Only the dotted capital letter has a longer form, and it is no digit.
    rw [Text.lowerExpansions, List.lookup_cons] at expanded
    split at expanded
    · next dotted =>
      obtain rfl := Option.some.inj expanded
      have behind : 0x7b ≤ character.toNat := by rw [eq_of_beq dotted]; decide
      simp [radixDigit?, alphanumericValue?_of_le behind]
    · cases expanded
  | none =>
    cases shifted : Text.shiftedBy? Text.lowerRuns character.toNat with
    | none => rfl
    | some lower =>
      simp only [Option.getD_some, radixDigit?, alphanumericValue?_shifted sign shifted]

/-! ### Taking a text apart -/

/-- A text without its blanks at both ends, and the blanks. -/
theorem exists_trim (text : List Char) :
    ∃ before after, text = before ++ Text.trim text ++ after ∧
      (∀ c ∈ before ++ after, Text.isBlank c = true) ∧
      (∀ c ∈ (Text.trim text).head?, Text.isBlank c = false) ∧
      ∀ c ∈ (Text.trim text).getLast?, Text.isBlank c = false := by
  have ends : Text.trim text ++ (text.dropWhile Text.isBlank).rtakeWhile Text.isBlank =
      text.dropWhile Text.isBlank := List.rdropWhile_append_rtakeWhile
  refine ⟨text.takeWhile Text.isBlank, (text.dropWhile Text.isBlank).rtakeWhile Text.isBlank,
    ?_, ?_, ?_, ?_⟩
  · rw [List.append_assoc, ends, List.takeWhile_append_dropWhile]
  · intro c among
    rcases List.mem_append.mp among with first | last
    · exact List.mem_takeWhile_imp first
    · exact List.mem_rtakeWhile_imp last
  · intro c starts
    apply @Text.not_of_head?_dropWhile _ text
    rw [← ends, List.head?_append, starts, Option.some_or]
  · intro c stops
    rw [Text.trim, List.getLast?_reverse] at stops
    exact Text.not_of_head?_dropWhile stops

/-- A run is dropped from in front of a text that starts with something else. -/
theorem dropWhile_run {test : Char → Bool} {run text : List Char}
    (inside : ∀ c ∈ run, test c = true) (stops : ∀ c ∈ text.head?, test c = false) :
    (run ++ text).dropWhile test = text := by
  rw [List.dropWhile_append_of_pos inside]
  cases text with
  | nil => rfl
  | cons first rest =>
    rw [List.dropWhile_cons_of_neg]
    simpa using stops first rfl

/-- A text that has no blanks at its ends is what is left between blanks. -/
theorem trim_eq {before core after : List Char}
    (blanks : ∀ c ∈ before ++ after, Text.isBlank c = true)
    (starts : ∀ c ∈ core.head?, Text.isBlank c = false)
    (stops : ∀ c ∈ core.getLast?, Text.isBlank c = false) :
    Text.trim (before ++ core ++ after) = core := by
  rw [Text.trim]
  rcases List.eq_nil_or_concat core with rfl | ⟨others, last, rfl⟩
  · have all : (before ++ after ++ []).dropWhile Text.isBlank = [] := dropWhile_run blanks nofun
    rw [List.append_nil] at all
    rw [List.append_nil, all]
    rfl
  · obtain ⟨blanks, blanks'⟩ := List.forall_mem_append.mp blanks
    rw [List.append_assoc, dropWhile_run blanks, List.reverse_append,
      dropWhile_run (fun c among => blanks' c (List.mem_reverse.mp among)), List.reverse_reverse]
    · rwa [List.head?_reverse]
    · intro c first
      refine starts c ?_
      cases others <;> exact first

/-- A text with a sign in front of it or none, whether the sign is a minus, and the text behind. -/
inductive Signed : List Char → Bool → List Char → Prop where
  | minus (rest : List Char) : Signed ('-' :: rest) true rest
  | plus (rest : List Char) : Signed ('+' :: rest) false rest
  | unsigned {text : List Char} (noSign : ∀ c ∈ text.head?, c ≠ '-' ∧ c ≠ '+') :
      Signed text false text

/-- A text with the mark of hexadecimal numerals in front of it or none, and the text behind; only
the radix sixteen has the mark. -/
inductive Marked (radix : Nat) : List Char → List Char → Prop where
  | hex {letter : Char} (sixteen : radix = 16) (isMark : letter = 'x' ∨ letter = 'X')
      (rest : List Char) : Marked radix ('0' :: letter :: rest) rest
  | plain {text : List Char} (noMark : radix = 16 → ∀ letter rest, text = '0' :: letter :: rest →
      letter ≠ 'x' ∧ letter ≠ 'X') : Marked radix text text

theorem signed_iff {text unsigned : List Char} {negative : Bool} :
    Signed text negative unsigned ↔ takeSign text = (negative, unsigned) := by
  constructor
  · rintro (_ | _ | noSign)
    · rfl
    · rfl
    · unfold takeSign
      split
      · exact absurd rfl (noSign _ rfl).1
      · exact absurd rfl (noSign _ rfl).2
      · rfl
  · intro taken
    unfold takeSign at taken
    split at taken
    · cases taken
      exact .minus _
    · cases taken
      exact .plus _
    · next noMinus noPlus =>
      cases taken
      refine .unsigned fun c starts => ?_
      obtain ⟨rest, rfl⟩ := List.head?_eq_some_iff.mp starts
      exact ⟨fun same => noMinus rest (same ▸ rfl), fun same => noPlus rest (same ▸ rfl)⟩

theorem marked_iff {radix : Nat} {text unmarked : List Char} :
    Marked radix text unmarked ↔
      (if radix = 16 then withoutHexMark text else text) = unmarked := by
  by_cases sixteen : radix = 16
  · rw [if_pos sixteen]
    constructor
    · rintro (⟨_, rfl | rfl, _⟩ | noMark)
      · rfl
      · rfl
      · unfold withoutHexMark
        split
        · exact absurd rfl (noMark sixteen _ _ rfl).1
        · exact absurd rfl (noMark sixteen _ _ rfl).2
        · rfl
    · rintro rfl
      unfold withoutHexMark
      split
      · exact .hex sixteen (.inl rfl) _
      · exact .hex sixteen (.inr rfl) _
      · next noSmall noCapital =>
        refine .plain fun _ letter rest same => ⟨?_, ?_⟩
        · rintro rfl
          exact noSmall rest same
        · rintro rfl
          exact noCapital rest same
  · rw [if_neg sixteen]
    constructor
    · rintro (⟨absurd, _⟩ | _)
      · contradiction
      · rfl
    · rintro rfl
      exact .plain fun absurd => by contradiction

/-- A text is taken apart as a leading integer in a radix: between blanks stand a sign or none, for
the radix sixteen a mark or none, as many digits as there are, and the rest. -/
inductive Leads (radix : Nat) : List Char → Bool → List Nat → List Char → Prop where
  | intro {before core after unsigned spelling rest : List Char} {negative : Bool}
      {digits : List Nat} (blanks : ∀ c ∈ before ++ after, Text.isBlank c = true)
      (starts : ∀ c ∈ core.head?, Text.isBlank c = false)
      (stops : ∀ c ∈ core.getLast?, Text.isBlank c = false)
      (sign : Signed core negative unsigned) (mark : Marked radix unsigned (spelling ++ rest))
      (spells : spelling.map (radixDigit? radix) = digits.map some)
      (longest : ∀ c ∈ rest.head?, radixDigit? radix c = none) :
      Leads radix (before ++ core ++ after) negative digits rest

/-- Every text starts with as many digits as there are. -/
theorem exists_digits (radix : Nat) (text : List Char) :
    ∃ (spelling rest : List Char) (digits : List Nat), text = spelling ++ rest ∧
      spelling.map (radixDigit? radix) = digits.map some ∧
      ∀ c ∈ rest.head?, radixDigit? radix c = none := by
  induction text with
  | nil => exact ⟨[], [], [], rfl, rfl, nofun⟩
  | cons first others ih =>
    cases value : radixDigit? radix first with
    | none => exact ⟨[], first :: others, [], rfl, rfl, by simpa using value⟩
    | some digit =>
      obtain ⟨spelling, rest, digits, rfl, spells, longest⟩ := ih
      exact ⟨first :: spelling, rest, digit :: digits, rfl, by simp [value, spells], longest⟩

/-- Every text is taken apart in some way. -/
theorem exists_leads (radix : Nat) (text : List Char) :
    ∃ negative digits rest, Leads radix text negative digits rest := by
  obtain ⟨before, after, split, blanks, starts, stops⟩ := exists_trim text
  obtain ⟨negative, unsigned, sign⟩ : ∃ negative unsigned,
      Signed (Text.trim text) negative unsigned := ⟨_, _, signed_iff.mpr rfl⟩
  obtain ⟨unmarked, mark⟩ : ∃ unmarked, Marked radix unsigned unmarked := ⟨_, marked_iff.mpr rfl⟩
  obtain ⟨spelling, rest, digits, rfl, spells, longest⟩ := exists_digits radix unmarked
  refine ⟨negative, digits, rest, ?_⟩
  rw [split]
  exact .intro blanks starts stops sign mark spells longest

/-! ### What is read -/

/-- Characters that are digits are taken for digits, and behind them at most the sign is. -/
theorem takeWhile_looksLikeDigit {radix : Nat} {spelling rest : List Char} {digits : List Nat}
    (spells : spelling.map (radixDigit? radix) = digits.map some)
    (longest : ∀ c ∈ rest.head?, radixDigit? radix c = none) :
    ∃ strange, (spelling ++ rest).takeWhile (looksLikeDigit radix) = spelling ++ strange ∧
      (∀ c ∈ strange.head?, radixDigit? radix c = none) ∧
      (strange ≠ [] ↔ rest.head? = some kelvinSign ∧ 20 < radix) := by
  have inside : ∀ c ∈ spelling, looksLikeDigit radix c = true := by
    intro c among
    have value : radixDigit? radix c ∈ digits.map some := spells ▸ List.mem_map_of_mem among
    obtain ⟨digit, _, same⟩ := List.mem_map.mp value
    exact (looksLikeDigit_iff radix c).mpr (.inl (by rw [← same, Option.isSome_some]))
  refine ⟨rest.takeWhile (looksLikeDigit radix), List.takeWhile_append_of_pos inside, ?_⟩
  cases rest with
  | nil => simp
  | cons first others =>
    have noDigit : radixDigit? radix first = none := longest first rfl
    have looks := looksLikeDigit_iff radix first
    rw [noDigit, Option.isSome_none, or_iff_right Bool.false_ne_true] at looks
    by_cases strange : looksLikeDigit radix first = true
    · rw [List.takeWhile_cons_of_pos strange]
      simpa [noDigit] using looks.mp strange
    · rw [List.takeWhile_cons_of_neg strange]
      simpa [strange] using looks

/-- The integer that characters taken for digits spell: none if they are too many, or if one of them
is no digit. -/
theorem radixNumeral_eq {radix : Nat} {spelling strange : List Char} {digits : List Nat}
    (spells : spelling.map (radixDigit? radix) = digits.map some)
    (stops : ∀ c ∈ strange.head?, radixDigit? radix c = none) :
    radixNumeral radix (spelling ++ strange) =
      if NumberError.digitLimit < digits.length ∧ radix ∉ unlimitedRadixes then
        .error (.numeralTooLong digits.length)
      else if strange ≠ [] then .error (.badNumeral radix (spelling ++ strange))
      else .ok (ofDigits radix digits) := by
  have proper : (((spelling ++ strange).map (radixDigit? radix)).takeWhile
      Option.isSome).filterMap id = digits := by
    have none : (strange.map (radixDigit? radix)).takeWhile Option.isSome = [] := by
      cases strange with
      | nil => rfl
      | cons first others => simp [stops first rfl]
    rw [List.map_append, spells, List.takeWhile_append_of_pos (by simp), none]
    simp
  have lengths : spelling.length = digits.length := by
    simpa using congrArg List.length spells
  rw [radixNumeral]
  simp only [proper, List.length_append, lengths]
  simp [List.length_pos_iff]

/-- What a text is read as that is taken apart in some way. -/
theorem leadingInteger_eq {radix : Nat} {text rest : List Char} {negative : Bool}
    {digits : List Nat} (leads : Leads radix text negative digits rest) :
    ∃ shown, leadingInteger radix text =
      if NumberError.digitLimit < digits.length ∧ radix ∉ unlimitedRadixes then
        .error (.numeralTooLong digits.length)
      else if rest.head? = some kelvinSign ∧ 20 < radix then .error (.badNumeral radix shown)
      else .ok (if negative then -(ofDigits radix digits : Int) else ofDigits radix digits) := by
  obtain ⟨blanks, starts, stops, sign, mark, spells, longest⟩ := leads
  obtain ⟨strange, taken, noDigit, iff⟩ := takeWhile_looksLikeDigit spells longest
  rw [leadingInteger, trim_eq blanks starts stops, signed_iff.mp sign]
  dsimp only
  rw [marked_iff.mp mark, taken]
  generalize digitsTaken : _ ++ strange = spelled
  refine ⟨spelled, ?_⟩
  split
  · obtain ⟨rfl, rfl⟩ := List.append_eq_nil_iff.mp digitsTaken
    obtain rfl : digits = [] := List.map_eq_nil_iff.mp spells.symm
    have noSign : ¬ (rest.head? = some kelvinSign ∧ 20 < radix) := fun sign => iff.mpr sign rfl
    rw [if_neg (fun long => Nat.not_lt_zero _ long.1), if_neg noSign, ofDigits_nil]
    cases negative <;> rfl
  · rw [← digitsTaken, radixNumeral_eq spells noDigit]
    simp only [iff]
    split
    · rfl
    split
    · rfl
    · rfl

/-! ### The primitive -/

open Eval

/-- A string is displayed as it is. -/
theorem text_string (shown : String) : text .display (.string shown) = pure shown :=
  rfl

section Run

variable (recur : Datum → Eval Datum) (shown : String) (around : Surroundings) (world : World)

/-- A string is read in a radix as its leading integer. -/
theorem parseInteger_run {radix : Nat} (least : 2 ≤ radix) (most : radix ≤ 36) :
    parseInteger recur [.string shown, .int radix] around world =
      (((leadingInteger radix shown.toList).map Datum.int).mapError EvalError.number, world) := by
  have given : (Datum.int radix).isUnset = false := by
    simp [Datum.isUnset]
    omega
  have inside : 2 ≤ (radix : Int) ∧ (radix : Int) ≤ 36 := by omega
  have integer : expectInteger "parse-int" (.int radix) = pure (radix : Int) := rfl
  rw [parseInteger, oneOrTwo]
  simp only [given, Bool.false_eq_true, if_false, integer, pure_bind, if_pos inside, text_string,
    Int.toNat_natCast]
  cases leadingInteger radix shown.toList <;> rfl

/-- Without a radix it is read in the radix ten. -/
theorem parseInteger_run_ten :
    parseInteger recur [.string shown] around world =
      (((leadingInteger 10 shown.toList).map Datum.int).mapError EvalError.number, world) := by
  have inside : 2 ≤ (10 : Int) ∧ (10 : Int) ≤ 36 := by decide
  rw [parseInteger, oneOrTwo]
  simp only [pure_bind, if_pos inside, text_string]
  show (ofNumber (leadingInteger 10 shown.toList) >>= _) around world = _
  cases leadingInteger 10 shown.toList <;> rfl

end Run

/-! ### Integers that are written -/

/-- A digit of ASCII is one of the radix ten. -/
theorem radixDigit?_ten {character : Char} (digit : character.isDigit = true) :
    radixDigit? 10 character = some (character.toNat - 48) := by
  have least : character.toNat < 58 := by
    rw [Char.isDigit, Bool.and_eq_true, decide_eq_true_eq, decide_eq_true_eq] at digit
    exact Nat.lt_succ_of_le digit.2
  have small : character.toNat - 48 < 10 := by omega
  rw [radixDigit?, alphanumericValue?, if_pos digit, Option.filter_some,
    if_pos (decide_eq_true small)]

/-- No character of an integer's text is a blank. -/
theorem isBlank_of_mem_integerText {value : Int} {c : Char} (among : c ∈ Datum.integerText value) :
    Text.isBlank c = false := by
  rw [integerText_eq] at among
  exact (Bool.or_eq_false_iff.mp (Spelling.isDelimiter_signed _ _ c among)).1

/-- The text of an integer is taken apart as its sign and its digits. -/
theorem leads_integerText (value : Int) :
    Leads 10 (Datum.integerText value) (decide (value < 0))
      (digitsOf (decimalDigits value.natAbs)) [] := by
  have isDigit := isDigit_of_mem_decimalDigits value.natAbs
  have sign : Signed (Datum.integerText value) (decide (value < 0))
      (decimalDigits value.natAbs) := by
    rw [Datum.integerText]
    by_cases negative : value < 0
    · rw [if_pos negative, decide_eq_true negative]
      exact .minus _
    · rw [if_neg negative, decide_eq_false negative]
      refine .unsigned fun c starts => ?_
      have digit : c.isDigit = true := isDigit c (List.mem_of_head? starts)
      constructor <;>
      · rintro rfl
        cases digit
  have mark : Marked 10 (decimalDigits value.natAbs) (decimalDigits value.natAbs ++ []) := by
    rw [List.append_nil]
    exact .plain fun sixteen => absurd sixteen (by decide)
  have spells : (decimalDigits value.natAbs).map (radixDigit? 10) =
      (digitsOf (decimalDigits value.natAbs)).map some := by
    rw [digitsOf, List.map_map]
    exact List.map_congr_left fun c among => radixDigit?_ten (isDigit c among)
  have leads : Leads 10 ([] ++ Datum.integerText value ++ []) (decide (value < 0))
      (digitsOf (decimalDigits value.natAbs)) [] := by
    refine .intro (List.forall_mem_nil _) ?_ ?_ sign mark spells ?_
    · exact fun _ starts => isBlank_of_mem_integerText (List.mem_of_head? starts)
    · exact fun _ stops => isBlank_of_mem_integerText (List.mem_of_getLast? stops)
    · rintro _ ⟨⟩
  rwa [List.nil_append, List.append_nil] at leads

/-- A text that an integer is written as is read as the integer. -/
theorem leadingInteger_integerText {value : Int} (writable : Datum.isWritableInteger value = true) :
    leadingInteger 10 (Datum.integerText value) = .ok value := by
  obtain ⟨shown, read⟩ := leadingInteger_eq (leads_integerText value)
  have short : (digitsOf (decimalDigits value.natAbs)).length ≤ NumberError.digitLimit := by
    rw [length_digitsOf]
    exact length_decimalDigits_le (by simpa [Datum.isWritableInteger] using writable)
  rw [read, if_neg (fun long => absurd long.1 (Nat.not_lt_of_le short)), if_neg (by simp),
    ofDigits_decimalDigits, signed_natAbs]

/-- An integer is displayed as its text if that is not too long. -/
theorem toText_integer (recur : Datum → Eval Datum) (value : Int) (around : Surroundings)
    (world : World) :
    toText recur [.int value] around world =
      (if Datum.isWritableInteger value then .ok (.string (String.ofList (Datum.integerText value)))
        else .error (.number .integerTooLong), world) := by
  have shown : around.text .display (.int value) =
      if Datum.isWritableInteger value then .ok (String.ofList (Datum.integerText value))
        else .error (.number .integerTooLong) := by
    rw [Surroundings.text, Datum.textWithin]
    simp only [Datum.plainText?, Datum.fault?, Datum.render]
    split <;> rfl
  rw [toText, unary, bind_apply, text, bind_apply]
  simp only [surroundings, shown]
  cases Datum.isWritableInteger value <;> rfl

/-- `parse-int` reads a string in a radix: whichever way the string is taken apart as a leading
integer, the value of the digits with the sign is read.  It fails for two reasons only: there are
more digits than a numeral may have in the radix, or behind the digits stands the sign whose
lower-case form is a letter that the radix has as a digit.  What `str` writes for an integer is read
as the integer. -/
theorem parseInteger_reads (recur : Datum → Eval Datum) (around : Surroundings) (world : World) :
    (∀ (shown : String) (radix : Nat), 2 ≤ radix → radix ≤ 36 →
      (∃ negative digits rest, Leads radix shown.toList negative digits rest) ∧
      ∀ negative digits rest, Leads radix shown.toList negative digits rest →
        let value : Nat := Nat.ofDigits radix digits.reverse
        ∃ spelled, parseInteger recur [.string shown, .int radix] around world =
          (if NumberError.digitLimit < digits.length ∧ radix ∉ unlimitedRadixes then
            .error (.number (.numeralTooLong digits.length))
          else if rest.head? = some kelvinSign ∧ 20 < radix then
            .error (.number (.badNumeral radix spelled))
          else .ok (.int (if negative then -(value : Int) else value)), world)) ∧
    ∀ value shown, toText recur [.int value] around world = (.ok (.string shown), world) →
      parseInteger recur [.string shown] around world = (.ok (.int value), world) := by
  refine ⟨fun shown radix least most => ⟨exists_leads radix shown.toList, ?_⟩, ?_⟩
  · intro negative digits rest leads value
    obtain ⟨spelled, read⟩ := leadingInteger_eq leads
    refine ⟨spelled, ?_⟩
    rw [parseInteger_run recur shown around world least most, read]
    simp only [value, ofDigits_eq]
    split
    · rfl
    split <;> rfl
  · intro value shown written
    rw [toText_integer] at written
    split at written
    · next writable =>
      cases written
      rw [parseInteger_run_ten, String.toList_ofList, leadingInteger_integerText writable]
      rfl
    · cases written

/-- A negative hexadecimal numeral with a mark, blanks in front of it and a letter behind it, the
sign alone in the radix thirty-six, and the text of a negative integer. -/
theorem parseInteger_reads_texts :
    let around := (Evaluator.mk 100 .default).surroundings (.int 0)
    let world : World := .ofScope [] 0
    let recur := evaluateFor .default 5
    let marked := [' ', '-', '0', 'x', '1', 'F', 'z']
    (Leads 16 marked true [1, 15] ['z'] ∧
      parseInteger recur [.string (String.ofList marked), .int 16] around world =
        (.ok (.int (-31)), world)) ∧
    (Leads 36 [kelvinSign] false [] [kelvinSign] ∧
      ∃ spelled, parseInteger recur [.string (String.ofList [kelvinSign]), .int 36] around world =
        (.error (.number (.badNumeral 36 spelled)), world)) ∧
    (toText recur [.int (-7)] around world = (.ok (.string (String.ofList ['-', '7'])), world) ∧
      parseInteger recur [.string (String.ofList ['-', '7'])] around world =
        (.ok (.int (-7)), world)) := by
  intro around world recur marked
  obtain ⟨strings, integers⟩ := parseInteger_reads recur around world
  have leads : Leads 16 ([' '] ++ ['-', '0', 'x', '1', 'F', 'z'] ++ []) true [1, 15] ['z'] := by
    have mark : Marked 16 ['0', 'x', '1', 'F', 'z'] (['1', 'F'] ++ ['z']) := .hex rfl (.inl rfl) _
    have blanks : ∀ c ∈ [' '] ++ [], Text.isBlank c = true := List.forall_mem_singleton.mpr rfl
    have spells : ['1', 'F'].map (radixDigit? 16) = [1, 15].map some := rfl
    refine .intro blanks ?_ ?_ (.minus _) mark spells ?_ <;>
    · rintro _ ⟨⟩
      rfl
  have alone : Leads 36 ([] ++ [kelvinSign] ++ []) false [] [kelvinSign] := by
    have mark : Marked 36 [kelvinSign] ([] ++ [kelvinSign]) :=
      .plain fun sixteen => absurd sixteen (by decide)
    have noSign : ∀ c ∈ [kelvinSign].head?, c ≠ '-' ∧ c ≠ '+' := by
      rintro _ ⟨⟩
      decide
    refine .intro nofun ?_ ?_ (.unsigned noSign) mark rfl ?_ <;>
    · rintro _ ⟨⟩
      rfl
  have few : 7 < Datum.writableBound := by
    unfold Datum.writableBound
    calc
      7 < 10 ^ 1 := by decide
      _ ≤ 10 ^ NumberError.digitLimit := Nat.pow_le_pow_right (by decide) (by decide)
  have writable : Datum.isWritableInteger (-7) = true := decide_eq_true few
  have written : toText recur [.int (-7)] around world =
      (.ok (.string (String.ofList ['-', '7'])), world) := by
    rw [toText_integer, if_pos writable]
    rfl
  refine ⟨⟨leads, ?_⟩, ⟨alone, ?_⟩, written, integers (-7) _ written⟩
  · obtain ⟨_, read⟩ := (strings (String.ofList marked) 16 (by decide) (by decide)).2 true [1, 15]
      ['z'] (String.toList_ofList ▸ leads)
    exact read
  · obtain ⟨spelled, read⟩ := (strings (String.ofList [kelvinSign]) 36 (by decide) (by decide)).2
      false [] [kelvinSign] (String.toList_ofList ▸ alone)
    exact ⟨spelled, read⟩

end Primitive

end SandboxLisp
