import SandboxLisp.Proofs.Reading.Cutting
import SandboxLisp.Proofs.Reading.Diagnostics

/-!
# What can be read can be written

A text is read as a datum of nil, booleans, integers, finite doubles, strings, names and lists, and
as nothing else.  Such a datum is written back and read again unless it contains an integer of too
many decimal digits.  Decimal numerals cannot spell such an integer, so it stands in the text as a
radix numeral.

The tokens of the text carry the argument: whatever holds of the datum of every token, and of a list
if it holds of its items, holds of the datum that is read (`Brackets.holds_of_read`).
-/

namespace SandboxLisp

namespace Datum

/-- A datum that a text can be read as. -/
inductive Legible : Datum → Prop where
  | nil : Legible .nil
  | bool (value : Bool) : Legible (.bool value)
  | int (value : Int) : Legible (.int value)
  | double (negative : Bool) (magnitude : Magnitude) :
      Legible (.double (.finite negative magnitude))
  | string (text : String) : Legible (.string text)
  | symbol {name : String} (spells : Atom.SpellsName name.toList) : Legible (.symbol name)
  | list {items : List Datum} (legible : ∀ item ∈ items, Legible item) : Legible (.list none items)

/-- The datum is the whole or stands somewhere inside of its lists. -/
inductive Part (datum : Datum) : Datum → Prop where
  | whole : Part datum datum
  | item {mark : Option Mark} {items : List Datum} {item : Datum} (among : item ∈ items)
      (inside : Part datum item) : Part datum (.list mark items)

/-- Whether an integer has more decimal digits than a numeral may have. -/
def IsLong (value : Int) : Prop :=
  NumberError.digitLimit < (decimalDigits value.natAbs).length

instance (value : Int) : Decidable (IsLong value) :=
  inferInstanceAs (Decidable (_ < _))

/-- The integers of too many digits are those that cannot be written. -/
theorem isLong_iff (value : Int) : IsLong value ↔ isWritableInteger value = false := by
  have counted (limit : Nat) (positive : 0 < limit) :
      (decimalDigits value.natAbs).length ≤ limit ↔ value.natAbs < 10 ^ limit :=
    Nat.length_toDigits_le_iff (by decide) positive
  unfold IsLong isWritableInteger writableBound
  rw [← Nat.not_le, counted _ (by decide), decide_eq_false_iff_not]

/-- What is part of an item of a list is a part of the list; the list has no other parts besides
itself. -/
theorem part_int_list_iff {value : Int} {mark : Option Mark} {items : List Datum} :
    Part (.int value) (.list mark items) ↔ ∃ item ∈ items, Part (.int value) item := by
  constructor
  · intro part
    cases part with
    | item among inside => exact ⟨_, among, inside⟩
  · rintro ⟨item, among, inside⟩
    exact .item among inside

/-- A datum that is legible has the marks that a reader gives, namely none. -/
theorem Legible.unmarked_eq {datum : Datum} (legible : datum.Legible) : datum.unmarked = datum := by
  induction legible with
  | nil | bool | int | double | string | symbol => rfl
  | @list items legible ih =>
    rw [unmarked]
    clear legible
    induction items with
    | nil => rfl
    | cons item rest others =>
      have behind := others fun other among => ih other (.tail _ among)
      rw [unmarkedItems, ih item (.head _)]
      simpa using behind

/-- A legible datum is readable unless an integer of too many digits is a part of it. -/
theorem Legible.readable {datum : Datum} (legible : datum.Legible)
    (short : ∀ value, Part (.int value) datum → ¬ IsLong value) : datum.Readable := by
  induction legible with
  | nil => exact .nil
  | bool value => exact .bool value
  | int value =>
    have writable := short value .whole
    rw [isLong_iff, Bool.not_eq_false] at writable
    exact .int writable
  | double negative magnitude => exact .double negative magnitude
  | string text => exact .string text
  | symbol spells => exact .symbol spells
  | list _ ih =>
    exact .list fun item among => ih item among fun value inside => short value (.item among inside)

/-- An integer of too many digits keeps the datum that it is a part of from being written. -/
theorem fault?_ne_none_of_part {value : Int} (long : IsLong value) {datum : Datum}
    (part : Part (.int value) datum) : datum.fault? .source none ≠ none := by
  induction part with
  | whole =>
    have unwritable := (isLong_iff value).mp long
    simp [fault?, unwritable]
  | item among _ ih =>
    rw [fault?, if_neg (by simp), Option.map_none, itemFault?_eq_findSome?]
    exact fun none => ih (List.findSome?_eq_none_iff.mp none _ among)

/-- A legible datum has no text exactly if an integer of too many digits is a part of it. -/
theorem Legible.text_eq_error_iff {datum : Datum} (legible : datum.Legible) :
    datum.text .source = .error .integerTooLong ↔
      ∃ value, Part (.int value) datum ∧ IsLong value := by
  rw [text, textWithin_source_eq]
  constructor
  · intro fails
    by_contra! short
    rw [(legible.readable short).fault?_eq] at fails
    cases fails
  · rintro ⟨value, part, long⟩
    cases found : datum.fault? .source none with
    | none => exact (fault?_ne_none_of_part long part found).elim
    | some fault => rfl

/-- A legible datum that is nested too deep to be written exceeds the levels. -/
theorem Legible.exceeds_of_fault? {datum : Datum} (legible : datum.Legible) {levels : Option Nat}
    (deep : datum.fault? .source levels = some .tooDeep) : datum.exceeds levels = true := by
  induction legible generalizing levels with
  | nil | bool | double | string | symbol => cases deep
  | int value =>
    rw [fault?] at deep
    split at deep <;> cases deep
  | list _ ih =>
    rw [exceeds_list, Bool.or_eq_true, beq_iff_eq, List.any_eq_true]
    by_cases spent : levels = some 0
    · exact .inl spent
    · rw [fault?, if_neg spent, itemFault?_eq_findSome?] at deep
      obtain ⟨item, among, found⟩ := List.exists_of_findSome?_eq_some deep
      exact .inr ⟨item, among, ih item among found⟩

/-- What a fault in writing its source form tells of a datum: that it exceeds the levels, or that an
integer of too many digits is a part of it. -/
def HasFault (datum : Datum) (levels : Option Nat) : TextFault → Prop
  | .tooDeep => datum.exceeds levels = true
  | .integerTooLong => ∃ value, Part (.int value) datum ∧ IsLong value

section Faults

variable {datum : Datum} {levels : Option Nat} {fault : TextFault}

/-- The failure to write a legible datum is a fault that it has. -/
theorem Legible.hasFault (legible : datum.Legible)
    (fails : datum.textWithin .source levels = .error fault) : datum.HasFault levels fault := by
  cases fault with
  | tooDeep => exact legible.exceeds_of_fault? (fault?_of_textWithin fails)
  | integerTooLong => exact legible.text_eq_error_iff.mp (text_of_integerTooLong fails)

/-- A legible datum that is written has no fault. -/
theorem Legible.not_hasFault (legible : datum.Legible) {source : String}
    (written : datum.textWithin .source levels = .ok source) : ¬ datum.HasFault levels fault := by
  have short : ∀ value, Part (.int value) datum → ¬ IsLong value := by
    intro value part long
    have fails := legible.text_eq_error_iff.mpr ⟨value, part, long⟩
    cases fails.symm.trans (text_of_textWithin written)
  intro has
  cases fault with
  | tooDeep =>
    have exceeds : datum.exceeds levels = true := has
    rw [(legible.readable short).textWithin_eq, if_pos exceeds] at written
    cases written
  | integerTooLong =>
    obtain ⟨value, part, long⟩ := has
    exact short value part long

end Faults

end Datum

/-! ### Integers of numerals -/

namespace Numeral

/-- Digits of a radix stand for a number below the power of the radix for their count. -/
theorem ofDigits_lt_pow {radix : Nat} {digits : List Nat} (each : ∀ digit ∈ digits, digit < radix) :
    ofDigits radix digits < radix ^ digits.length := by
  induction digits using List.reverseRecOn with
  | nil => simp
  | append_singleton digits digit ih =>
    have before := ih fun other among => each other (by simp [among])
    have last : digit < radix := each digit (by simp)
    rw [ofDigits_concat, List.length_append, List.length_singleton, Nat.pow_succ]
    calc ofDigits radix digits * radix + digit
        < ofDigits radix digits * radix + radix := Nat.add_lt_add_left last _
      _ = (ofDigits radix digits + 1) * radix := (Nat.succ_mul _ _).symm
      _ ≤ radix ^ digits.length * radix := Nat.mul_le_mul_right radix before

theorem ofDigits_lt_of_length_le {radix limit : Nat} {digits : List Nat} (positive : 0 < radix)
    (each : ∀ digit ∈ digits, digit < radix) (few : digits.length ≤ limit) :
    ofDigits radix digits < radix ^ limit :=
  Nat.lt_of_lt_of_le (ofDigits_lt_pow each) (Nat.pow_le_pow_right positive few)

theorem lt_ten_of_mem_takeDigits (characters : List Char) :
    ∀ digit ∈ (takeDigits characters).1, digit < 10 := by
  induction characters with
  | nil => simp [takeDigits]
  | cons character rest ih =>
    rw [takeDigits]
    cases found : Text.digitValue? character with
    | none => simp
    | some first => simpa using ⟨Text.digitValue?_lt found, ih⟩

theorem lt_ten_of_takeMantissa? {characters rest : List Char} {whole : List Nat}
    {fraction : Option (List Nat)}
    (taken : takeMantissa? characters = some ((whole, fraction), rest)) :
    ∀ digit ∈ whole, digit < 10 := by
  have digits := lt_ten_of_mem_takeDigits characters
  unfold takeMantissa? at taken
  split at taken
  · split at taken
    · cases taken
    · cases taken
      simp
  · cases taken
  · next found =>
    rw [found] at digits
    cases taken
    exact digits
  · next found =>
    rw [found] at digits
    cases taken
    exact digits

theorem lt_ten_of_scan? {characters rest : List Char} {numeral : Numeral}
    (scanned : scan? characters = some (numeral, rest)) : ∀ digit ∈ numeral.whole, digit < 10 := by
  unfold scan? at scanned
  dsimp only at scanned
  split at scanned
  · cases scanned
  · next taken =>
    cases scanned
    exact lt_ten_of_takeMantissa? taken

/-- A decimal numeral that has an integer for its value does not have too many digits for it. -/
theorem not_isLong_of_value {characters rest : List Char} {numeral : Numeral} {value : Int}
    (scanned : scan? characters = some (numeral, rest))
    (valued : numeral.value = .ok (.int value)) :
    ¬ Datum.IsLong value := by
  unfold Numeral.value at valued
  split at valued
  · split at valued
    · cases valued
    · next few =>
      cases valued
      have magnitude : numeral.wholeValue.natAbs = ofDigits 10 numeral.whole := by
        unfold wholeValue
        split <;> simp
      have below := ofDigits_lt_of_length_le (by decide) (lt_ten_of_scan? scanned)
        (Nat.le_of_not_lt few)
      rw [Datum.isLong_iff, Bool.not_eq_false]
      unfold Datum.isWritableInteger Datum.writableBound
      rw [magnitude]
      exact decide_eq_true below
  · cases valued

/-- A number that is read is the value of a decimal numeral, and finite, or that of a radix
numeral. -/
theorem of_read {spelling : List Char} {number : Number}
    (reads : read spelling = .ok (some number)) :
    (∃ numeral, scan? spelling = some (numeral, []) ∧ numeral.value = .ok number ∧
      ∀ value, number = .double value → value.isFinite = true) ∨
    ∃ value, radixValue? spelling = some value ∧ number = .int value := by
  unfold read at reads
  split at reads
  · next numeral scanned =>
    refine .inl ⟨numeral, scanned, ?_⟩
    cases valued : numeral.value with
    | error cause =>
      rw [valued] at reads
      cases reads
    | ok found =>
      rw [valued] at reads
      cases found with
      | int value =>
        cases reads
        exact ⟨rfl, by simp⟩
      | nan =>
        cases reads
        exact ⟨rfl, by simp⟩
      | double value =>
        dsimp only at reads
        split at reads
        · next finite =>
          cases reads
          exact ⟨rfl, by simpa using finite⟩
        · cases reads
  · cases found : radixValue? spelling with
    | none =>
      rw [found] at reads
      cases reads
    | some value =>
      rw [found] at reads
      cases reads
      exact .inr ⟨value, rfl, rfl⟩

/-- An integer of too many digits is not spelled by a decimal numeral. -/
theorem radixValue?_of_isLong {spelling : List Char} {value : Int} (long : Datum.IsLong value)
    (reads : read spelling = .ok (some (.int value))) : radixValue? spelling = some value := by
  rcases of_read reads with ⟨numeral, scanned, valued, -⟩ | ⟨found, radix, same⟩
  · exact (not_isLong_of_value scanned valued long).elim
  · cases same
    exact radix

end Numeral

/-! ### What the tokens of a text are read as -/

namespace Brackets

open Token

/-- Whatever holds of the data of the tokens and of lists of such data holds of the datum that is
read. -/
theorem holds_of_expression {holds : Datum → Prop} {pending : List Opened}
    {tokens rest : List Token}
    {datum : Datum}
    (lists : ∀ items : List Datum, (∀ item ∈ items, holds item) → holds (.list none items))
    (leaves : ∀ token ∈ tokens, ∀ leaf, token.lexeme.item? = some (.datum leaf) → holds leaf)
    (started : ∀ opened ∈ pending, ∀ item ∈ opened.items, holds item)
    (read : expression pending tokens = .ok (datum, rest)) : holds datum := by
  have closed (opened : Opened) (each : ∀ item ∈ opened.items, holds item) : holds opened.close :=
    lists _ fun item among => each item (List.mem_reverse.mp among)
  have pushed {opened : Opened} {value : Datum} (each : ∀ item ∈ opened.items, holds item)
      (one : holds value) : ∀ item ∈ (opened.push value).items, holds item := by
    intro item among
    rcases List.mem_cons.mp among with rfl | earlier
    · exact one
    · exact each item earlier
  fun_induction expression pending tokens with
  | case1 => cases read
  | case2 => cases read
  | case3 => cases read
  | case4 outer token others contributes ih =>
    refine ih (fun other among => leaves other (.tail _ among)) ?_ read
    rintro opened (_ | ⟨_, among⟩)
    · simp
    · exact started opened among
  | case5 => cases read
  | case6 token others outermost contributes =>
    cases read
    exact closed outermost (started outermost (.head _))
  | case7 token others innermost next outer contributes ih =>
    refine ih (fun other among => leaves other (.tail _ among)) ?_ read
    rintro opened (_ | ⟨_, among⟩)
    · exact pushed (started next (.tail _ (.head _)))
        (closed innermost (started innermost (.head _)))
    · exact started opened (.tail _ (.tail _ among))
  | case8 token others value contributes =>
    cases read
    exact leaves token (.head _) _ contributes
  | case9 token others value innermost outer contributes ih =>
    refine ih (fun other among => leaves other (.tail _ among)) ?_ read
    rintro opened (_ | ⟨_, among⟩)
    · exact pushed (started innermost (.head _)) (leaves token (.head _) value contributes)
    · exact started opened (.tail _ among)

end Brackets

namespace Reader

/-- A text is read as a datum exactly if its tokens are. -/
theorem parse_eq_ok_iff {text : List Char} {tokens : List Token} {datum : Datum}
    (cut : Token.tokenize text = .ok tokens) :
    parse text = .ok datum ↔ Brackets.read tokens = .ok datum := by
  have same := Brackets.parse_eq_read cut
  cases parsed : parse text <;> cases read : Brackets.read tokens <;>
    simp_all [Except.mapError]

/-- Whatever holds of the data of the tokens and of lists of such data holds of the datum of the
text. -/
theorem holds_of_parse {holds : Datum → Prop} {text : List Char} {tokens : List Token}
    {datum : Datum} (cut : Token.tokenize text = .ok tokens)
    (lists : ∀ items : List Datum, (∀ item ∈ items, holds item) → holds (.list none items))
    (leaves : ∀ token ∈ tokens, ∀ leaf, token.lexeme.item? = some (.datum leaf) → holds leaf)
    (parsed : parse text = .ok datum) : holds datum := by
  have read := (parse_eq_ok_iff cut).mp parsed
  unfold Brackets.read at read
  split at read
  · cases read
  · next taken =>
    cases read
    exact Brackets.holds_of_expression lists leaves (by simp) taken
  · next taken =>
    split at read
    · cases read
      exact Brackets.holds_of_expression lists leaves (by simp) taken
    · cases read

/-- An atom that is classified as a symbol is read as nil or as that symbol. -/
theorem legible_of_symbol {spelling after : List Char} {name : String}
    (isAtom : Token.IsAtom spelling after) (spells : Token.classify spelling = .ok (.symbol name)) :
    (Lexeme.datumOfName name).Legible := by
  obtain ⟨rfl, notBoolean, notNumber⟩ := Token.of_classify_symbol spells
  rw [← String.ofList_toList (s := name), Token.datumOfName_ofList, String.ofList_toList]
  split
  · exact .nil
  · next notNil =>
    exact .symbol ⟨isAtom.ne_nil, isAtom.plain, notBoolean, Bool.eq_false_iff.mpr notNil, notNumber⟩

/-- A number that a text spells is an integer or a finite double. -/
theorem legible_of_number {spelling : List Char} {value : Number}
    (reads : Numeral.read spelling = .ok (some value)) : (Lexeme.datumOfNumber value).Legible := by
  cases value with
  | int value => exact .int value
  | nan => exact (Token.read_ne_nan spelling reads).elim
  | double value =>
    rcases Numeral.of_read reads with ⟨numeral, -, -, finite⟩ | ⟨found, -, same⟩
    · cases value with
      | finite negative magnitude => exact .double negative magnitude
      | infinite negative => cases finite _ rfl
    · cases same

/-- A radix numeral of the text spells the integer. -/
def HasRadixNumeral (text : List Char) (value : Int) : Prop :=
  ∃ before spelling after, Token.AtomAt text before spelling after ∧
    Numeral.radixValue? spelling = some value

/-- The datum is legible, and its integers of too many digits stand in the text as radix
numerals. -/
structure LegibleIn (text : List Char) (datum : Datum) : Prop where
  legible : datum.Legible
  radix (value : Int) (part : Datum.Part (.int value) datum) (long : Datum.IsLong value) :
    HasRadixNumeral text value

theorem LegibleIn.list {text : List Char} {items : List Datum}
    (each : ∀ item ∈ items, LegibleIn text item) : LegibleIn text (.list none items) where
  legible := .list fun item among => (each item among).legible
  radix value part long := by
    obtain ⟨item, among, inside⟩ := Datum.part_int_list_iff.mp part
    exact (each item among).radix value inside long

/-- The datum of a token is legible in the text that the token comes from. -/
theorem legibleIn_of_token {text : List Char} {tokens : List Token} {token : Token} {datum : Datum}
    (cut : Token.tokenize text = .ok tokens) (among : token ∈ tokens)
    (contributes : token.lexeme.item? = some (.datum datum)) : LegibleIn text datum := by
  have spelled := Token.exists_atomAt_of_mem cut among
  obtain ⟨lexeme, position⟩ := token
  cases lexeme with
  | leftParen | rightParen | endOfInput => cases contributes
  | boolean value =>
    cases contributes
    exact ⟨.bool value, fun _ part => by cases part⟩
  | string content =>
    cases contributes
    exact ⟨.string content, fun _ part => by cases part⟩
  | symbol name =>
    cases contributes
    obtain ⟨before, spelling, after, atomAt, -, spells⟩ := spelled rfl
    refine ⟨legible_of_symbol atomAt.toIsAtom spells, fun value part => ?_⟩
    unfold Lexeme.datumOfName at part
    split at part <;> cases part
  | number number =>
    cases contributes
    obtain ⟨before, spelling, after, atomAt, -, spells⟩ := spelled rfl
    have reads := Token.of_classify_number spells
    refine ⟨legible_of_number reads, fun value part long => ?_⟩
    cases number with
    | int found =>
      cases part
      exact ⟨before, spelling, after, atomAt, Numeral.radixValue?_of_isLong long reads⟩
    | double found => cases part
    | nan => cases part

/-- What is read from a text is legible in it. -/
theorem legibleIn_of_parse {text : List Char} {datum : Datum} (parsed : parse text = .ok datum) :
    LegibleIn text datum := by
  obtain ⟨tokens, cut⟩ := Index.exists_tokens_of_parse parsed
  exact holds_of_parse cut (fun _ each => .list each)
    (fun token among leaf contributes => legibleIn_of_token cut among contributes) parsed

/-- What is read from a text can be written and read again unless it has a fault.  It consists of
nil, booleans, integers, finite doubles, strings, names and lists, and its integers of too many
digits are spelled by radix numerals of the text.  Within any bound on levels, writing fails exactly
if the datum is nested deeper or contains such an integer, and for a reason that holds; otherwise the
source form reads back as the same datum, which has that source form. -/
theorem parse_rereads (text : List Char) (datum : Datum) (parsed : parse text = .ok datum) :
    datum.Legible ∧
    (∀ value, Datum.Part (.int value) datum → Datum.IsLong value → HasRadixNumeral text value) ∧
    ∀ levels,
      (∀ fault, datum.textWithin .source levels = .error fault → datum.HasFault levels fault) ∧
      ((∃ fault, datum.HasFault levels fault) →
        ∃ first, datum.textWithin .source levels = .error first) ∧
      ((∀ fault, ¬ datum.HasFault levels fault) →
        ∃ source, datum.textWithin .source levels = .ok source ∧
          ∃ again, parse source.toList = .ok again ∧ again = datum ∧
            again.textWithin .source levels = .ok source) := by
  obtain ⟨legible, radix⟩ := legibleIn_of_parse parsed
  refine ⟨legible, radix, fun levels => ⟨fun fault fails => legible.hasFault fails, ?_, ?_⟩⟩
  · rintro ⟨fault, has⟩
    cases written : datum.textWithin .source levels with
    | ok source => exact (legible.not_hasFault written has).elim
    | error first => exact ⟨first, rfl⟩
  · intro sound
    have readable : datum.Readable :=
      legible.readable fun value part long => sound .integerTooLong ⟨value, part, long⟩
    have written := (readable.textWithin_eq levels).trans (if_neg (sound .tooDeep))
    have reread := parse_render readable
    rw [legible.unmarked_eq] at reread
    refine ⟨_, written, datum, ?_, rfl, written⟩
    rwa [String.toList_ofList]

/-- The text `(f 0x1F "a\"" -0.0 1e999 nil)`: a radix numeral that is short, a quote inside of a
string, a zero with a sign, a numeral beyond all doubles, and a name of nil. -/
def mixedText : List Char :=
  ['(', 'f', ' ', '0', 'x', '1', 'F', ' ', '"', 'a', '\\', '"', '"', ' ', '-', '0', '.', '0', ' ',
    '1', 'e', '9', '9', '9', ' ', 'n', 'i', 'l', ')']

/-- What that text is read as. -/
def mixedDatum : Datum :=
  .list none [.symbol "f", .int 31, .string "a\"", .double (.zero true), .symbol "1e999", .nil]

/-- That text is read, and what it is read as takes one level to be written and read again. -/
theorem parse_rereads_mixed :
    parse mixedText = .ok mixedDatum ∧ mixedDatum.Legible ∧
      mixedDatum.HasFault (some 0) .tooDeep ∧
      ∃ source, mixedDatum.textWithin .source (some 1) = .ok source ∧
        ∃ again, parse source.toList = .ok again ∧ again = mixedDatum ∧
          again.textWithin .source (some 1) = .ok source := by
  have cut : Token.tokenize mixedText =
      .ok [⟨.leftParen, ⟨1, 1⟩⟩, ⟨.symbol "f", ⟨1, 2⟩⟩, ⟨.number (.int 31), ⟨1, 4⟩⟩,
        ⟨.string "a\"", ⟨1, 9⟩⟩, ⟨.number (.double (.zero true)), ⟨1, 15⟩⟩,
        ⟨.symbol "1e999", ⟨1, 20⟩⟩, ⟨.symbol "nil", ⟨1, 26⟩⟩, ⟨.rightParen, ⟨1, 29⟩⟩,
        ⟨.endOfInput, ⟨1, 30⟩⟩] := by decide +kernel
  have parsed : parse mixedText = .ok mixedDatum := (parse_eq_ok_iff cut).mpr rfl
  have sound : ∀ fault, ¬ mixedDatum.HasFault (some 1) fault := by
    rintro (_ | _)
    · exact nofun
    · rintro ⟨value, part, long⟩
      obtain ⟨item, among, inside⟩ := Datum.part_int_list_iff.mp part
      simp only [List.mem_cons, List.not_mem_nil, or_false] at among
      rcases among with rfl | rfl | rfl | rfl | rfl | rfl <;> cases inside
      exact absurd long (by decide)
  obtain ⟨legible, -, rereads⟩ := parse_rereads mixedText mixedDatum parsed
  exact ⟨parsed, legible, rfl, (rereads (some 1)).2.2 sound⟩

end Reader

/-! ### Brackets alone -/

namespace Datum

theorem legible_hollow (depth : Nat) : (hollow depth).Legible := by
  induction depth with
  | zero => exact .list nofun
  | succ depth ih => exact .list (List.forall_mem_singleton.mpr ih)

theorem not_part_int_hollow (value : Int) (depth : Nat) : ¬ Part (.int value) (hollow depth) := by
  induction depth with
  | zero => simp [hollow, part_int_list_iff]
  | succ depth ih => simpa [hollow, part_int_list_iff] using ih

end Datum

/-- A text of brackets, 3000 of each kind, is read.  There is no integer in what it is read as, and
yet that cannot be written. -/
theorem Reader.parse_rereads_too_deep :
    let text := List.replicate 3000 '(' ++ List.replicate 3000 ')'
    parse text = .ok (Datum.hollow 2999) ∧
      (∀ value, ¬ Datum.Part (.int value) (Datum.hollow 2999)) ∧
      (Datum.hollow 2999).textWithin .source (some levelBound) = .error .tooDeep := by
  intro text
  have reread := parse_render (Datum.readable_hollow 2999)
  rw [Datum.render_hollow, (Datum.legible_hollow 2999).unmarked_eq] at reread
  exact ⟨reread, fun value => Datum.not_part_int_hollow value 2999,
    Datum.textWithin_hollow (by decide)⟩

end SandboxLisp
