import SandboxLisp.Datum.Rendering
import SandboxLisp.Number.Numeral
import SandboxLisp.Proofs.Number.Rounding

/-!
# Numbers as they are written

The decimal digits of a number read back as that number, whatever follows them.  So an integer reads
back from its text, and a finite double from its shortest decimal, be it written with the point in
its place or with an exponent: each layout spells the digits of the decimal with some zeros at the
end and an exponent that makes up for them.
-/

namespace SandboxLisp

/-- A digit of ASCII stands for its distance from zero. -/
theorem Text.digitValue?_of_isDigit {character : Char} (digit : character.isDigit = true) :
    digitValue? character = some (character.toNat - 48) := by
  simp only [Char.isDigit, Bool.and_eq_true, decide_eq_true_eq] at digit
  obtain ⟨low, high⟩ := digit
  have least : 48 ≤ character.toNat := low
  have most : character.toNat < 58 := Nat.lt_succ_of_le high
  simp [digitValue?, digitZeros, least, most]

namespace Numeral

/-! ### Digits -/

/-- The values of the digits of a spelling. -/
def digitsOf (spelling : List Char) : List Nat :=
  spelling.map fun character => character.toNat - 48

@[simp] theorem digitsOf_append (first second : List Char) :
    digitsOf (first ++ second) = digitsOf first ++ digitsOf second :=
  List.map_append

@[simp] theorem length_digitsOf (spelling : List Char) :
    (digitsOf spelling).length = spelling.length :=
  List.length_map _

/-- Digits are taken up to what does not start with one. -/
theorem takeDigits_append {spelling rest : List Char} (digits : ∀ c ∈ spelling, c.isDigit = true)
    (stops : takeDigits rest = ([], rest)) :
    takeDigits (spelling ++ rest) = (digitsOf spelling, rest) := by
  induction spelling with
  | nil => exact stops
  | cons character others ih =>
      rw [List.cons_append, takeDigits, Text.digitValue?_of_isDigit (digits _ (.head _))]
      simp only [ih fun c among => digits c (.tail _ among)]
      rfl

theorem placeSum_append (radix : Nat) (low high : List Nat) :
    placeSum radix (low ++ high) = placeSum radix low + radix ^ low.length * placeSum radix high := by
  induction low with
  | nil => simp [placeSum]
  | cons digit rest ih =>
      simp only [List.cons_append, placeSum, ih, List.length_cons, Nat.pow_succ]
      rw [Nat.mul_add, Nat.add_assoc, ← Nat.mul_assoc, Nat.mul_comm radix (radix ^ rest.length)]

/-- The number of digits in a row is that of the first moved up by the places of the others. -/
theorem ofDigits_append (radix : Nat) (first second : List Nat) :
    ofDigits radix (first ++ second) =
      ofDigits radix first * radix ^ second.length + ofDigits radix second := by
  simp only [ofDigits, ofLeastFirst_eq_placeSum, List.reverse_append, placeSum_append,
    List.length_reverse]
  rw [Nat.mul_comm, Nat.add_comm]

@[simp] theorem ofDigits_zeros (radix count : Nat) :
    ofDigits radix (digitsOf (List.replicate count '0')) = 0 := by
  induction count with
  | zero => simp [digitsOf]
  | succ count ih =>
      rw [List.replicate_succ', digitsOf_append, ofDigits_append, ih]
      simp [digitsOf, ofDigits, ofLeastFirst_eq_placeSum, placeSum]

theorem isDigit_of_mem_decimalDigits (value : Nat) :
    ∀ c ∈ decimalDigits value, c.isDigit = true :=
  fun _ among => Nat.isDigit_of_mem_toDigits (by decide) (by decide) among

theorem isDigit_of_mem_zeros {count : Nat} :
    ∀ c ∈ List.replicate count '0', c.isDigit = true := by
  intro c among
  rw [List.eq_of_mem_replicate among]
  rfl

/-- The decimal digits of a number stand for it. -/
@[simp] theorem ofDigits_decimalDigits (value : Nat) :
    ofDigits 10 (digitsOf (decimalDigits value)) = value := by
  unfold decimalDigits
  induction value using Nat.strongRecOn with
  | ind value ih =>
      rw [Nat.toDigits_eq_if (by decide)]
      split
      · next small =>
        have last := Nat.toNat_digitChar_sub_48_of_lt_ten small
        simp [digitsOf, ofDigits, ofLeastFirst_eq_placeSum, placeSum, last]
      · next large =>
        rw [digitsOf_append, ofDigits_append, ih _ (by omega)]
        have last := Nat.toNat_digitChar_sub_48_of_lt_ten (Nat.mod_lt value (by decide : 10 > 0))
        simp [digitsOf, ofDigits, ofLeastFirst_eq_placeSum, placeSum, last]
        omega

/-! ### Numerals -/

/-- The digits of an exponent as they are written. -/
def exponentDigits (exponent : Int) : List Char :=
  List.replicate (2 - (decimalDigits exponent.natAbs).length) '0' ++ decimalDigits exponent.natAbs

theorem ofDigits_exponentDigits (exponent : Int) :
    ofDigits 10 (digitsOf (exponentDigits exponent)) = exponent.natAbs := by
  rw [exponentDigits, digitsOf_append, ofDigits_append, ofDigits_zeros, ofDigits_decimalDigits]
  omega

theorem isDigit_of_mem_exponentDigits (exponent : Int) :
    ∀ c ∈ exponentDigits exponent, c.isDigit = true := by
  intro c among
  rcases List.mem_append.1 among with zero | digit
  · exact isDigit_of_mem_zeros c zero
  · exact isDigit_of_mem_decimalDigits _ c digit

theorem exponentText_eq (exponent : Int) :
    Double.exponentText exponent =
      (if exponent < 0 then '-' else '+') :: exponentDigits exponent :=
  rfl

end Numeral

/-- A numeral without a sign as it is written: digits, perhaps with more of them behind a point, and
perhaps an exponent. -/
structure Spelling where
  whole : List Char
  fraction : Option (List Char)
  exponent : Option Int
  whole_ne_nil : whole ≠ []
  isDigit_whole : ∀ c ∈ whole, c.isDigit = true
  isDigit_fraction : ∀ c ∈ fraction.getD [], c.isDigit = true

namespace Spelling

open Numeral

variable (spelling : Spelling)

/-- The characters behind the mantissa. -/
def exponentText : List Char :=
  spelling.exponent.elim [] fun exponent => 'e' :: Double.exponentText exponent

/-- The characters behind the first digits. -/
def behindWhole : List Char :=
  spelling.fraction.elim [] ('.' :: ·) ++ spelling.exponentText

/-- The characters of the numeral. -/
def text : List Char :=
  spelling.whole ++ spelling.behindWhole

/-- The characters of the numeral with a minus in front if it is negative. -/
def signed (negative : Bool) : List Char :=
  if negative then '-' :: spelling.text else spelling.text

/-- What the numeral is taken apart into. -/
def numeral (negative : Bool) : Numeral where
  negative
  whole := digitsOf spelling.whole
  fraction := spelling.fraction.map digitsOf
  exponent := spelling.exponent.map fun exponent =>
    (decide (exponent < 0), digitsOf (exponentDigits exponent))

/-- The decimal that the numeral spells. -/
def decimal : Decimal :=
  ⟨ofDigits 10 (digitsOf (spelling.whole ++ spelling.fraction.getD [])),
    spelling.exponent.getD 0 - (spelling.fraction.getD []).length⟩

theorem takeExponent_exponentText :
    takeExponent spelling.exponentText =
      (spelling.exponent.map fun exponent =>
        (decide (exponent < 0), digitsOf (exponentDigits exponent)), []) := by
  unfold exponentText
  cases spelling.exponent with
  | none => rfl
  | some exponent =>
      have taken : takeDigits (exponentDigits exponent ++ []) =
          (digitsOf (exponentDigits exponent), []) :=
        takeDigits_append (isDigit_of_mem_exponentDigits exponent) rfl
      rw [List.append_nil] at taken
      have notEmpty : digitsOf (exponentDigits exponent) ≠ [] := by
        simp [digitsOf, exponentDigits, decimalDigits]
      obtain ⟨digit, others, found⟩ := List.exists_cons_of_ne_nil notEmpty
      rw [Option.elim_some, Option.map_some, found]
      rw [found] at taken
      by_cases negative : exponent < 0
      · simp [takeExponent, exponentText_eq, negative, takeSign, taken]
      · simp [takeExponent, exponentText_eq, negative, takeSign, taken]

theorem takeDigits_exponentText :
    takeDigits spelling.exponentText = ([], spelling.exponentText) := by
  unfold exponentText
  cases spelling.exponent with
  | none => rfl
  | some exponent => rfl

theorem takeMantissa?_text :
    takeMantissa? spelling.text =
      some ((digitsOf spelling.whole, spelling.fraction.map digitsOf), spelling.exponentText) := by
  have stops : takeDigits spelling.behindWhole = ([], spelling.behindWhole) := by
    unfold behindWhole
    cases spelling.fraction with
    | none => exact spelling.takeDigits_exponentText
    | some fraction => rfl
  have whole := takeDigits_append spelling.isDigit_whole stops
  have notEmpty : digitsOf spelling.whole ≠ [] := by simp [digitsOf, spelling.whole_ne_nil]
  obtain ⟨digit, others, found⟩ := List.exists_cons_of_ne_nil notEmpty
  rw [takeMantissa?, text, whole, found]
  unfold behindWhole
  cases written : spelling.fraction with
  | none =>
      simp only [Option.elim_none, List.nil_append, Option.map_none]
      unfold exponentText
      cases spelling.exponent with
      | none => rfl
      | some exponent => rfl
  | some fraction =>
      have digits : ∀ c ∈ fraction, c.isDigit = true := by
        simpa [written] using spelling.isDigit_fraction
      have behind := takeDigits_append digits spelling.takeDigits_exponentText
      simp [behind]

theorem takeSign_signed (negative : Bool) :
    takeSign (spelling.signed negative) = (negative, spelling.text) := by
  cases negative with
  | true => rfl
  | false =>
      obtain ⟨first, others, found⟩ := List.exists_cons_of_ne_nil spelling.whole_ne_nil
      have digit := spelling.isDigit_whole first (by simp [found])
      simp only [signed, text, found, Bool.false_eq_true, if_false, List.cons_append]
      unfold takeSign
      split
      · next same =>
        rw [(List.cons.inj same).1] at digit
        cases digit
      · next same =>
        rw [(List.cons.inj same).1] at digit
        cases digit
      · rfl

/-- The whole of a spelling is taken for its numeral. -/
theorem scan?_signed (negative : Bool) :
    scan? (spelling.signed negative) = some (spelling.numeral negative, []) := by
  simp only [scan?, spelling.takeSign_signed, spelling.takeMantissa?_text,
    spelling.takeExponent_exponentText]
  rfl

/-- A numeral with a point or an exponent spells the double nearest to its decimal. -/
theorem toDouble_numeral (negative : Bool) :
    (spelling.numeral negative).toDouble = spelling.decimal.toDouble negative := by
  obtain ⟨whole, fraction, exponent, -, -, -⟩ := spelling
  have digits : digitsOf whole ++ (fraction.map digitsOf).getD [] =
      digitsOf (whole ++ fraction.getD []) := by
    cases fraction with
    | none => simp [digitsOf]
    | some fraction => simp
  have places : ((fraction.map digitsOf).getD []).length = (fraction.getD []).length := by
    cases fraction with
    | none => rfl
    | some fraction => simp
  have power : exponentValue ⟨negative, digitsOf whole, fraction.map digitsOf,
      exponent.map fun exponent =>
        (decide (exponent < 0), digitsOf (exponentDigits exponent))⟩ = exponent.getD 0 := by
    cases exponent with
    | none => rfl
    | some exponent =>
        simp only [exponentValue, Option.map_some, ofDigits_exponentDigits, Option.getD_some,
          decide_eq_true_eq]
        split <;> omega
  simp only [Numeral.toDouble, numeral, decimal, digits, places, power]

/-- Whether the numeral has neither point nor exponent. -/
theorem isInteger_numeral (negative : Bool) :
    (spelling.numeral negative).isInteger =
      (spelling.fraction.isNone && spelling.exponent.isNone) := by
  simp [isInteger, numeral]

end Spelling

/-! ### Doubles -/

namespace Decimal

theorem ofDigits_digits (decimal : Decimal) :
    Numeral.ofDigits 10 (Numeral.digitsOf (decimalDigits decimal.digits)) = decimal.digits :=
  Numeral.ofDigits_decimalDigits decimal.digits

/-- A spelling of a decimal as a double: it is spelled with some zeros at the end. -/
structure IsSpelledBy (decimal : Decimal) (text : List Char) (spelling : Spelling) : Prop where
  text_eq : spelling.text = text
  notInteger : (spelling.fraction.isNone && spelling.exponent.isNone) = false
  padded : ∃ count : Nat,
    spelling.decimal = ⟨decimal.digits * 10 ^ count, decimal.exponent - count⟩

theorem exists_spelling_positional (decimal : Decimal) :
    ∃ spelling, decimal.IsSpelledBy
      (Double.positional (decimalDigits decimal.digits) decimal.place) spelling := by
  have isDigit := Numeral.isDigit_of_mem_decimalDigits decimal.digits
  have notEmpty : decimalDigits decimal.digits ≠ [] := Nat.toDigits_ne_nil
  have value := decimal.ofDigits_digits
  have place : decimal.place = decimal.exponent + (decimalDigits decimal.digits).length := rfl
  have zero : Numeral.ofDigits 10 (Numeral.digitsOf ['0']) = 0 := Numeral.ofDigits_zeros 10 1
  generalize decimalDigits decimal.digits = digits at *
  unfold Double.positional
  split
  · next low =>
    refine ⟨⟨['0'], some (List.replicate (-decimal.place).toNat '0' ++ digits), none, ?_, ?_, ?_⟩,
      ?_, rfl, 0, ?_⟩
    · simp
    · simp
    · intro c among
      rcases List.mem_append.1 among with zero | digit
      · exact Numeral.isDigit_of_mem_zeros c zero
      · exact isDigit c digit
    · simp [Spelling.text, Spelling.behindWhole, Spelling.exponentText]
    · simp only [Spelling.decimal, Option.getD_some, Option.getD_none, Numeral.digitsOf_append,
        Numeral.ofDigits_append, zero, Numeral.ofDigits_zeros, value, List.length_append,
        List.length_replicate, Decimal.mk.injEq]
      omega
  · split
    · next positive short =>
      refine ⟨⟨digits ++ List.replicate (decimal.place.toNat - digits.length) '0', some ['0'], none,
        ?_, ?_, ?_⟩, ?_, rfl, decimal.place.toNat - digits.length + 1, ?_⟩
      · simp [notEmpty]
      · intro c among
        rcases List.mem_append.1 among with digit | zero
        · exact isDigit c digit
        · exact Numeral.isDigit_of_mem_zeros c zero
      · simp
      · simp [Spelling.text, Spelling.behindWhole, Spelling.exponentText]
      · simp only [Spelling.decimal, Option.getD_some, Option.getD_none, Numeral.digitsOf_append,
          Numeral.ofDigits_append, zero, Numeral.ofDigits_zeros, value, Numeral.length_digitsOf,
          List.length_replicate, Decimal.mk.injEq, List.length_singleton, Nat.pow_add]
        constructor
        · rw [Nat.add_zero, Nat.add_zero, Nat.mul_assoc, ← Nat.pow_add]
        · omega
    · next positive long =>
      refine ⟨⟨digits.take decimal.place.toNat, some (digits.drop decimal.place.toNat), none,
        ?_, ?_, ?_⟩, ?_, rfl, 0, ?_⟩
      · simp only [ne_eq, List.take_eq_nil_iff, notEmpty, or_false]
        omega
      · exact fun c among => isDigit c (List.mem_of_mem_take among)
      · exact fun c among => isDigit c (List.mem_of_mem_drop among)
      · simp [Spelling.text, Spelling.behindWhole, Spelling.exponentText]
      · simp only [Spelling.decimal, Option.getD_some, Option.getD_none, List.take_append_drop,
          value, List.length_drop, Decimal.mk.injEq]
        omega

theorem exists_spelling_scientific (decimal : Decimal) :
    ∃ spelling, decimal.IsSpelledBy
      (Double.scientific (decimalDigits decimal.digits) decimal.place) spelling := by
  have isDigit := Numeral.isDigit_of_mem_decimalDigits decimal.digits
  have notEmpty : decimalDigits decimal.digits ≠ [] := Nat.toDigits_ne_nil
  have value := decimal.ofDigits_digits
  have place : decimal.place = decimal.exponent + (decimalDigits decimal.digits).length := rfl
  generalize decimalDigits decimal.digits = digits at *
  obtain ⟨first, others, rfl⟩ := List.exists_cons_of_ne_nil notEmpty
  cases others with
  | nil =>
      refine ⟨⟨[first], none, some (decimal.place - 1), ?_, ?_, ?_⟩, ?_, rfl, 0, ?_⟩
      · simp
      · exact isDigit
      · simp
      · rfl
      · simp only [Spelling.decimal, Option.getD_none, List.append_nil, value, Option.getD_some,
          Decimal.mk.injEq, List.length_nil, place, List.length_singleton]
        omega
  | cons second rest =>
      refine ⟨⟨[first], some (second :: rest), some (decimal.place - 1), ?_, ?_, ?_⟩, ?_, rfl, 0, ?_⟩
      · simp
      · exact fun c among => isDigit c (by simp_all)
      · exact fun c among => isDigit c (.tail _ among)
      · rfl
      · simp only [Spelling.decimal, Option.getD_some, List.singleton_append, value,
          Decimal.mk.injEq, place, List.length_cons]
        omega

/-- The text of a decimal as a double spells that decimal. -/
theorem exists_spelling (decimal : Decimal) :
    ∃ spelling, decimal.IsSpelledBy (Double.decimalText decimal) spelling := by
  unfold Double.decimalText
  split
  · exact decimal.exists_spelling_positional
  · exact decimal.exists_spelling_scientific

end Decimal

namespace Numeral

/-- The spelling of a natural number. -/
def integerSpelling (value : Nat) : Spelling where
  whole := decimalDigits value
  fraction := none
  exponent := none
  whole_ne_nil := Nat.toDigits_ne_nil
  isDigit_whole := isDigit_of_mem_decimalDigits value
  isDigit_fraction := by simp

/-- A number that can be written has few enough digits to be read. -/
theorem length_decimalDigits_le {value : Nat} (few : value < Datum.writableBound) :
    (decimalDigits value).length ≤ NumberError.digitLimit := by
  unfold Datum.writableBound at few
  exact (Nat.length_toDigits_le_iff (by decide) (by decide)).2 few

theorem value_integerSpelling {value : Nat} (few : value < Datum.writableBound) (negative : Bool) :
    ((integerSpelling value).numeral negative).value =
      .ok (.int (if negative then -(value : Int) else value)) := by
  rw [Numeral.value, Spelling.isInteger_numeral]
  simp [integerSpelling, Spelling.numeral, wholeValue, length_decimalDigits_le few]

/-- An integer is its magnitude with its sign. -/
theorem signed_natAbs (value : Int) :
    (if decide (value < 0) then -(value.natAbs : Int) else value.natAbs) = value := by
  simp only [decide_eq_true_eq]
  split <;> omega

/-- A text that is one numeral is read as the number of that numeral, unless it is infinite. -/
theorem read_of_scan? {characters : List Char} {numeral : Numeral} {number : Number}
    (scanned : scan? characters = some (numeral, [])) (spelled : numeral.value = .ok number)
    (finite : ∀ value, number = .double value → value.isFinite = true) :
    read characters = .ok (some number) := by
  unfold read
  simp only [scanned, spelled]
  cases number with
  | double value => simp [finite value rfl]
  | int value => rfl
  | nan => rfl

/-- An integer that can be written is spelled by a numeral of its value. -/
theorem integerText_eq (value : Int) :
    Datum.integerText value = (integerSpelling value.natAbs).signed (value < 0) := by
  have text : (integerSpelling value.natAbs).text = decimalDigits value.natAbs := by
    simp [integerSpelling, Spelling.text, Spelling.behindWhole, Spelling.exponentText]
  simp [Datum.integerText, Spelling.signed, text]

/-- An integer that can be written reads back. -/
theorem read_integerText {value : Int} (writable : Datum.isWritableInteger value = true) :
    read (Datum.integerText value) = .ok (some (.int value)) := by
  have few : value.natAbs < Datum.writableBound := by
    simpa [Datum.isWritableInteger] using writable
  rw [integerText_eq]
  apply read_of_scan? (Spelling.scan?_signed _ _)
  · rw [value_integerSpelling few, signed_natAbs]
  · simp

/-- The text of a finite double is a numeral whose nearest double it is. -/
theorem exists_spelling_doubleText (negative : Bool) (magnitude : Magnitude) :
    ∃ spelling : Spelling,
      (Double.finite negative magnitude).text = spelling.signed negative ∧
        (spelling.numeral negative).value = .ok (.double (.finite negative magnitude)) := by
  obtain ⟨spelling, text, notInteger, value⟩ : ∃ spelling : Spelling,
      spelling.text = Double.magnitudeText magnitude ∧
        (spelling.fraction.isNone && spelling.exponent.isNone) = false ∧
          spelling.decimal.toDouble negative = .finite negative magnitude := by
    unfold Double.magnitudeText
    split
    · next zero =>
      have same : magnitude = .zero := by
        apply Magnitude.ext zero
        rcases magnitude.longest with shift | long
        · exact shift
        · omega
      refine ⟨⟨['0'], some ['0'], none, by simp, by simp, by simp⟩, rfl, rfl, ?_⟩
      rw [same, Decimal.toDouble, if_pos (.inl (ofDigits_zeros 10 2))]
      rfl
    · next notZero =>
      obtain ⟨spelling, written⟩ := magnitude.shortest.exists_spelling
      obtain ⟨count, padded⟩ := written.padded
      refine ⟨spelling, written.text_eq, written.notInteger, ?_⟩
      have nearest : spelling.decimal.magnitude? = some magnitude := by
        rw [padded, Decimal.magnitude?_padded]
        exact magnitude.magnitude?_shortest
      exact Decimal.toDouble_of_magnitude? nearest notZero negative
  refine ⟨spelling, ?_, ?_⟩
  · rw [Spelling.signed, text]
    rfl
  · rw [Numeral.value, Spelling.isInteger_numeral, notInteger, Spelling.toDouble_numeral, value]
    exact if_neg (by simp)

/-- A finite double reads back, its sign and that of a zero included. -/
theorem read_doubleText (negative : Bool) (magnitude : Magnitude) :
    read (Double.finite negative magnitude).text =
      .ok (some (.double (.finite negative magnitude))) := by
  obtain ⟨spelling, text, value⟩ := exists_spelling_doubleText negative magnitude
  rw [text]
  apply read_of_scan? (spelling.scan?_signed negative) value
  intro double same
  cases same
  rfl

end Numeral

end SandboxLisp
