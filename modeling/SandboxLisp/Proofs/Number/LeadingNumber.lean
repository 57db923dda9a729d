import SandboxLisp.Evaluator
import SandboxLisp.Primitive.Comparison
import SandboxLisp.Primitive.Strings
import SandboxLisp.Proofs.Data.Coherence
import SandboxLisp.Proofs.Number.LeadingInteger
import SandboxLisp.Proofs.Number.Nearest
import SandboxLisp.Proofs.Reading.Legible

/-!
# The number at the start of a text

What `str` writes for a finite number is one numeral, which `parse-num` takes whole
(`Primitive.leadingNumber_signed`).  A whole double that is displayed as an integer is read as that
integer, and every other number as it was.
-/

namespace SandboxLisp

namespace Primitive

open Eval Numeral

/-- A text that is one numeral is read as its value. -/
theorem leadingNumber_signed (spelling : Spelling) (negative : Bool) :
    leadingNumber (spelling.signed negative) = (spelling.numeral negative).value := by
  have noBlank : ∀ c ∈ spelling.signed negative, Text.isBlank c = false := fun c among =>
    (Bool.or_eq_false_iff.mp (Spelling.isDelimiter_signed _ _ c among)).1
  have kept : (spelling.signed negative).dropWhile Text.isBlank = spelling.signed negative := by
    cases shown : spelling.signed negative with
    | nil => rfl
    | cons first rest =>
      have plain := noBlank first (shown ▸ List.mem_cons_self)
      rw [List.dropWhile_cons, plain, if_neg Bool.false_ne_true]
  rw [leadingNumber, kept, spelling.scan?_signed]

/-- A text that an integer is written as is read as the integer. -/
theorem leadingNumber_integerText {value : Int} (writable : Datum.isWritableInteger value = true) :
    leadingNumber (Datum.integerText value) = .ok (.int value) := by
  have few : value.natAbs < Datum.writableBound := by
    simpa [Datum.isWritableInteger] using writable
  rw [integerText_eq, leadingNumber_signed, value_integerSpelling few, signed_natAbs]

/-- A text that a finite double is written as is read as the double. -/
theorem leadingNumber_doubleText (negative : Bool) (magnitude : Magnitude) :
    leadingNumber (Double.finite negative magnitude).text =
      .ok (.double (.finite negative magnitude)) := by
  obtain ⟨spelling, text, value⟩ := exists_spelling_doubleText negative magnitude
  rw [text, leadingNumber_signed, value]

/-- What is displayed as an integer can be written as one. -/
theorem isWritableInteger_of_lt {whole : Int} (small : whole.natAbs < Datum.wholeDisplayBound) :
    Datum.isWritableInteger whole = true := by
  have bounds : Datum.wholeDisplayBound ≤ Datum.writableBound := by
    unfold Datum.writableBound
    exact Nat.pow_le_pow_right (by decide) (by decide)
  exact decide_eq_true (Nat.lt_of_lt_of_le small bounds)

/-- `str` of a double is its display text. -/
theorem toText_double (recur : Datum → Eval Datum) (value : Double) (around : Surroundings)
    (world : World) :
    toText recur [.double value] around world =
      (.ok (.string (String.ofList (Datum.displayDouble value))), world) :=
  rfl

/-- `parse-num` of a string gives the number that is read. -/
theorem parseNumber_run (recur : Datum → Eval Datum) {shown : List Char} {value : Number}
    (read : leadingNumber shown = .ok value) :
    parseNumber recur [.string (String.ofList shown)] = number value := by
  rw [parseNumber, unary, text_string, pure_bind, String.toList_ofList, read]
  exact pure_bind value number

/-- Numbers of one rank are equal. -/
theorem equals_of_essence (recur : Datum → Eval Datum) {first second : Datum} {essence : Essence}
    (seen : first.essence? .strict = some essence) (seen' : second.essence? .strict = some essence)
    (around : Surroundings) (world : World) :
    equals recur [first, second] around world = (.ok (.bool true), world) := by
  have atoms : Datum.atomsEqual .strict first second = true :=
    (Datum.atomsEqual_iff .strict first second).2 ⟨essence, seen, seen'⟩
  have plain : first.equalBy .strict second = Datum.atomsEqual .strict first second := by
    cases first with
    | list => cases seen
    | object => cases seen
    | _ => rfl
  have same : around.equal .strict first second = .ok true := by
    rw [Surroundings.equal]
    split
    · rw [Datum.equalWithin_of_essence seen, atoms]
      rfl
    · rw [plain, atoms]
  rw [equals_run, same]

/-- What a finite double is displayed as is read as the integer that it is equal to, if that is
displayed, and as the double otherwise. -/
theorem leadingNumber_displayDouble (negative : Bool) (magnitude : Magnitude) :
    (∃ whole, (Double.finite negative magnitude).toInt? = some whole ∧
      whole.natAbs < Datum.wholeDisplayBound ∧
      leadingNumber (Datum.displayDouble (.finite negative magnitude)) = .ok (.int whole)) ∨
    (∀ whole, (Double.finite negative magnitude).toInt? = some whole →
      Datum.wholeDisplayBound ≤ whole.natAbs) ∧
      leadingNumber (Datum.displayDouble (.finite negative magnitude)) =
        .ok (.double (.finite negative magnitude)) := by
  cases found : (Double.finite negative magnitude).toInt? with
  | none =>
    refine .inr ⟨nofun, ?_⟩
    rw [Datum.displayDouble, found]
    exact leadingNumber_doubleText negative magnitude
  | some whole =>
    rw [Datum.displayDouble]
    simp only [found]
    by_cases small : whole.natAbs < Datum.wholeDisplayBound
    · rw [if_pos small]
      exact .inl ⟨whole, rfl, small, leadingNumber_integerText (isWritableInteger_of_lt small)⟩
    · rw [if_neg small]
      refine .inr ⟨?_, leadingNumber_doubleText negative magnitude⟩
      rintro _ ⟨⟩
      exact Nat.not_lt.1 small

/-- `parse-num` undoes `str` on numbers: what it reads is equal to the number.  An integer that can
be written is read as it was, and so is a finite double that is not displayed as an integer. -/
theorem parseNumber_toText (recur : Datum → Eval Datum) (around : Surroundings) (world : World) :
    (∀ value : Int, ¬Datum.IsLong value → ∃ shown,
      toText recur [.int value] around world = (.ok (.string shown), world) ∧
      parseNumber recur [.string shown] around world = (.ok (.int value), world) ∧
      equals recur [.int value, .int value] around world = (.ok (.bool true), world)) ∧
    ∀ negative magnitude, ∃ shown back,
      toText recur [.double (.finite negative magnitude)] around world =
        (.ok (.string shown), world) ∧
      parseNumber recur [.string shown] around world = (.ok back, world) ∧
      equals recur [back, .double (.finite negative magnitude)] around world =
        (.ok (.bool true), world) ∧
      ((∀ whole, (Double.finite negative magnitude).toInt? = some whole →
        Datum.wholeDisplayBound ≤ whole.natAbs) → back = .double (.finite negative magnitude)) ∧
      ∀ whole, (Double.finite negative magnitude).toInt? = some whole →
        whole.natAbs < Datum.wholeDisplayBound → back = .int whole := by
  refine ⟨fun value short => ?_, fun negative magnitude => ?_⟩
  · have writable : Datum.isWritableInteger value = true := by
      rwa [Datum.isLong_iff, Bool.not_eq_false] at short
    refine ⟨String.ofList (Datum.integerText value), ?_, ?_,
      equals_of_essence recur rfl rfl around world⟩
    · rw [toText_integer, if_pos writable]
    · rw [parseNumber_run recur (leadingNumber_integerText writable)]
      rfl
  · refine ⟨String.ofList (Datum.displayDouble (.finite negative magnitude)), ?_⟩
    rcases leadingNumber_displayDouble negative magnitude
      with ⟨whole, equal, small, read⟩ | ⟨large, read⟩
    · refine ⟨.int whole, toText_double recur _ around world, ?_, ?_, ?_, ?_⟩
      · rw [parseNumber_run recur read]
        rfl
      · have units := Double.toInt?_eq_some_iff.1 equal
        refine equals_of_essence recur rfl ?_ around world
        rw [Datum.essence?, Number.rank?, units]
        rfl
      · exact fun large => absurd (large whole equal) (Nat.not_le.2 small)
      · rintro _ same -
        rw [equal] at same
        rw [Option.some.inj same]
    · refine ⟨.double (.finite negative magnitude), toText_double recur _ around world, ?_,
        equals_of_essence recur rfl rfl around world, fun _ => rfl, ?_⟩
      · rw [parseNumber_run recur read]
        rfl
      · exact fun whole same small => absurd small (Nat.not_lt.2 (large whole same))

/-- A negative integer, the double two, which is displayed as an integer, and one half. -/
theorem parseNumber_toText_regimes :
    let around := (Evaluator.mk 100 .default).surroundings (.int 0)
    let world : World := .ofScope [] 0
    let recur := evaluateFor .default 5
    let two : Magnitude := ⟨2 ^ 52, 1023, by decide, by decide, .inr (by decide)⟩
    let half : Magnitude := ⟨2 ^ 52, 1021, by decide, by decide, .inr (by decide)⟩
    (∃ shown, toText recur [.int (-7)] around world = (.ok (.string shown), world) ∧
      parseNumber recur [.string shown] around world = (.ok (.int (-7)), world)) ∧
    (∃ shown, toText recur [.double (.finite true two)] around world =
        (.ok (.string shown), world) ∧
      parseNumber recur [.string shown] around world = (.ok (.int (-2)), world)) ∧
    ∃ shown, toText recur [.double (.finite false half)] around world =
        (.ok (.string shown), world) ∧
      parseNumber recur [.string shown] around world =
        (.ok (.double (.finite false half)), world) := by
  intro around world recur two half
  obtain ⟨integers, doubles⟩ := parseNumber_toText recur around world
  have twoIs : (Double.finite true two).toInt? = some (-2) := by decide +kernel
  have halfIs : (Double.finite false half).toInt? = none := by decide +kernel
  refine ⟨?_, ?_, ?_⟩
  · obtain ⟨shown, written, read, -⟩ := integers (-7) (by decide)
    exact ⟨shown, written, read⟩
  · obtain ⟨shown, back, written, read, -, -, small⟩ := doubles true two
    rw [small (-2) twoIs (by decide)] at read
    exact ⟨shown, written, read⟩
  · obtain ⟨shown, back, written, read, -, kept, -⟩ := doubles false half
    rw [kept (by rw [halfIs]; nofun)] at read
    exact ⟨shown, written, read⟩

end Primitive

end SandboxLisp
