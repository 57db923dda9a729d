import SandboxLisp.Proofs.Number.LeadingInteger
import SandboxLisp.Proofs.Reading.Legible
import SandboxLisp.Settings

/-!
# What limit a value of the variable gives

`Denotes` says which texts hold an integer, and which: blanks around a sign or none and groups of
decimal digits of any script with single underscores between the groups.  `Resolves` says what comes
of each value of the variable: the default if it is not set or blank, the integer if it is positive,
and one of two failures otherwise, in words that show the integer or the text.

Every value of the variable comes to one of these, and that is what is computed (`resolves_iff`).
-/

namespace SandboxLisp

/-- A decimal digit is no blank. -/
theorem Text.isBlank_of_digitValue? {character : Char} {digit : Nat}
    (value : digitValue? character = some digit) : isBlank character = false := by
  have apart : ∀ first ∈ digitZeros, ∀ offset < 10,
      isBlank (Char.ofNat (first + offset)) = false := by
    decide +kernel
  obtain ⟨first, search, rfl⟩ := Option.map_eq_some_iff.mp value
  have inside := List.find?_some search
  simp only [Bool.and_eq_true, decide_eq_true_eq] at inside
  have visible := apart first (List.mem_of_find?_eq_some search) (character.toNat - first)
    (by omega)
  rwa [Nat.add_sub_cancel' inside.1, Char.ofNat_toNat] at visible

/-- Nothing is left between blanks exactly if there are only blanks. -/
theorem Text.trim_eq_nil_iff {text : List Char} :
    trim text = [] ↔ ∀ c ∈ text, isBlank c = true := by
  obtain ⟨before, after, split, blanks, -, -⟩ := Primitive.exists_trim text
  constructor
  · intro nothing
    rw [nothing, List.append_nil] at split
    rwa [split]
  · intro all
    have trimmed : trim (text ++ [] ++ []) = [] :=
      Primitive.trim_eq (by rwa [List.append_nil]) nofun nofun
    rwa [List.append_nil, List.append_nil] at trimmed

/-- What stands in joined pieces stands in the separator or in a piece. -/
theorem Text.mem_of_mem_joinWith {c : Char} {separator : List Char} {pieces : List (List Char)}
    (among : c ∈ joinWith separator pieces) : c ∈ separator ∨ c ∈ pieces.flatten := by
  rw [joinWith] at among
  induction pieces with
  | nil => cases among
  | cons piece others ih =>
    cases others with
    | nil => exact .inr (by simpa using among)
    | cons second more =>
      rw [List.intercalate_cons_cons, List.append_assoc] at among
      rcases List.mem_append.mp among with first | later
      · exact .inr (List.mem_append_left _ first)
      rcases List.mem_append.mp later with between | behind
      · exact .inl between
      · exact (ih behind).imp_right (List.mem_append_right piece)

namespace Settings

/-- A text spells digits in groups: there is at least one group, none is empty, single underscores
stand between them, and the characters of the groups are the digits. -/
inductive Grouped : List Char → List Nat → Prop where
  | intro {groups : List (List Char)} {digits : List Nat} (any : groups ≠ [])
      (filled : ∀ group ∈ groups, group ≠ [])
      (spells : groups.flatten.map Text.digitValue? = digits.map some) :
      Grouped (Text.joinWith ['_'] groups) digits

/-- The integer of a sign and decimal digits. -/
def integerOf (negative : Bool) (digits : List Nat) : Int :=
  let magnitude : Nat := Nat.ofDigits 10 digits.reverse
  if negative then -magnitude else magnitude

/-- A text holds an integer: between blanks stand a sign or none and groups of digits, not more of
them than a numeral may have. -/
inductive Denotes : List Char → Int → Prop where
  | intro {before core after unsigned : List Char} {negative : Bool} {digits : List Nat}
      (blanks : ∀ c ∈ before ++ after, Text.isBlank c = true)
      (sign : Primitive.Signed core negative unsigned) (grouped : Grouped unsigned digits)
      (few : digits.length ≤ NumberError.digitLimit) :
      Denotes (before ++ core ++ after) (integerOf negative digits)

/-- What comes of a value of the variable. -/
inductive Resolves : Option String → Except SettingsError Nat → Prop where
  | unset : Resolves none (.ok defaultMaxDepth)
  | blank {raw : String} (blank : ∀ c ∈ raw.toList, Text.isBlank c = true) :
      Resolves (some raw) (.ok defaultMaxDepth)
  | positive {raw : String} {limit : Nat} (denotes : Denotes raw.toList limit)
      (positive : 0 < limit) : Resolves (some raw) (.ok limit)
  | notPositive {raw : String} {value : Int} (denotes : Denotes raw.toList value)
      (notPositive : value ≤ 0) :
      Resolves (some raw) (.error (.notPositive (String.ofList (Datum.integerText value))))
  | noInteger {raw : String} (visible : ¬ ∀ c ∈ raw.toList, Text.isBlank c = true)
      (noInteger : ∀ value, ¬ Denotes raw.toList value) :
      Resolves (some raw) (.error (.notAnInteger variableName (Text.quotedString raw)))

/-! ### Groups of digits -/

section Groups

variable {c next : Char} {digit : Nat} {rest : List Char}

theorem separatedDigits?_single (value : Text.digitValue? c = some digit) :
    separatedDigits? [c] = some [digit] := by
  rw [separatedDigits?, value]
  rfl

theorem separatedDigits?_underscore (value : Text.digitValue? c = some digit) :
    separatedDigits? (c :: '_' :: rest) = (separatedDigits? rest).map (digit :: ·) := by
  rw [separatedDigits?, value]
  cases separatedDigits? rest <;> rfl

theorem separatedDigits?_cons (value : Text.digitValue? c = some digit) (other : next ≠ '_') :
    separatedDigits? (c :: next :: rest) = (separatedDigits? (next :: rest)).map (digit :: ·) := by
  rw [separatedDigits?, value]
  · cases separatedDigits? (next :: rest) <;> rfl
  · simp
  · intro rest' same
    exact other (List.cons.inj same).1

end Groups

/-- One group is read as its digits, and so is it in front of further groups. -/
theorem separatedDigits?_group {group : List Char} {digits : List Nat} (filled : group ≠ [])
    (spells : group.map Text.digitValue? = digits.map some) :
    separatedDigits? group = some digits ∧ ∀ rest,
      separatedDigits? (group ++ '_' :: rest) = (separatedDigits? rest).map (digits ++ ·) := by
  induction group generalizing digits with
  | nil => contradiction
  | cons c others ih =>
    obtain ⟨digit, later, rfl, value, spellsLater⟩ := List.map_eq_cons_iff.mp spells.symm
    cases others with
    | nil =>
      obtain rfl : later = [] := List.map_eq_nil_iff.mp spellsLater
      exact ⟨separatedDigits?_single value.symm, fun rest => separatedDigits?_underscore value.symm⟩
    | cons next more =>
      have other : next ≠ '_' := by
        rintro rfl
        obtain ⟨_, _, _, absurd, _⟩ := List.map_eq_cons_iff.mp spellsLater
        cases absurd
      obtain ⟨alone, followed⟩ := ih (List.cons_ne_nil next more) spellsLater.symm
      refine ⟨?_, fun rest => ?_⟩
      · rw [separatedDigits?_cons value.symm other, alone]
        rfl
      · have behind := followed rest
        rw [List.cons_append] at behind
        rw [List.cons_append, List.cons_append, separatedDigits?_cons value.symm other, behind,
          Option.map_map]
        rfl

/-- Groups of digits are read as the digits. -/
theorem Grouped.separatedDigits?_eq {text : List Char} {digits : List Nat}
    (grouped : Grouped text digits) : separatedDigits? text = some digits := by
  obtain @⟨groups, digits, any, filled, spells⟩ := grouped
  rw [Text.joinWith]
  induction groups generalizing digits with
  | nil => contradiction
  | cons group others ih =>
    rw [List.flatten_cons, List.map_append] at spells
    obtain ⟨first, later, rfl, spellsFirst, spellsLater⟩ := List.map_eq_append_iff.mp spells.symm
    obtain ⟨filledFirst, filledLater⟩ := List.forall_mem_cons.mp filled
    obtain ⟨alone, followed⟩ := separatedDigits?_group filledFirst spellsFirst.symm
    cases others with
    | nil =>
      obtain rfl : later = [] := List.map_eq_nil_iff.mp spellsLater
      rw [List.intercalate_singleton, alone, List.append_nil]
    | cons second more =>
      rw [List.intercalate_cons_cons, List.append_assoc, List.singleton_append, followed,
        ih (List.cons_ne_nil second more) filledLater spellsLater.symm]
      rfl

/-- The first digit of what is read, and what is read behind it. -/
theorem exists_of_digits {c : Char} {rest : List Char} {digits : List Nat}
    (reads : (do
      let digit ← Text.digitValue? c
      return digit :: (← separatedDigits? rest)) = some digits) :
    ∃ digit later, Text.digitValue? c = some digit ∧ separatedDigits? rest = some later ∧
      digits = digit :: later := by
  obtain ⟨digit, value, reads⟩ := Option.bind_eq_some_iff.mp reads
  obtain ⟨later, readsLater, reads⟩ := Option.bind_eq_some_iff.mp reads
  exact ⟨digit, later, value, readsLater, (Option.some.inj reads).symm⟩

/-- What is read as digits are groups of them. -/
theorem grouped_of_separatedDigits? {text : List Char} {digits : List Nat}
    (reads : separatedDigits? text = some digits) : Grouped text digits := by
  fun_induction separatedDigits? text generalizing digits with
  | case1 => cases reads
  | case2 c =>
    obtain ⟨digit, value, rfl⟩ := Option.map_eq_some_iff.mp reads
    have alone : Grouped (Text.joinWith ['_'] [[c]]) [digit] :=
      .intro (by simp) (by simp) (by simpa using value)
    exact alone
  | case3 c rest ih =>
    obtain ⟨digit, later, value, readsLater, rfl⟩ := exists_of_digits reads
    -- The character is a group of its own.
    obtain @⟨groups, later, any, filled, spells⟩ := ih readsLater
    have further : Grouped (Text.joinWith ['_'] ([c] :: groups)) (digit :: later) :=
      .intro (List.cons_ne_nil _ _) (List.forall_mem_cons.mpr ⟨List.cons_ne_nil _ _, filled⟩)
        (by simp [value, spells])
    rwa [Text.joinWith, List.intercalate_cons_of_ne_nil any] at further
  | case4 c rest notLast notUnderscore ih =>
    obtain ⟨digit, later, value, readsLater, rfl⟩ := exists_of_digits reads
    -- The character goes in front of the first group.
    obtain @⟨groups, later, any, filled, spells⟩ := ih readsLater
    obtain ⟨group, others, rfl⟩ := List.exists_cons_of_ne_nil any
    have longer : Grouped (Text.joinWith ['_'] ((c :: group) :: others)) (digit :: later) :=
      .intro (List.cons_ne_nil _ _)
        (List.forall_mem_cons.mpr ⟨List.cons_ne_nil _ _, (List.forall_mem_cons.mp filled).2⟩)
        (by simpa [value] using spells)
    have same : Text.joinWith ['_'] ((c :: group) :: others) =
        c :: Text.joinWith ['_'] (group :: others) := by
      cases others <;> simp [Text.joinWith, List.intercalate_cons_cons]
    rwa [same] at longer

theorem grouped_iff {text : List Char} {digits : List Nat} :
    Grouped text digits ↔ separatedDigits? text = some digits :=
  ⟨Grouped.separatedDigits?_eq, grouped_of_separatedDigits?⟩

/-- Groups of digits have no blanks. -/
theorem Grouped.isBlank {text : List Char} {digits : List Nat} (grouped : Grouped text digits) :
    ∀ c ∈ text, Text.isBlank c = false := by
  obtain ⟨-, -, spells⟩ := grouped
  intro c among
  rcases Text.mem_of_mem_joinWith among with between | inside
  · obtain rfl := List.mem_singleton.mp between
    rfl
  · have value := List.mem_map_of_mem (f := Text.digitValue?) inside
    rw [spells] at value
    obtain ⟨digit, -, same⟩ := List.mem_map.mp value
    exact Text.isBlank_of_digitValue? same.symm

theorem Grouped.lt_ten {text : List Char} {digits : List Nat} (grouped : Grouped text digits) :
    ∀ digit ∈ digits, digit < 10 := by
  obtain ⟨-, -, spells⟩ := grouped
  intro digit among
  have value := List.mem_map_of_mem (f := some) among
  rw [← spells] at value
  obtain ⟨c, -, same⟩ := List.mem_map.mp value
  exact Text.digitValue?_lt same

/-! ### Integers -/

theorem integerOf_eq (negative : Bool) (digits : List Nat) :
    integerOf negative digits =
      if negative then -(Numeral.ofDigits 10 digits : Int) else Numeral.ofDigits 10 digits := by
  rw [integerOf, Numeral.ofDigits_eq]

/-- The text that is left between blanks holds the integer that is read. -/
theorem denotes_iff {text : List Char} {value : Int} :
    Denotes text value ↔ integer? (Text.trim text) = some value := by
  constructor
  · rintro @⟨before, core, after, unsigned, negative, digits, blanks, sign, grouped, few⟩
    have visible : ∀ c ∈ core, Text.isBlank c = false := by
      cases sign with
      | minus => exact List.forall_mem_cons.mpr ⟨rfl, grouped.isBlank⟩
      | plus => exact List.forall_mem_cons.mpr ⟨rfl, grouped.isBlank⟩
      | unsigned => exact grouped.isBlank
    rw [Primitive.trim_eq blanks (fun c first => visible c (List.mem_of_head? first))
      fun c last => visible c (List.mem_of_getLast? last)]
    rw [integer?, Primitive.signed_iff.mp sign]
    dsimp only
    rw [grouped_iff.mp grouped]
    simp [Nat.not_lt_of_le few, integerOf_eq]
  · intro reads
    obtain ⟨before, after, split, blanks, -, -⟩ := Primitive.exists_trim text
    rw [integer?] at reads
    obtain ⟨digits, readsDigits, reads⟩ := Option.bind_eq_some_iff.mp reads
    split at reads
    · cases reads
    · next few =>
      cases reads
      have holds : Denotes (before ++ Text.trim text ++ after)
          (integerOf (Numeral.takeSign (Text.trim text)).1 digits) :=
        .intro blanks (Primitive.signed_iff.mpr rfl) (grouped_iff.mpr readsDigits)
          (Nat.le_of_not_lt few)
      rwa [← split, integerOf_eq] at holds

/-- An integer that a text holds is not too long to be shown. -/
theorem Denotes.isWritableInteger {text : List Char} {value : Int} (denotes : Denotes text value) :
    Datum.isWritableInteger value = true := by
  obtain @⟨_, _, _, _, negative, digits, -, -, grouped, few⟩ := denotes
  have below := Numeral.ofDigits_lt_of_length_le (by decide) grouped.lt_ten few
  have magnitude : (integerOf negative digits).natAbs = Numeral.ofDigits 10 digits := by
    rw [integerOf_eq]
    split <;> simp
  unfold Datum.isWritableInteger Datum.writableBound
  rw [magnitude]
  exact decide_eq_true below

/-! ### Values of the variable -/

theorem validate_positive {limit : Nat} (positive : 0 < limit) :
    validate (.int limit) = .ok limit := by
  have least : (1 : Int) ≤ limit := by omega
  rw [validate, if_pos least, Int.toNat_natCast]

theorem validate_notPositive {value : Int} (notPositive : value ≤ 0)
    (writable : Datum.isWritableInteger value = true) :
    validate (.int value) = .error (.notPositive (String.ofList (Datum.integerText value))) := by
  have notLeast : ¬ 1 ≤ value := by omega
  have sound : (Datum.int value).fault? .debug (some levelBound) = none := by
    simp [Datum.fault?, writable]
  rw [validate, if_neg notLeast, SettingsError.showing, Datum.textWithin_eq_render sound]
  rfl

/-- A variable that is not set or blank leaves the default. -/
theorem validate_default : validate (.int defaultMaxDepth) = .ok defaultMaxDepth :=
  validate_positive (by decide)

theorem ofVariable_of_blank {raw : String} (blank : Text.trim raw.toList = []) :
    ofVariable (some raw) = .ok defaultMaxDepth := by
  rw [ofVariable, blank]
  exact validate_default

/-- A value of the variable that is not blank is read as an integer. -/
theorem ofVariable_of_visible {raw : String} (visible : Text.trim raw.toList ≠ []) :
    ofVariable (some raw) = match integer? (Text.trim raw.toList) with
      | some value => validate (.int value)
      | none => .error (.notAnInteger variableName (Text.quotedString raw)) := by
  rw [ofVariable]
  split
  · contradiction
  · rfl

theorem ofVariable_of_denotes {raw : String} {value : Int} (denotes : Denotes raw.toList value) :
    ofVariable (some raw) = validate (.int value) := by
  have reads := denotes_iff.mp denotes
  have visible : Text.trim raw.toList ≠ [] := by
    intro nothing
    rw [nothing] at reads
    cases reads
  rw [ofVariable_of_visible visible, reads]

/-- What comes of a value of the variable is what is computed. -/
theorem resolves_iff {setting : Option String} {result : Except SettingsError Nat} :
    Resolves setting result ↔ ofVariable setting = result := by
  constructor
  · intro resolves
    cases resolves with
    | unset => exact validate_default
    | blank blank => exact ofVariable_of_blank (Text.trim_eq_nil_iff.mpr blank)
    | positive denotes positive =>
      rw [ofVariable_of_denotes denotes, validate_positive positive]
    | notPositive denotes notPositive =>
      rw [ofVariable_of_denotes denotes, validate_notPositive notPositive denotes.isWritableInteger]
    | @noInteger raw visible noInteger =>
      have unread : integer? (Text.trim raw.toList) = none :=
        Option.eq_none_iff_forall_ne_some.mpr fun value reads =>
          noInteger value (denotes_iff.mpr reads)
      rw [ofVariable_of_visible fun nothing => visible (Text.trim_eq_nil_iff.mp nothing), unread]
  · rintro rfl
    cases setting with
    | none =>
      rw [ofVariable, validate_default]
      exact .unset
    | some raw =>
      by_cases nothing : Text.trim raw.toList = []
      · rw [ofVariable_of_blank nothing]
        exact .blank (Text.trim_eq_nil_iff.mp nothing)
      cases reads : integer? (Text.trim raw.toList) with
      | none =>
        rw [ofVariable_of_visible nothing, reads]
        refine .noInteger (fun blank => nothing (Text.trim_eq_nil_iff.mpr blank)) ?_
        intro value denotes
        rw [denotes_iff, reads] at denotes
        cases denotes
      | some value =>
        have denotes := denotes_iff.mpr reads
        rw [ofVariable_of_denotes denotes]
        by_cases notPositive : value ≤ 0
        · rw [validate_notPositive notPositive denotes.isWritableInteger]
          exact .notPositive denotes notPositive
        · obtain ⟨limit, rfl⟩ := Int.eq_ofNat_of_zero_le (by omega : 0 ≤ value)
          have positive : 0 < limit := by omega
          rw [validate_positive positive]
          exact .positive denotes positive

end Settings

end SandboxLisp
