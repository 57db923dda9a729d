import SandboxLisp.Proofs.Data.Nesting
import SandboxLisp.Proofs.Number.Spelling
import SandboxLisp.Reader

/-!
# Writing and reading back

A datum is readable if it is put together from nil, booleans, numbers that can be written, strings,
names and lists.  The source form of a readable datum reads back as that datum.  The reader stops an
atom at the first delimiter, so what is written behind an atom has to start with one; in the source
form that is the blank between two items or the bracket that closes the list.

Reading has no bound on nesting, but writing may have one.  A datum that is nested deeper is readable
and cannot be written; the bound makes no other difference.
-/

namespace SandboxLisp

/-- A run of characters that is read as a symbol. -/
structure Atom.SpellsName (spelling : List Char) : Prop where
  ne_nil : spelling ≠ []
  plain : ∀ c ∈ spelling, isDelimiter c = false
  notBoolean : boolean? spelling = none
  notNil : isNil spelling = false
  notNumber : Numeral.read spelling = .ok none

namespace Datum

/-- A datum that can be written in source form and read again. -/
inductive Readable : Datum → Prop where
  | nil : Readable .nil
  | bool (value : Bool) : Readable (.bool value)
  | int {value : Int} (writable : isWritableInteger value = true) : Readable (.int value)
  | double (negative : Bool) (magnitude : Magnitude) : Readable (.double (.finite negative magnitude))
  | string (text : String) : Readable (.string text)
  | symbol {name : String} (spells : Atom.SpellsName name.toList) : Readable (.symbol name)
  | list {mark : Option Mark} {items : List Datum} (readable : ∀ item ∈ items, Readable item) :
      Readable (.list mark items)

mutual

/-- The datum without the marks of its lists, as a reader makes it. -/
def unmarked : Datum → Datum
  | .list _ items => .list none (unmarkedItems items)
  | datum => datum
termination_by structural datum => datum

/-- The items without the marks of their lists. -/
def unmarkedItems : List Datum → List Datum
  | [] => []
  | item :: rest => unmarked item :: unmarkedItems rest
termination_by structural items => items

end

/-- Nothing keeps a readable datum from being written but a bound on levels that it exceeds. -/
theorem Readable.fault?_eq {datum : Datum} (readable : datum.Readable) (levels : Option Nat) :
    datum.fault? .source levels = if datum.exceeds levels then some .tooDeep else none := by
  induction readable generalizing levels with
  | nil | bool | double | string | symbol => cases levels <;> simp [fault?, nesting]
  | int writable => cases levels <;> simp [fault?, nesting, writable]
  | @list mark items readable ih =>
      have inside (levels : Option Nat) : itemFault? .source levels items =
          if items.any (·.exceeds levels) then some .tooDeep else none := by
        clear readable
        induction items with
        | nil => rfl
        | cons item rest others =>
            have behind := others fun other among => ih other (.tail _ among)
            rw [itemFault?, ih item (.head _), behind, List.any_cons]
            cases item.exceeds levels <;> rfl
      rw [fault?, inside, exceeds_list]
      by_cases spent : levels = some 0 <;> simp [spent]

/-- A readable datum is written as its source form, unless it exceeds the levels. -/
theorem Readable.textWithin_eq {datum : Datum} (readable : datum.Readable) (levels : Option Nat) :
    datum.textWithin .source levels =
      if datum.exceeds levels then .error .tooDeep
      else .ok (String.ofList (datum.render .source)) := by
  rw [textWithin_source_eq, readable.fault?_eq]
  cases datum.exceeds levels <;> rfl

end Datum

/-! ### Numbers as atoms -/

theorem Atom.plain_of_all {spelling : List Char}
    (all : spelling.all (fun character => !isDelimiter character) = true) :
    ∀ c ∈ spelling, isDelimiter c = false := by
  simpa using all

theorem Atom.isDelimiter_of_isDigit {character : Char} (digit : character.isDigit = true) :
    isDelimiter character = false := by
  have codes : 48 ≤ character.toNat ∧ character.toNat ≤ 57 := by
    simp only [Char.isDigit, Bool.and_eq_true, decide_eq_true_eq] at digit
    exact digit
  have noBlank : Text.isBlank character = false := by
    simp only [Text.isBlank, Bool.or_eq_false_iff, Bool.and_eq_false_iff, decide_eq_false_iff_not,
      beq_eq_false_iff_ne]
    omega
  have noPunctuation : character ∉ punctuation := by
    intro among
    simp only [punctuation, List.mem_cons, List.not_mem_nil, or_false] at among
    rcases among with rfl | rfl | rfl | rfl | rfl | rfl <;> cases digit
  simp [isDelimiter, noBlank, noPunctuation]

namespace Spelling

variable (spelling : Spelling)

theorem isDigit_or_mark {character : Char} (among : character ∈ spelling.text) :
    character.isDigit = true ∨ character ∈ ['.', 'e', '+', '-'] := by
  simp only [text, behindWhole, exponentText, List.mem_append] at among
  rcases among with whole | fraction | exponent
  · exact .inl (spelling.isDigit_whole character whole)
  · cases found : spelling.fraction with
    | none =>
        rw [found] at fraction
        cases fraction
    | some digits =>
        rw [found] at fraction
        rcases List.mem_cons.1 fraction with rfl | digit
        · exact .inr (by simp)
        · exact .inl (spelling.isDigit_fraction character (by simpa [found] using digit))
  · cases found : spelling.exponent with
    | none =>
        rw [found] at exponent
        cases exponent
    | some power =>
        rw [found, Option.elim_some, Numeral.exponentText_eq] at exponent
        rcases List.mem_cons.1 exponent with rfl | behind
        · exact .inr (by simp)
        · rcases List.mem_cons.1 behind with rfl | digit
          · right
            split <;> simp
          · exact .inl (Numeral.isDigit_of_mem_exponentDigits power character digit)

theorem isDelimiter_signed (negative : Bool) :
    ∀ c ∈ spelling.signed negative, Atom.isDelimiter c = false := by
  have unsigned : ∀ c ∈ spelling.text, Atom.isDelimiter c = false := by
    intro c among
    rcases spelling.isDigit_or_mark among with digit | mark
    · exact Atom.isDelimiter_of_isDigit digit
    · simp only [List.mem_cons, List.not_mem_nil, or_false] at mark
      rcases mark with rfl | rfl | rfl | rfl <;> rfl
  intro c among
  cases negative with
  | false => exact unsigned c among
  | true =>
      rcases List.mem_cons.1 among with rfl | among
      · rfl
      · exact unsigned c among

theorem exists_signed_eq_cons (negative : Bool) :
    ∃ first others, spelling.signed negative = first :: others ∧
      (first.isDigit = true ∨ first = '-') := by
  cases negative with
  | true => exact ⟨'-', spelling.text, rfl, .inr rfl⟩
  | false =>
      obtain ⟨first, others, found⟩ := List.exists_cons_of_ne_nil spelling.whole_ne_nil
      refine ⟨first, others ++ spelling.behindWhole, ?_, .inl ?_⟩
      · simp [signed, text, found]
      · exact spelling.isDigit_whole first (by simp [found])

/-- No numeral is the name of a boolean or of nil. -/
theorem boolean?_signed (negative : Bool) :
    Atom.boolean? (spelling.signed negative) = none ∧
      Atom.isNil (spelling.signed negative) = false := by
  obtain ⟨first, others, found, starts⟩ := spelling.exists_signed_eq_cons negative
  have notWord : first ≠ 't' ∧ first ≠ 'f' ∧ first ≠ '#' ∧ first ≠ 'n' := by
    refine ⟨?_, ?_, ?_, ?_⟩ <;>
    · rintro rfl
      rcases starts with digit | minus
      · cases digit
      · cases minus
  simp [found, Atom.boolean?, Atom.isNil, notWord]

end Spelling

/-- What is left behind a run starts with something else. -/
theorem Text.not_of_head?_dropWhile {test : Char → Bool} {text : List Char} {next : Char}
    (starts : (text.dropWhile test).head? = some next) : test next = false := by
  have stops := List.head?_dropWhile_not test text
  rwa [starts] at stops

namespace Reader

/-- What may follow an atom: nothing, or something that starts with a delimiter. -/
def EndsAtom (rest : List Char) : Prop :=
  ∀ c ∈ rest.head?, Atom.isDelimiter c = true

/-- What follows an atom is left behind its run. -/
theorem EndsAtom.stops {rest : List Char} (ends : EndsAtom rest) :
    rest.takeWhile (fun next => !Atom.isDelimiter next) = [] ∧
      rest.dropWhile (fun next => !Atom.isDelimiter next) = rest := by
  cases rest with
  | nil => exact ⟨rfl, rfl⟩
  | cons next behind =>
    have delimiter : Atom.isDelimiter next = true := ends next rfl
    simp [delimiter]

/-- The item that a run of characters up to a delimiter stands for. -/
theorem item_atom {first : Char} {others rest : List Char} {datum : Datum}
    (plain : ∀ c ∈ first :: others, Atom.isDelimiter c = false) (ends : EndsAtom rest)
    (spelled : atom (first :: others) = .ok datum) :
    item first (others ++ rest) = .ok (.datum datum, rest) := by
  have firstPlain := plain first (.head _)
  have othersPlain : ∀ c ∈ others, (!Atom.isDelimiter c) = true := by
    intro c among
    rw [plain c (.tail _ among)]
    rfl
  have opening : first ≠ '(' := by rintro rfl; cases firstPlain
  have closing : first ≠ ')' := by rintro rfl; cases firstPlain
  have quote : first ≠ '"' := by rintro rfl; cases firstPlain
  rw [item, if_neg opening, if_neg closing, if_neg quote, if_neg (by simp [firstPlain]),
    List.takeWhile_append_of_pos othersPlain, List.dropWhile_append_of_pos othersPlain,
    ends.stops.1, ends.stops.2, List.append_nil, spelled]

theorem atom_integerText {value : Int} (writable : Datum.isWritableInteger value = true) :
    atom (Datum.integerText value) = .ok (.int value) := by
  have read := Numeral.read_integerText writable
  rw [Numeral.integerText_eq] at read ⊢
  obtain ⟨notBoolean, notNil⟩ :=
    (Numeral.integerSpelling value.natAbs).boolean?_signed (decide (value < 0))
  simp [atom, notBoolean, notNil, read]

theorem atom_doubleText (negative : Bool) (magnitude : Magnitude) :
    atom (Double.finite negative magnitude).text = .ok (.double (.finite negative magnitude)) := by
  obtain ⟨spelling, text, -⟩ := Numeral.exists_spelling_doubleText negative magnitude
  have read := Numeral.read_doubleText negative magnitude
  rw [text] at read ⊢
  obtain ⟨notBoolean, notNil⟩ := spelling.boolean?_signed negative
  simp [atom, notBoolean, notNil, read]

theorem atom_of_spellsName {spelling : List Char} (spells : Atom.SpellsName spelling) :
    atom spelling = .ok (.symbol (String.ofList spelling)) := by
  simp [atom, spells.notBoolean, spells.notNil, spells.notNumber]

/-- The content of a string in source form is the string, whatever follows the closing quote. -/
theorem stringBody?_escaped (characters rest : List Char) :
    stringBody? (characters.flatMap Datum.escapedForm ++ '"' :: rest) = some (characters, rest) := by
  induction characters with
  | nil => rfl
  | cons character others ih =>
      rw [List.flatMap_cons, List.append_assoc]
      by_cases backslash : character = '\\'
      · subst backslash
        simp [Datum.escapedForm, stringBody?, ih, Atom.unescaped]
      by_cases quote : character = '"'
      · subst quote
        simp [Datum.escapedForm, stringBody?, ih, Atom.unescaped]
      by_cases lineFeed : character = '\n'
      · subst lineFeed
        simp [Datum.escapedForm, stringBody?, ih, Atom.unescaped]
      by_cases tab : character = '\t'
      · subst tab
        simp [Datum.escapedForm, stringBody?, ih, Atom.unescaped]
      simp [Datum.escapedForm, backslash, quote, lineFeed, tab, stringBody?, ih]

/-! ### Expressions -/

/-- What reading comes to when a datum has been read and `rest` is left. -/
def supply (stack : List OpenList) (value : Datum) (rest : List Char) :
    Except Failure (Datum × List Char) :=
  match stack with
  | [] => .ok (value, rest)
  | innermost :: outer => expression (innermost.push value :: outer) rest

/-- One step of reading: the next item decides how it goes on. -/
theorem expression_eq (stack : List OpenList) (text : List Char) :
    expression stack text =
      match skipGap false text with
      | [] =>
          match stack with
          | [] => .error (.malformed .unexpectedEnd [])
          | innermost :: _ => .error (.malformed .unclosedList innermost.start)
      | character :: rest =>
          match item character rest with
          | .error failure => .error failure
          | .ok (.opening, after) => expression (⟨character :: rest, []⟩ :: stack) after
          | .ok (.closing, after) =>
              match stack with
              | [] => .error (.malformed (.unexpectedCharacter character) (character :: rest))
              | innermost :: outer => supply outer innermost.close after
          | .ok (.datum value, after) => supply stack value after := by
  rw [expression.eq_def]
  split
  · next skipped =>
    cases stack <;> simp only [skipped]
  · next character rest skipped =>
    simp only [skipped]
    split
    · next found => simp only [found]
    · next found => simp only [found]
    · next found =>
      simp only [found]
      rcases stack with _ | ⟨innermost, _ | ⟨next, outer⟩⟩ <;> rfl
    · next found =>
      simp only [found]
      cases stack <;> rfl

theorem expression_of_atom {spelling rest : List Char} {datum : Datum} (notEmpty : spelling ≠ [])
    (plain : ∀ c ∈ spelling, Atom.isDelimiter c = false) (spelled : atom spelling = .ok datum)
    (ends : EndsAtom rest) (stack : List OpenList) :
    expression stack (spelling ++ rest) = supply stack datum rest := by
  obtain ⟨first, others, rfl⟩ := List.exists_cons_of_ne_nil notEmpty
  have firstPlain := plain first (.head _)
  have gap : skipGap false (first :: (others ++ rest)) = first :: (others ++ rest) := by
    have noBlank : Text.isBlank first = false := (Bool.or_eq_false_iff.1 firstPlain).1
    have noComment : first ≠ ';' := by
      rintro rfl
      cases firstPlain
    simp [skipGap, noBlank, noComment]
  rw [List.cons_append, expression_eq, gap]
  simp only [item_atom plain ends spelled]

theorem expression_of_string (text : String) (rest : List Char) (stack : List OpenList) :
    expression stack (Datum.quotedSource text.toList ++ rest) =
      supply stack (.string text) rest := by
  have content : Datum.quotedSource text.toList ++ rest =
      '"' :: (text.toList.flatMap Datum.escapedForm ++ '"' :: rest) := by
    simp [Datum.quotedSource]
  have gap (behind : List Char) : skipGap false ('"' :: behind) = '"' :: behind := rfl
  have read : item '"' (text.toList.flatMap Datum.escapedForm ++ '"' :: rest) =
      .ok (.datum (.string text), rest) := by
    simp [item, stringBody?_escaped]
  rw [content, expression_eq, gap]
  simp only [read]

theorem expression_of_opening (stack : List OpenList) (rest : List Char) :
    expression stack ('(' :: rest) = expression (⟨'(' :: rest, []⟩ :: stack) rest := by
  rw [expression_eq]
  rfl

theorem expression_of_closing (innermost : OpenList) (outer : List OpenList) (rest : List Char) :
    expression (innermost :: outer) (')' :: rest) = supply outer innermost.close rest := by
  rw [expression_eq]
  rfl

theorem expression_of_blank (stack : List OpenList) (rest : List Char) :
    expression stack (' ' :: rest) = expression stack rest := by
  rw [expression_eq, expression_eq stack rest]
  rfl

/-- The items of a list are read one after another, and the bracket closes the list. -/
theorem expression_items {items : List Datum}
    (each : ∀ item ∈ items, ∀ (stack : List OpenList) (rest : List Char), EndsAtom rest →
      expression stack (item.render .source ++ rest) = supply stack item.unmarked rest)
    (innermost : OpenList) (outer : List OpenList) (rest : List Char) :
    expression (innermost :: outer)
        (Text.joinWith [' '] (Datum.renderItems .source items) ++ ')' :: rest) =
      supply outer (.list none (innermost.items.reverse ++ Datum.unmarkedItems items)) rest := by
  induction items generalizing innermost with
  | nil =>
      rw [Datum.renderItems, Datum.unmarkedItems, List.append_nil]
      exact expression_of_closing innermost outer rest
  | cons item others ih =>
      have behind := ih (fun other among => each other (.tail _ among))
        (innermost.push item.unmarked)
      have items : (innermost.push item.unmarked).items.reverse ++ Datum.unmarkedItems others =
          innermost.items.reverse ++ Datum.unmarkedItems (item :: others) := by
        simp [OpenList.push, Datum.unmarkedItems]
      rw [items] at behind
      cases others with
      | nil =>
          have alone : Text.joinWith [' '] (Datum.renderItems .source [item]) =
              item.render .source := by
            simp [Text.joinWith, Datum.renderItems]
          have ends : EndsAtom (')' :: rest) := by
            rintro _ ⟨⟩
            rfl
          rw [alone, each item (.head _) _ _ ends]
          exact behind
      | cons second more =>
          have first : Text.joinWith [' '] (Datum.renderItems .source (item :: second :: more)) =
              item.render .source ++
                ' ' :: Text.joinWith [' '] (Datum.renderItems .source (second :: more)) := by
            simp [Text.joinWith, Datum.renderItems, List.intercalate_cons_cons]
          have ends (text : List Char) : EndsAtom (' ' :: text) := by
            rintro _ ⟨⟩
            rfl
          rw [first, List.append_assoc, List.cons_append, each item (.head _) _ _ (ends _), supply,
            expression_of_blank]
          exact behind

/-- The source form of a readable datum is read as the datum, whatever is open and follows. -/
theorem expression_render {datum : Datum} (readable : datum.Readable) (stack : List OpenList)
    (rest : List Char) (ends : EndsAtom rest) :
    expression stack (datum.render .source ++ rest) = supply stack datum.unmarked rest := by
  induction readable generalizing stack rest with
  | nil => exact expression_of_atom (List.cons_ne_nil _ _) (Atom.plain_of_all rfl) rfl ends stack
  | bool value =>
      cases value with
      | true => exact expression_of_atom (List.cons_ne_nil _ _) (Atom.plain_of_all rfl) rfl ends stack
      | false => exact expression_of_atom (List.cons_ne_nil _ _) (Atom.plain_of_all rfl) rfl ends stack
  | @int value writable =>
      have text := Numeral.integerText_eq value
      apply expression_of_atom _ _ (atom_integerText writable) ends stack
      · obtain ⟨first, others, found, -⟩ :=
          (Numeral.integerSpelling value.natAbs).exists_signed_eq_cons (decide (value < 0))
        simp [text, found]
      · rw [text]
        exact Spelling.isDelimiter_signed _ _
  | double negative magnitude =>
      obtain ⟨spelling, text, -⟩ := Numeral.exists_spelling_doubleText negative magnitude
      apply expression_of_atom _ _ (atom_doubleText negative magnitude) ends stack
      · obtain ⟨first, others, found, -⟩ := spelling.exists_signed_eq_cons negative
        simp [text, found]
      · rw [text]
        exact spelling.isDelimiter_signed negative
  | string text => exact expression_of_string text rest stack
  | @symbol name spells =>
      have spelled := atom_of_spellsName spells
      rw [String.ofList_toList] at spelled
      exact expression_of_atom spells.ne_nil spells.plain spelled ends stack
  | @list mark items readable ih =>
      have text : Datum.render .source (.list mark items) ++ rest =
          '(' :: (Text.joinWith [' '] (Datum.renderItems .source items) ++ ')' :: rest) := by
        simp [Datum.render, Datum.enclosedItems]
      rw [text, expression_of_opening, expression_items ih]
      rfl

/-- The source form of a readable datum is read as the datum. -/
theorem parse_render {datum : Datum} (readable : datum.Readable) :
    parse (datum.render .source) = .ok datum.unmarked := by
  have nothing : EndsAtom [] := by
    rintro _ ⟨⟩
  have read := expression_render readable [] [] nothing
  rw [List.append_nil] at read
  rw [parse, read]
  rfl

end Reader

/-- A readable datum has a source text that reads back as the datum: the same values of the same
types in lists of the same shape.  Whatever the bound on levels, this is the text that is written,
unless the datum is nested deeper. -/
theorem Datum.parse_source {datum : Datum} (readable : datum.Readable) :
    ∃ source,
      (∀ levels, datum.textWithin .source levels =
        if datum.exceeds levels then .error .tooDeep else .ok source) ∧
      Reader.parse source.toList = .ok datum.unmarked := by
  refine ⟨String.ofList (datum.render .source), readable.textWithin_eq, ?_⟩
  rw [String.toList_ofList]
  exact Reader.parse_render readable

/-- The list `(f "a\\"b" -0.0 -7 (null))`, made by an evaluation, as an expression.  It takes two
levels. -/
theorem Datum.parse_source_mixed :
    let datum : Datum := .list (some 3) [.symbol "f", .string "a\"b", .double (.zero true),
      .int (-7), .list none [.nil]]
    datum.Readable ∧ datum.textWithin .source (some 1) = .error .tooDeep ∧
      ∃ source, datum.textWithin .source (some 2) = .ok source ∧
        Reader.parse source.toList = .ok (.list none [.symbol "f", .string "a\"b",
          .double (.zero true), .int (-7), .list none [.nil]]) := by
  intro datum
  have noNumeral : Numeral.scan? "f".toList = none := by decide
  have name : Atom.SpellsName "f".toList :=
    ⟨by decide, Atom.plain_of_all rfl, rfl, rfl, by rw [Numeral.read, noNumeral]; rfl⟩
  have small : Datum.isWritableInteger (-7) = true := by
    have few : 7 < NumberError.digitLimit := by decide
    unfold Datum.isWritableInteger Datum.writableBound
    exact decide_eq_true (Nat.lt_trans few (Nat.lt_pow_self (by decide)))
  have readable : datum.Readable := by
    refine .list fun item among => ?_
    simp only [List.mem_cons, List.not_mem_nil, or_false] at among
    rcases among with rfl | rfl | rfl | rfl | rfl
    · exact .symbol name
    · exact .string "a\"b"
    · exact .double true .zero
    · exact .int small
    · refine .list fun item among => ?_
      rw [List.mem_singleton.1 among]
      exact .nil
  obtain ⟨source, written, read⟩ := Datum.parse_source readable
  exact ⟨readable, written (some 1), source, written (some 2), read⟩

namespace Datum

/-! ### Brackets alone -/

theorem readable_hollow (depth : Nat) : (hollow depth).Readable := by
  induction depth with
  | zero => exact .list nofun
  | succ depth ih => exact .list (List.forall_mem_singleton.mpr ih)

theorem render_hollow (depth : Nat) :
    (hollow depth).render .source =
      List.replicate (depth + 1) '(' ++ List.replicate (depth + 1) ')' := by
  induction depth with
  | zero => rfl
  | succ depth ih =>
    have inside : (hollow (depth + 1)).render .source =
        '(' :: ((hollow depth).render .source ++ [')']) := by
      simp [hollow, render, renderItems, enclosedItems, Text.joinWith, List.intercalate]
    rw [inside, ih, List.append_assoc, ← List.replicate_succ', ← List.cons_append,
      ← List.replicate_succ]

/-- Lists that are nested deeper than the levels that are gone through are not written. -/
theorem textWithin_hollow {bound depth : Nat} (deep : bound ≤ depth) :
    (hollow depth).textWithin .source (some bound) = .error .tooDeep := by
  rw [(readable_hollow depth).textWithin_eq, if_pos (exceeds_hollow deep)]

/-- Lists in lists, 3000 of them, are a readable datum that has no source text. -/
theorem parse_source_too_deep :
    (hollow 2999).Readable ∧
      ¬ ∃ source, (hollow 2999).textWithin .source (some levelBound) = .ok source := by
  refine ⟨readable_hollow 2999, ?_⟩
  rintro ⟨source, written⟩
  rw [textWithin_hollow (by decide)] at written
  cases written

end Datum

end SandboxLisp
