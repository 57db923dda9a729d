import Mathlib.Data.List.Forall2
import Mathlib.Data.List.Perm.Subperm
import SandboxLisp.Datum.Bounded
import SandboxLisp.Proofs.Data.Essence

/-!
# Data that turn out equal

A comparison through a number of levels that ends in equality has a simple shape: the two data have
one essence, or a common mark, or their parts turn out equal through one level less.  Equality of
this kind is symmetric and transitive at every number of levels, provided that a mark stands for one
list or object; then no datum turns out different from itself either.
-/

namespace SandboxLisp

/-- The lists and objects that marks stand for. -/
structure Store where
  items : Mark → List Datum
  fields : Mark → List (String × Datum)

/-- A list or object that carries a mark is what the mark stands for, and an object has no name
twice. -/
def Store.Holds (store : Store) : Datum → Prop
  | .list (some mark) items => store.items mark = items
  | .object mark fields => store.fields mark = fields ∧ (Table.names fields).Nodup
  | _ => True

namespace Table

/-- In a table without a repeated name each entry is found. -/
theorem get?_of_mem {α : Type} {table : List (String × α)} (distinct : (names table).Nodup)
    {name : String} {value : α} (isEntry : (name, value) ∈ table) :
    get? table name = some value := by
  induction table with
  | nil => cases isEntry
  | cons entry rest ih =>
    obtain ⟨key, first⟩ := entry
    obtain ⟨fresh, distinct⟩ := List.nodup_cons.mp distinct
    rw [get?]
    cases isEntry with
    | head => exact if_pos rfl
    | tail _ isEntry =>
      have different : key ≠ name := by
        rintro rfl
        exact fresh (List.mem_map.mpr ⟨_, isEntry, rfl⟩)
      rw [if_neg different]
      exact ih distinct isEntry

/-- If each entry of a table finds its partner in another one that is no longer, then each entry of
the other finds its partner in the first. -/
theorem partners_symm {α : Type} {related : α → α → Prop} {table table' : List (String × α)}
    (distinct : (names table).Nodup) (distinct' : (names table').Nodup)
    (lengths : table.length = table'.length)
    (partners : ∀ entry ∈ table, ∃ value', get? table' entry.1 = some value' ∧
      related entry.2 value') :
    ∀ entry' ∈ table', ∃ value, get? table entry'.1 = some value ∧ related value entry'.2 := by
  have among : names table ⊆ names table' := by
    intro name isName
    obtain ⟨entry, isEntry, rfl⟩ := List.mem_map.mp isName
    obtain ⟨value', found, _⟩ := partners entry isEntry
    exact List.mem_map.mpr ⟨_, mem_of_get? found, rfl⟩
  have rearranged : (names table).Perm (names table') :=
    (List.subperm_of_subset distinct among).perm_of_length_le (by simp [names, lengths])
  rintro ⟨name, value'⟩ isEntry'
  have isName : name ∈ names table := rearranged.mem_iff.mpr (List.mem_map_of_mem isEntry')
  obtain ⟨⟨_, value⟩, isEntry, rfl⟩ := List.mem_map.mp isName
  obtain ⟨value'', found, holds⟩ := partners _ isEntry
  have same : value'' = value' := Option.some.inj (found.symm.trans (get?_of_mem distinct' isEntry'))
  exact ⟨value, get?_of_mem distinct isEntry, same ▸ holds⟩

end Table

namespace Datum

/-- The items of a list and the values of an object. -/
def parts : Datum → List Datum
  | .list _ items => items
  | .object _ fields => fields.map Prod.snd
  | _ => []

/-- What holds of a datum, of its parts, of their parts, and so on. -/
inductive Every (holds : Datum → Prop) : Datum → Prop
  | intro {datum : Datum} (here : holds datum) (within : ∀ part ∈ datum.parts, Every holds part) :
      Every holds datum

namespace Every

variable {holds : Datum → Prop} {datum : Datum}

theorem here (every : Every holds datum) : holds datum := by
  cases every with
  | intro here _ => exact here

theorem part (every : Every holds datum) {part : Datum} (isPart : part ∈ datum.parts) :
    Every holds part := by
  cases every with
  | intro _ within => exact within part isPart

theorem item {mark : Option Mark} {items : List Datum} (every : Every holds (.list mark items))
    {item : Datum} (isItem : item ∈ items) : Every holds item :=
  every.part isItem

theorem field {mark : Mark} {fields : List (String × Datum)} (every : Every holds (.object mark fields))
    {name : String} {value : Datum} (isField : (name, value) ∈ fields) : Every holds value :=
  every.part (List.mem_map_of_mem isField)

end Every

variable {matching : Matching} {store : Store}

/-- Two data turn out equal when a number of levels may be gone through. -/
def Same (matching : Matching) (levels : Nat) (first second : Datum) : Prop :=
  first.equalWithin matching levels second = some true

/-- How two data turn out equal. -/
inductive Sameness (matching : Matching) (levels : Nat) : Datum → Datum → Prop
  | atoms {first second : Datum} {essence : Essence} (one : first.essence? matching = some essence)
      (other : second.essence? matching = some essence) : Sameness matching levels first second
  | lists {mark mark' : Option Mark} {items items' : List Datum}
      (same : sameMark mark mark' = true ∨
        ∃ below, levels = below + 1 ∧ List.Forall₂ (Same matching below) items items') :
      Sameness matching levels (.list mark items) (.list mark' items')
  | objects {mark mark' : Mark} {fields fields' : List (String × Datum)}
      (same : mark = mark' ∨
        ∃ below, levels = below + 1 ∧ fields.length = fields'.length ∧
          ∀ field ∈ fields, ∃ value', Table.get? fields' field.1 = some value' ∧
            Same matching below field.2 value') :
      Sameness matching levels (.object mark fields) (.object mark' fields')

/-- Lists of one length turn out equal if their items do. -/
theorem itemsEqualWithin_iff {levels : Nat} {items items' : List Datum}
    (lengths : items.length = items'.length) :
    itemsEqualWithin matching levels items items' = some true ↔
      List.Forall₂ (Same matching levels) items items' := by
  induction items generalizing items' with
  | nil =>
    cases items' with
    | nil => simp [itemsEqualWithin]
    | cons item' rest' => simp at lengths
  | cons item rest ih =>
    cases items' with
    | nil => simp at lengths
    | cons item' rest' =>
      rw [List.forall₂_cons, ← ih (by simpa using lengths), itemsEqualWithin, Same]
      rcases item.equalWithin matching levels item' with _ | _ | _ <;> simp

/-- Fields turn out equal to fields among which each of them finds an equal one. -/
theorem fieldsEqualWithin_iff {levels : Nat} {fields fields' : List (String × Datum)} :
    fieldsEqualWithin matching levels fields fields' = some true ↔
      ∀ field ∈ fields, ∃ value', Table.get? fields' field.1 = some value' ∧
        Same matching levels field.2 value' := by
  induction fields with
  | nil => simp [fieldsEqualWithin]
  | cons field rest ih =>
    obtain ⟨name, value⟩ := field
    rw [List.forall_mem_cons, ← ih, fieldsEqualWithin]
    cases Table.get? fields' name with
    | none => simp
    | some value' =>
      simp only [Option.some.injEq, exists_eq_left', Same]
      rcases value.equalWithin matching levels value' with _ | _ | _ <;> simp

/-- Lists turn out equal by their marks or item by item. -/
theorem same_list_iff {levels : Nat} {mark mark' : Option Mark} {items items' : List Datum} :
    Same matching levels (.list mark items) (.list mark' items') ↔
      sameMark mark mark' = true ∨
        ∃ below, levels = below + 1 ∧ List.Forall₂ (Same matching below) items items' := by
  rw [Same, equalWithin]
  by_cases marks : sameMark mark mark' = true
  · simp [marks]
  by_cases lengths : items.length = items'.length
  · cases levels with
    | zero => simp [marks, lengths]
    | succ below => simp [marks, lengths, itemsEqualWithin_iff]
  · have unequal : ∀ below, ¬ List.Forall₂ (Same matching below) items items' :=
      fun below same => lengths same.length_eq
    simp [marks, lengths, unequal]

/-- Fields that find equal fields have names among theirs. -/
theorem namesAmong_of_same {levels : Nat} {fields fields' : List (String × Datum)}
    (same : ∀ field ∈ fields, ∃ value', Table.get? fields' field.1 = some value' ∧
      Same matching levels field.2 value') : namesAmong fields fields' = true := by
  rw [namesAmong, List.all_eq_true]
  intro field isField
  obtain ⟨value', found, _⟩ := same field isField
  rw [Table.has, found]
  rfl

/-- Objects turn out equal by their marks or field by field. -/
theorem same_object_iff {levels : Nat} {mark mark' : Mark} {fields fields' : List (String × Datum)} :
    Same matching levels (.object mark fields) (.object mark' fields') ↔
      mark = mark' ∨ ∃ below, levels = below + 1 ∧ fields.length = fields'.length ∧
        ∀ field ∈ fields, ∃ value', Table.get? fields' field.1 = some value' ∧
          Same matching below field.2 value' := by
  rw [Same, equalWithin]
  by_cases marks : mark = mark'
  · simp [marks]
  by_cases lengths : fields.length = fields'.length
  · by_cases names : matching = .strict ∧ namesAmong fields fields' = false
    · have unequal below (same : ∀ field ∈ fields, ∃ value',
          Table.get? fields' field.1 = some value' ∧ Same matching below field.2 value') : False := by
        simp [namesAmong_of_same same] at names
      rw [if_neg marks, if_neg (not_not.mpr lengths), if_pos names]
      simp only [Option.some.injEq, Bool.false_eq_true, marks, false_or, false_iff]
      rintro ⟨below, _, _, same⟩
      exact unequal below same
    · cases levels with
      | zero => simp [marks, lengths, names]
      | succ below => simp [marks, lengths, names, fieldsEqualWithin_iff]
  · simp [marks, lengths]

/-- A datum with an essence is compared by it. -/
theorem equalWithin_of_essence {levels : Nat} {datum other : Datum} {essence : Essence}
    (seen : datum.essence? matching = some essence) :
    datum.equalWithin matching levels other = some (atomsEqual matching datum other) := by
  cases datum with
  | list => cases seen
  | object => cases seen
  | _ => rfl

/-- An equality that is found has one of the three shapes. -/
theorem same_iff {levels : Nat} {first second : Datum} :
    Same matching levels first second ↔ Sameness matching levels first second := by
  constructor
  · intro same
    cases first with
    | list mark items =>
      cases second with
      | list mark' items' => exact .lists (same_list_iff.mp same)
      | _ => simp [Same, equalWithin] at same
    | object mark fields =>
      cases second with
      | object mark' fields' => exact .objects (same_object_iff.mp same)
      | _ => simp [Same, equalWithin] at same
    | _ =>
      obtain ⟨essence, one, other⟩ := (atomsEqual_iff matching _ _).mp (Option.some.inj same)
      exact .atoms one other
  · intro sameness
    cases sameness with
    | atoms one other =>
      rw [Same, equalWithin_of_essence one, (atomsEqual_iff matching _ _).mpr ⟨_, one, other⟩]
    | lists same => exact same_list_iff.mpr same
    | objects same => exact same_object_iff.mpr same

/-! ### Symmetry and transitivity -/

theorem sameMark_comm (mark mark' : Option Mark) : sameMark mark mark' = sameMark mark' mark := by
  cases mark <;> cases mark' <;> simp [sameMark, Bool.beq_comm]

/-- Lists with one mark have the same items. -/
theorem items_eq_of_sameMark {mark mark' : Option Mark} {items items' : List Datum}
    (marks : sameMark mark mark' = true) (holds : store.Holds (.list mark items))
    (holds' : store.Holds (.list mark' items')) :
    Datum.list mark items = .list mark' items' := by
  cases mark with
  | none => simp [sameMark] at marks
  | some mark =>
    cases mark' with
    | none => simp [sameMark] at marks
    | some mark' =>
      obtain rfl : mark = mark' := by simpa [sameMark] using marks
      exact congrArg _ (holds.symm.trans holds')

/-- Objects with one mark have the same fields. -/
theorem fields_eq_of_mark {mark : Mark} {fields fields' : List (String × Datum)}
    (holds : store.Holds (.object mark fields)) (holds' : store.Holds (.object mark fields')) :
    Datum.object mark fields = .object mark fields' :=
  congrArg _ (holds.1.symm.trans holds'.1)

/-- Equality that is found one way is found the other way. -/
theorem Same.symm {levels : Nat} {first second : Datum} (kept : first.Every store.Holds)
    (kept' : second.Every store.Holds) (same : Same matching levels first second) :
    Same matching levels second first := by
  induction levels using Nat.strongRecOn generalizing first second with
  | ind levels ih =>
    cases same_iff.mp same with
    | atoms one other => exact same_iff.mpr (.atoms other one)
    | @lists mark mark' items items' found =>
      rw [same_list_iff, sameMark_comm]
      refine found.imp id ?_
      rintro ⟨below, rfl, parts⟩
      refine ⟨below, rfl, .flip (List.forall₂_iff_zip.mpr ⟨parts.length_eq, ?_⟩)⟩
      intro item item' pair
      obtain ⟨isItem, isItem'⟩ := List.of_mem_zip pair
      exact ih below (Nat.lt_succ_self below) (kept.item isItem) (kept'.item isItem')
        (List.forall₂_zip parts pair)
    | @objects mark mark' fields fields' found =>
      rw [same_object_iff, eq_comm]
      refine found.imp id ?_
      rintro ⟨below, rfl, lengths, parts⟩
      refine ⟨below, rfl, lengths.symm, ?_⟩
      have partners := Table.partners_symm kept.here.2 kept'.here.2 lengths parts
      intro field' isField'
      obtain ⟨value, known, equal⟩ := partners field' isField'
      exact ⟨value, known, ih below (Nat.lt_succ_self below) (kept.field (Table.mem_of_get? known))
        (kept'.field isField') equal⟩

/-- Items that are equal one by one to items that are equal one by one to others. -/
theorem forall₂_trans {related : Datum → Datum → Prop} {items items' items'' : List Datum}
    (trans : ∀ item ∈ items, ∀ item' ∈ items', ∀ item'' ∈ items'', related item item' →
      related item' item'' → related item item'')
    (parts : List.Forall₂ related items items') (parts' : List.Forall₂ related items' items'') :
    List.Forall₂ related items items'' := by
  induction parts generalizing items'' with
  | nil => exact parts'
  | cons one _ ih =>
    cases parts' with
    | cons other others =>
      constructor
      · exact trans _ (.head _) _ (.head _) _ (.head _) one other
      · exact ih (fun _ isItem _ isItem' _ isItem'' =>
          trans _ (.tail _ isItem) _ (.tail _ isItem') _ (.tail _ isItem'')) others

/-- Two data that are equal to a third are equal. -/
theorem Same.trans {levels : Nat} {first second third : Datum} (kept : first.Every store.Holds)
    (kept' : second.Every store.Holds) (kept'' : third.Every store.Holds)
    (same : Same matching levels first second) (same' : Same matching levels second third) :
    Same matching levels first third := by
  induction levels using Nat.strongRecOn generalizing first second third with
  | ind levels ih =>
    cases same_iff.mp same with
    | atoms one other =>
      cases same_iff.mp same' with
      | atoms one' other' =>
        cases other.symm.trans one'
        exact same_iff.mpr (.atoms one other')
      | lists => cases other
      | objects => cases other
    | @lists mark mark' items items' found =>
      cases same_iff.mp same' with
      | atoms one' => cases one'
      | @lists _ mark'' _ items'' found' =>
        rcases found with marks | ⟨below, rfl, parts⟩
        · exact items_eq_of_sameMark marks kept.here kept'.here ▸ same'
        rcases found' with marks | ⟨below', levels, parts'⟩
        · exact items_eq_of_sameMark marks kept'.here kept''.here ▸ same
        obtain rfl := Nat.succ.inj levels
        refine same_list_iff.mpr (.inr ⟨below, rfl, forall₂_trans ?_ parts parts'⟩)
        intro item isItem item' isItem' item'' isItem''
        exact ih below (Nat.lt_succ_self below) (kept.item isItem) (kept'.item isItem')
          (kept''.item isItem'')
    | @objects mark mark' fields fields' found =>
      cases same_iff.mp same' with
      | atoms one' => cases one'
      | @objects _ mark'' _ fields'' found' =>
        rcases found with rfl | ⟨below, rfl, lengths, parts⟩
        · exact fields_eq_of_mark kept.here kept'.here ▸ same'
        rcases found' with rfl | ⟨below', levels, lengths', parts'⟩
        · exact fields_eq_of_mark kept'.here kept''.here ▸ same
        obtain rfl := Nat.succ.inj levels
        refine same_object_iff.mpr (.inr ⟨below, rfl, lengths.trans lengths', ?_⟩)
        intro field isField
        obtain ⟨value', known, equal⟩ := parts field isField
        obtain ⟨value'', known', equal'⟩ := parts' _ (Table.mem_of_get? known)
        exact ⟨value'', known', ih below (Nat.lt_succ_self below) (kept.field isField)
          (kept'.field (Table.mem_of_get? known)) (kept''.field (Table.mem_of_get? known'))
          equal equal'⟩

/-- Items that do not turn out different from themselves are no different list. -/
theorem itemsEqualWithin_self_ne_false {levels : Nat} {items : List Datum}
    (each : ∀ item ∈ items, item.equalWithin matching levels item ≠ some false) :
    itemsEqualWithin matching levels items items ≠ some false := by
  induction items with
  | nil => simp [itemsEqualWithin]
  | cons item rest ih =>
    obtain ⟨first, others⟩ := List.forall_mem_cons.mp each
    rw [itemsEqualWithin]
    split
    · exact ih others
    · exact first

/-- No datum turns out different from itself. -/
theorem equalWithin_self_ne_false {levels : Nat} {datum : Datum} (kept : datum.Every store.Holds) :
    datum.equalWithin matching levels datum ≠ some false := by
  induction kept generalizing levels with
  | @intro datum _ _ ih =>
    cases datum with
    | list mark items =>
      rw [equalWithin]
      have each : ∀ item ∈ items, item.equalWithin matching (levels - 1) item ≠ some false :=
        fun item isItem => ih item isItem
      have parts := itemsEqualWithin_self_ne_false each
      split_ifs <;> simp_all
    | object mark fields => simp [equalWithin]
    | _ =>
      intro different
      cases (Option.some.inj different).symm.trans (atomsEqual_self matching rfl)

/-! ### Data without booleans -/

/-- Whether a datum is anything but a boolean. -/
def NotBool (datum : Datum) : Prop :=
  ∀ value, datum ≠ .bool value

theorem atomsEqual_strict_eq_loose {first second : Datum} (notBool : first.NotBool)
    (notBool' : second.NotBool) : atomsEqual .strict first second = atomsEqual .loose first second := by
  have measured {datum : Datum} (notBool : datum.NotBool) :
      datum.measure? .strict = datum.measure? .loose := by
    cases datum with
    | bool value => exact absurd rfl (notBool value)
    | _ => rfl
  unfold atomsEqual
  rw [measured notBool, measured notBool']

/-- Lists that are found equal or different loosely are found so strictly if their items are. -/
theorem itemsEqualWithin_strict {levels : Nat} {items items' : List Datum} {answer : Bool}
    (each : ∀ item ∈ items, ∀ item' ∈ items', ∀ answer,
      item.equalWithin .loose levels item' = some answer →
        item.equalWithin .strict levels item' = some answer)
    (found : itemsEqualWithin .loose levels items items' = some answer) :
    itemsEqualWithin .strict levels items items' = some answer := by
  induction items generalizing items' with
  | nil => exact found
  | cons item rest ih =>
    cases items' with
    | nil => exact found
    | cons item' rest' =>
      rw [itemsEqualWithin] at found ⊢
      rcases equality : item.equalWithin .loose levels item' with _ | _ | _
      · simp [equality] at found
      · rw [each item (.head _) item' (.head _) _ equality]
        simpa [equality] using found
      · rw [each item (.head _) item' (.head _) _ equality]
        rw [equality] at found
        exact ih (fun _ isItem _ isItem' => each _ (.tail _ isItem) _ (.tail _ isItem')) found

/-- Fields that are found equal or different loosely are found so strictly if their values are. -/
theorem fieldsEqualWithin_strict {levels : Nat} {fields fields' : List (String × Datum)}
    {answer : Bool}
    (each : ∀ name value value', (name, value) ∈ fields → (name, value') ∈ fields' → ∀ answer,
      value.equalWithin .loose levels value' = some answer →
        value.equalWithin .strict levels value' = some answer)
    (found : fieldsEqualWithin .loose levels fields fields' = some answer) :
    fieldsEqualWithin .strict levels fields fields' = some answer := by
  induction fields with
  | nil => exact found
  | cons field rest ih =>
    obtain ⟨name, value⟩ := field
    rw [fieldsEqualWithin] at found ⊢
    cases known : Table.get? fields' name with
    | none => simpa [known] using found
    | some value' =>
      have first := each name value value' (.head _) (Table.mem_of_get? known)
      simp only [known] at found ⊢
      rcases equality : value.equalWithin .loose levels value' with _ | _ | _
      · simp [equality] at found
      · rw [first _ equality]
        simpa [equality] using found
      · rw [first _ equality]
        rw [equality] at found
        exact ih (fun _ _ _ isField => each _ _ _ (.tail _ isField)) found

/-- Data without booleans that are found equal or different loosely are found so strictly. -/
theorem equalWithin_strict {levels : Nat} {first second : Datum} {answer : Bool}
    (notBool : first.Every NotBool) (notBool' : second.Every NotBool)
    (found : first.equalWithin .loose levels second = some answer) :
    first.equalWithin .strict levels second = some answer := by
  induction levels using Nat.strongRecOn generalizing first second answer with
  | ind levels ih =>
    cases first with
    | list mark items =>
      cases second with
      | list mark' items' =>
        rw [equalWithin] at found ⊢
        split_ifs at found ⊢ with marks lengths surface
        · exact found
        · exact found
        · refine itemsEqualWithin_strict ?_ found
          intro item isItem item' isItem' answer
          exact ih _ (by omega) (notBool.item isItem) (notBool'.item isItem')
      | _ => exact found
    | object mark fields =>
      cases second with
      | object mark' fields' =>
        rw [equalWithin] at found ⊢
        simp only [reduceCtorEq, false_and, if_false, true_and] at found ⊢
        split_ifs at found ⊢ with marks lengths strange surface
        · exact found
        · exact found
        · cases answer with
          | false => rfl
          | true =>
            have names := namesAmong_of_same (fieldsEqualWithin_iff.mp found)
            cases strange.symm.trans names
        · refine fieldsEqualWithin_strict ?_ found
          intro name value value' isField isField' answer
          exact ih _ (by omega) (notBool.field isField) (notBool'.field isField')
      | _ => exact found
    | _ =>
      rw [← found]
      exact congrArg some (atomsEqual_strict_eq_loose notBool.here notBool'.here)

end Datum

end SandboxLisp
