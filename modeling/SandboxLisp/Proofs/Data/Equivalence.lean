import SandboxLisp.Evaluator
import SandboxLisp.Primitive.Lists
import SandboxLisp.Proofs.Data.Levels
import SandboxLisp.Proofs.Data.Paths

/-!
# Equality in the language is an equivalence

Data that are equal compare alike to every datum: through the same number of levels they come to one
answer, or to none.  So equality is transitive and a search does not tell equal data apart.  It
finds a datum equal to whatever is made anew from the same parts, and data that are equal have parts
of the same types at the same places.
-/

namespace SandboxLisp

/-- Two values of one name that are related, or two tables that are both without the name. -/
inductive Table.Agree {α : Type} (related : α → α → Prop) (table table' : List (String × α))
    (name : String) : Prop
  | missing (found : get? table name = none) (found' : get? table' name = none)
  | present {value value' : α} (found : get? table name = some value)
      (found' : get? table' name = some value') (holds : related value value')

/-- Two tables of one length in which each entry of the one finds its partner in the other agree on
every name. -/
theorem Table.agree_of_partners {α : Type} {related : α → α → Prop}
    {table table' : List (String × α)} (distinct : (names table).Nodup)
    (distinct' : (names table').Nodup) (lengths : table.length = table'.length)
    (partners : ∀ entry ∈ table, ∃ value', get? table' entry.1 = some value' ∧
      related entry.2 value') (name : String) : Agree related table table' name := by
  cases found : get? table name with
  | some value =>
    obtain ⟨value', found', holds⟩ := partners _ (mem_of_get? found)
    exact .present found found' holds
  | none =>
    cases found' : get? table' name with
    | none => exact .missing found found'
    | some value' =>
      obtain ⟨value, known, _⟩ :=
        partners_symm distinct distinct' lengths partners _ (mem_of_get? found')
      cases found.symm.trans known

/-- The name of the type of data that are seen so by the strict equality. -/
def Essence.typeName : Essence → String
  | .nil => "null"
  | .bool _ => "boolean"
  | .number _ | .nan _ => "number"
  | .string _ => "string"
  | .symbol _ => "Symbol"
  | .closure _ => "function"

namespace Datum

variable {matching : Matching} {store : Store} {levels : Nat}

/-! ### Equal data compare alike -/

/-- Only data without parts have an essence. -/
theorem isAtom_of_essence? {datum : Datum} {essence : Essence}
    (seen : datum.essence? matching = some essence) : datum.isAtom := by
  cases datum with
  | list => cases seen
  | object => cases seen
  | _ => rfl

/-- Anything is compared to a datum without parts by the essences. -/
theorem equalWithin_of_isAtom {second : Datum} (isAtom : second.isAtom) (first : Datum) :
    first.equalWithin matching levels second = some (atomsEqual matching first second) := by
  cases first with
  | list | object =>
    cases second with
    | list | object => cases isAtom
    | bool => cases matching <;> rfl
    | _ => rfl
  | _ => rfl

/-- Data with one essence compare alike. -/
theorem atomsEqual_congr {second third : Datum} {essence : Essence}
    (one : second.essence? matching = some essence) (other : third.essence? matching = some essence)
    (first : Datum) : atomsEqual matching first second = atomsEqual matching first third := by
  rw [Bool.eq_iff_iff, atomsEqual_iff, atomsEqual_iff, one, other]

/-- Lists whose items compare alike compare alike. -/
theorem itemsEqualWithin_congr {items items' items'' : List Datum}
    (parts : List.Forall₂ (fun item' item'' => ∀ item ∈ items,
      item.equalWithin matching levels item' = item.equalWithin matching levels item'')
      items' items'') :
    itemsEqualWithin matching levels items items' =
      itemsEqualWithin matching levels items items'' := by
  induction items generalizing items' items'' with
  | nil => rfl
  | cons item rest ih =>
    cases parts with
    | nil => rfl
    | cons first others =>
      have others := ih (others.imp fun _ _ each other isOther => each other (.tail _ isOther))
      rw [itemsEqualWithin, itemsEqualWithin, first item (.head _), others]

/-- Fields are compared alike to fields that agree on every name in how they compare. -/
theorem fieldsEqualWithin_congr {fields fields' fields'' : List (String × Datum)}
    (agree : ∀ field ∈ fields, Table.Agree (fun value' value'' =>
      field.2.equalWithin matching levels value' = field.2.equalWithin matching levels value'')
      fields' fields'' field.1) :
    fieldsEqualWithin matching levels fields fields' =
      fieldsEqualWithin matching levels fields fields'' := by
  induction fields with
  | nil => rfl
  | cons field rest ih =>
    obtain ⟨first, others⟩ := List.forall_mem_cons.mp agree
    obtain ⟨name, value⟩ := field
    rw [fieldsEqualWithin, fieldsEqualWithin, ih others]
    cases first with
    | missing found found' => rw [found, found']
    | present found found' alike =>
      rw [found, found']
      dsimp only at alike ⊢
      rw [alike]

/-- Names stand alike among fields that agree on them. -/
theorem namesAmong_congr {related : Datum → Datum → Prop} {fields' fields'' : List (String × Datum)}
    (agree : ∀ name, Table.Agree related fields' fields'' name) (fields : List (String × Datum)) :
    namesAmong fields fields' = namesAmong fields fields'' := by
  have same (name : String) : Table.has fields' name = Table.has fields'' name := by
    rw [Table.has, Table.has]
    cases agree name with
    | missing found found' => rw [found, found']
    | present found found' => rw [found, found', Option.isSome_some, Option.isSome_some]
  simp only [namesAmong, same]

/-- Lists that have the items of equal lists compare alike unless one mark shows them to be one. -/
theorem equalWithin_list_congr {mark mark' mark'' : Option Mark}
    {items items' items'' : List Datum} (fresh : sameMark mark mark' = false)
    (fresh' : sameMark mark mark'' = false)
    (parts : List.Forall₂ (fun item' item'' => ∀ item ∈ items,
      item.equalWithin matching levels item' = item.equalWithin matching levels item'')
      items' items'') :
    (list mark items).equalWithin matching (levels + 1) (list mark' items') =
      (list mark items).equalWithin matching (levels + 1) (list mark'' items'') := by
  simp [equalWithin, fresh, fresh', parts.length_eq, itemsEqualWithin_congr parts]

/-- Objects that have the fields of equal objects compare alike unless they are one. -/
theorem equalWithin_object_congr {mark mark' mark'' : Mark}
    {fields fields' fields'' : List (String × Datum)} (fresh : mark ≠ mark')
    (fresh' : mark ≠ mark'') (lengths : fields'.length = fields''.length)
    (agree : ∀ field ∈ fields, ∀ name, Table.Agree (fun value' value'' =>
      field.2.equalWithin matching levels value' = field.2.equalWithin matching levels value'')
      fields' fields'' name) :
    (object mark fields).equalWithin matching (levels + 1) (object mark' fields') =
      (object mark fields).equalWithin matching (levels + 1) (object mark'' fields'') := by
  have names : namesAmong fields fields' = namesAmong fields fields'' := by
    cases fields with
    | nil => rfl
    | cons field rest => exact namesAmong_congr (agree field (.head _)) _
  have values := fieldsEqualWithin_congr fun field isField => agree field isField field.1
  simp [equalWithin, fresh, fresh', lengths, names, values]

/-- Data that are equal to one of two equal data are equal to both. -/
theorem Same.equalWithin_congr_of_same {first second third : Datum} (kept : first.Every store.Holds)
    (kept' : second.Every store.Holds) (kept'' : third.Every store.Holds)
    (same : Same matching levels second third)
    (one : Same matching levels first second ∨ Same matching levels first third) :
    first.equalWithin matching levels second = first.equalWithin matching levels third := by
  rcases one with one | one
  · have other := one.trans kept kept' kept'' same
    rw [Same] at one other
    rw [one, other]
  · have other := one.trans kept kept'' kept' (same.symm kept' kept'')
    rw [Same] at one other
    rw [one, other]

/-- Equal data compare alike to every datum, which they are compared to from its side. -/
theorem Same.equalWithin_congr {first second third : Datum} (kept : first.Every store.Holds)
    (kept' : second.Every store.Holds) (kept'' : third.Every store.Holds)
    (same : Same matching levels second third) :
    first.equalWithin matching levels second = first.equalWithin matching levels third := by
  induction levels using Nat.strongRecOn generalizing first second third with
  | ind levels ih =>
    by_cases one : Same matching levels first second ∨ Same matching levels first third
    · exact same.equalWithin_congr_of_same kept kept' kept'' one
    obtain ⟨unequal, unequal'⟩ := not_or.mp one
    cases same_iff.mp same with
    | atoms one other =>
      rw [equalWithin_of_isAtom (isAtom_of_essence? one), atomsEqual_congr one other,
        equalWithin_of_isAtom (isAtom_of_essence? other)]
    | @lists mark' mark'' items' items'' found =>
      rcases found with marks | ⟨below, rfl, parts⟩
      · rw [items_eq_of_sameMark marks kept'.here kept''.here]
      cases first with
      | list mark items =>
        rw [same_list_iff, not_or, Bool.not_eq_true] at unequal unequal'
        refine equalWithin_list_congr unequal.1 unequal'.1
          (List.forall₂_iff_zip.mpr ⟨parts.length_eq, ?_⟩)
        intro item' item'' pair item isItem
        obtain ⟨isItem', isItem''⟩ := List.of_mem_zip pair
        exact ih below (Nat.lt_succ_self below) (kept.item isItem) (kept'.item isItem')
          (kept''.item isItem'') (List.forall₂_zip parts pair)
      | _ => rfl
    | @objects mark' mark'' fields' fields'' found =>
      rcases found with rfl | ⟨below, rfl, lengths, parts⟩
      · rw [fields_eq_of_mark kept'.here kept''.here]
      cases first with
      | object mark fields =>
        rw [same_object_iff, not_or] at unequal unequal'
        refine equalWithin_object_congr unequal.1 unequal'.1 lengths ?_
        intro field isField name
        cases Table.agree_of_partners kept'.here.2 kept''.here.2 lengths parts name with
        | missing found found' => exact .missing found found'
        | present found found' values =>
          have isField' := Table.mem_of_get? found
          have isField'' := Table.mem_of_get? found'
          exact .present found found' (ih below (Nat.lt_succ_self below) (kept.field isField)
            (kept'.field isField') (kept''.field isField'') values)
      | _ => rfl

/-! ### Data that are made anew -/

/-- A datum is made anew from the parts of another: at most a number of levels of lists and objects
are made once more, with the fields in any order, and what stands below is shared.  The lists of
expressions, which carry no mark, count as made once more wherever they stand. -/
inductive Rebuilt : Nat → Datum → Datum → Prop
  | shared {levels : Nat} {datum : Datum} (marked : ∀ items, datum ≠ .list none items) :
      Rebuilt levels datum datum
  | list {levels : Nat} {mark mark' : Option Mark} {items items' : List Datum}
      (lengths : items.length = items'.length)
      (parts : ∀ item item', (item, item') ∈ items.zip items' → Rebuilt levels item item') :
      Rebuilt (levels + 1) (.list mark items) (.list mark' items')
  | object {levels : Nat} {mark mark' : Mark} {fields fields' : List (String × Datum)}
      (rearranged : (Table.names fields).Perm (Table.names fields'))
      (parts : ∀ name value value', (name, value) ∈ fields → (name, value') ∈ fields' →
        Rebuilt levels value value') :
      Rebuilt (levels + 1) (.object mark fields) (.object mark' fields')

/-- A list of one item is made anew around an item that is. -/
theorem Rebuilt.singleton {item item' : Datum} (rebuilt : Rebuilt levels item item')
    (mark mark' : Option Mark) :
    Rebuilt (levels + 1) (.list mark [item]) (.list mark' [item']) := by
  refine .list rfl fun one other pair => ?_
  obtain ⟨rfl, rfl⟩ := Prod.mk.inj (List.mem_singleton.mp pair)
  exact rebuilt

/-- A datum that carries its mark turns out equal to itself at once. -/
theorem same_self {datum : Datum} (marked : ∀ items, datum ≠ .list none items) :
    Same matching levels datum datum := by
  cases datum with
  | list mark items =>
    cases mark with
    | none => exact absurd rfl (marked items)
    | some mark => exact same_list_iff.mpr (.inl (by simp [sameMark]))
  | object mark fields => exact same_object_iff.mpr (.inl rfl)
  | _ => exact congrArg some (atomsEqual_self matching rfl)

/-- What is made anew turns out equal if as many levels may be gone through as were made. -/
theorem Rebuilt.same {made bound : Nat} {first second : Datum} (rebuilt : Rebuilt made first second)
    (kept : second.Every store.Holds) (within : made ≤ bound) :
    Same matching bound first second := by
  induction rebuilt generalizing bound with
  | shared marked => exact same_self marked
  | list lengths parts ih =>
    obtain ⟨below, rfl⟩ := Nat.exists_eq_add_of_le' (Nat.le_trans (Nat.le_add_left 1 _) within)
    refine same_list_iff.mpr (.inr ⟨below, rfl, List.forall₂_iff_zip.mpr ⟨lengths, ?_⟩⟩)
    intro item item' pair
    exact ih item item' pair (kept.item (List.of_mem_zip pair).2) (Nat.le_of_succ_le_succ within)
  | @object _ _ _ fields fields' rearranged parts ih =>
    obtain ⟨below, rfl⟩ := Nat.exists_eq_add_of_le' (Nat.le_trans (Nat.le_add_left 1 _) within)
    have lengths : fields.length = fields'.length := by
      simpa [Table.names] using rearranged.length_eq
    refine same_object_iff.mpr (.inr ⟨below, rfl, lengths, ?_⟩)
    rintro ⟨name, value⟩ isField
    have isName : name ∈ Table.names fields' :=
      rearranged.mem_iff.mp (List.mem_map.mpr ⟨_, isField, rfl⟩)
    obtain ⟨⟨_, value'⟩, isField', rfl⟩ := List.mem_map.mp isName
    exact ⟨value', Table.get?_of_mem kept.here.2 isField', ih _ value value' isField isField'
      (kept.field isField') (Nat.le_of_succ_le_succ within)⟩

/-! ### Places of equal data -/

/-- The strict equality sees the type of a datum without parts. -/
theorem typeName_of_essence? {datum : Datum} {essence : Essence}
    (seen : datum.essence? .strict = some essence) : datum.typeName = essence.typeName := by
  cases datum with
  | int | double =>
    rw [essence?, Option.map_eq_some_iff] at seen
    obtain ⟨rank, _, rfl⟩ := seen
    rfl
  | list | object => cases seen
  | _ =>
    cases seen
    rfl

/-- Equal data have one type. -/
theorem Same.typeName_eq {first second : Datum} (same : Same .strict levels first second) :
    first.typeName = second.typeName := by
  cases same_iff.mp same with
  | atoms one other => rw [typeName_of_essence? one, typeName_of_essence? other]
  | lists => rfl
  | objects => rfl

/-- What is equal to a string is the string. -/
theorem Same.eq_string {text : String} {second : Datum}
    (same : Same matching levels (.string text) second) : second = .string text := by
  cases same_iff.mp same with
  | atoms one other =>
    cases one
    exact eq_string_of_essence? other

/-- A step leads into both of two equal data, to parts that are one or equal, or into neither. -/
theorem Same.child {first second : Datum} (kept : first.Every store.Holds)
    (kept' : second.Every store.Holds) (same : Same matching levels first second) (step : Step) :
    first = second ∨ (first.child? step = none ∧ second.child? step = none) ∨
      ∃ below part part', first.child? step = some part ∧ second.child? step = some part' ∧
        part ∈ first.parts ∧ part' ∈ second.parts ∧ Same matching below part part' := by
  cases same_iff.mp same with
  | atoms one other =>
    right
    left
    exact ⟨child?_of_isAtom (isAtom_of_essence? one) step,
      child?_of_isAtom (isAtom_of_essence? other) step⟩
  | @lists mark mark' items items' found =>
    rcases found with marks | ⟨below, rfl, parts⟩
    · exact .inl (items_eq_of_sameMark marks kept.here kept'.here)
    right
    cases step with
    | item index =>
      obtain ⟨lengths, each⟩ := List.forall₂_iff_get.mp parts
      by_cases inside : index < items.length
      · have inside' : index < items'.length := lengths ▸ inside
        right
        exact ⟨below, _, _, List.getElem?_eq_getElem inside, List.getElem?_eq_getElem inside',
          List.getElem_mem inside, List.getElem_mem inside', each index inside inside'⟩
      · left
        rw [child?_list_item, child?_list_item]
        exact ⟨List.getElem?_eq_none (Nat.le_of_not_lt inside),
          List.getElem?_eq_none (lengths ▸ Nat.le_of_not_lt inside)⟩
    | field name => exact .inl ⟨rfl, rfl⟩
  | @objects mark mark' fields fields' found =>
    rcases found with rfl | ⟨below, rfl, lengths, parts⟩
    · exact .inl (fields_eq_of_mark kept.here kept'.here)
    right
    cases step with
    | item index => exact .inl ⟨rfl, rfl⟩
    | field name =>
      cases Table.agree_of_partners kept.here.2 kept'.here.2 lengths parts name with
      | missing found found' => exact .inl ⟨found, found'⟩
      | present found found' equal =>
        right
        exact ⟨below, _, _, found, found', List.mem_map_of_mem (Table.mem_of_get? found),
          List.mem_map_of_mem (Table.mem_of_get? found'), equal⟩

/-- Equal data have parts of one type at every place, or no parts there. -/
theorem Same.typeName_at? {first second : Datum} (kept : first.Every store.Holds)
    (kept' : second.Every store.Holds) (same : Same .strict levels first second)
    (path : List Step) : (first.at? path).map typeName = (second.at? path).map typeName := by
  induction path generalizing levels first second with
  | nil => exact congrArg some same.typeName_eq
  | cons step path ih =>
    rw [at?_cons, at?_cons]
    obtain rfl | ⟨none, none'⟩ | ⟨below, part, part', found, found', isPart, isPart', equal⟩ :=
      same.child kept kept' step
    · rfl
    · rw [none, none']
    · rw [found, found', Option.bind_some, Option.bind_some]
      exact ih (kept.part isPart) (kept'.part isPart') equal

end Datum

/-! ### Equality in surroundings -/

namespace Surroundings

variable {around : Surroundings} {matching : Datum.Matching} {store : Store}
  {first second third : Datum}

/-- Data that are compared as they are through some levels are equal if they turn out so. -/
theorem Reaches.equal_iff {levels : Nat} (reaches : around.Reaches levels first second) :
    around.equal matching first second = .ok true ↔ Datum.Same matching levels first second := by
  rw [reaches.equal, reached_eq_ok, Datum.Same]

/-- What is made anew through no more levels than may be gone through is equal. -/
theorem equal_of_rebuilt {levels : Nat} (kept : first.Every store.Holds)
    (kept' : second.Every store.Holds) (rebuilt : Datum.Rebuilt levels first second)
    (within : ∀ bound, around.levels = some bound → levels ≤ bound) :
    around.equal matching first second = .ok true := by
  rw [equal]
  cases bounded : around.levels with
  | some bound => exact congrArg around.reached (rebuilt.same kept' (within bound bounded))
  | none =>
    obtain ⟨many, enough, equal⟩ := ((Filter.eventually_ge_atTop levels).and
      (Datum.eventually_equalWithin matching kept)).exists
    have same : Datum.Same matching many first second := rebuilt.same kept' enough
    rw [Datum.Same, equal second kept', Option.some.injEq] at same
    exact congrArg Except.ok same

end Surroundings

/-! ### Searching for equal data -/

namespace Primitive

open Eval Datum

/-- The item behind the first one is looked for if the first is not equal. -/
theorem indexAmong_cons_run (needle : Datum) (index : Nat) (item : Datum) (rest : List Datum)
    (around : Surroundings) (world : World) :
    indexAmong needle index (item :: rest) around world =
      match around.equal .strict item needle with
      | .ok true => (.ok (some index), world)
      | .ok false => indexAmong needle (index + 1) rest around world
      | .error cause => (.error cause, world) := by
  rw [indexAmong, bind_apply, Eval.equal, bind_apply]
  simp only [Eval.surroundings]
  rcases around.equal .strict item needle with cause | _ | _ <;> rfl

/-- A search through items changes nothing, and fails only at an item that is compared too deep. -/
theorem indexAmong_ends (needle : Datum) (index : Nat) (items : List Datum)
    (around : Surroundings) :
    ∃ found, (∀ world, indexAmong needle index items around world = (found, world)) ∧
      ∀ cause, found = .error cause →
        cause = around.tooDeep ∧ ∃ item ∈ items, around.IsExceededBy item needle := by
  induction items generalizing index with
  | nil => exact ⟨.ok none, fun _ => rfl, nofun⟩
  | cons item rest ih =>
    simp only [indexAmong_cons_run]
    rcases answer : around.equal .strict item needle with cause | _ | _
    · refine ⟨.error cause, fun _ => rfl, ?_⟩
      rintro _ ⟨⟩
      obtain ⟨exceeded, deep⟩ := Surroundings.equal_fails answer
      exact ⟨deep, item, .head _, exceeded⟩
    · obtain ⟨found, runs, fails⟩ := ih (index + 1)
      refine ⟨found, runs, fun cause failed => ?_⟩
      obtain ⟨deep, other, isOther, exceeded⟩ := fails cause failed
      exact ⟨deep, other, .tail _ isOther, exceeded⟩
    · exact ⟨.ok (some index), fun _ => rfl, nofun⟩

/-- Needles that are equal to the same items are found at the same index. -/
theorem indexAmong_congr {needle needle' : Datum} {items : List Datum} {around : Surroundings}
    (alike : ∀ item ∈ items,
      around.equal .strict item needle = around.equal .strict item needle') (index : Nat)
    (world : World) :
    indexAmong needle index items around world = indexAmong needle' index items around world := by
  induction items generalizing index with
  | nil => rfl
  | cons item rest ih =>
    obtain ⟨first, others⟩ := List.forall_mem_cons.mp alike
    rw [indexAmong_cons_run, indexAmong_cons_run, first, ih others]

/-- Why a search fails: a datum that is neither a list nor a string is searched, or an item is
compared too deep. -/
def SearchFails (around : Surroundings) (haystack needle : Datum) (cause : EvalError) : Prop :=
  (haystack.typeName ∉ ["list", "string"] ∧ cause = expectedError "index-of" .list haystack) ∨
    (cause = around.tooDeep ∧ ∃ item ∈ haystack.parts, around.IsExceededBy item needle)

/-- A search changes nothing. -/
theorem indexIn_ends (haystack needle : Datum) (around : Surroundings) :
    ∃ found, (∀ world, indexIn haystack needle around world = (found, world)) ∧
      ∀ cause, found = .error cause → SearchFails around haystack needle cause := by
  cases haystack with
  | list mark items =>
    obtain ⟨found, runs, fails⟩ := indexAmong_ends needle 0 items around
    exact ⟨found, runs, fun cause failed => .inr (fails cause failed)⟩
  | string text =>
    cases needle with
    | string pattern => exact ⟨.ok (Text.find? pattern.toList text.toList), fun _ => rfl, nofun⟩
    | _ => exact ⟨.ok none, fun _ => rfl, nofun⟩
  | _ =>
    refine ⟨.error _, fun _ => rfl, ?_⟩
    rintro _ ⟨⟩
    exact .inl ⟨by simp [typeName], rfl⟩

/-- The number that the place of a finding is shown as. -/
def findingCode : Option Nat → Int
  | some index => index
  | none => -1

/-- A finding is told from its number. -/
theorem isSome_eq_findingCode_ne (found : Option Nat) :
    found.isSome = (findingCode found != -1) := by
  cases found with
  | none => rfl
  | some index => simp [findingCode]

section Run

variable (recur : Datum → Eval Datum) (haystack needle : Datum) (around : Surroundings)
  (world : World)

theorem indexOf_run :
    indexOf recur [haystack, needle] around world =
      match indexIn haystack needle around world with
      | (.ok found, after) => (.ok (.int (findingCode found)), after)
      | (.error cause, after) => (.error cause, after) := by
  rw [indexOf, binary, bind_apply]
  rcases indexIn haystack needle around world with ⟨cause | _ | index, after⟩ <;> rfl

theorem contains_run :
    contains recur [haystack, needle] around world =
      match indexIn haystack needle around world with
      | (.ok found, after) => (.ok (.bool (findingCode found != -1)), after)
      | (.error cause, after) => (.error cause, after) := by
  rw [contains, binary, bind_apply]
  simp only [← isSome_eq_findingCode_ne]
  rcases indexIn haystack needle around world with ⟨cause | found, after⟩ <;> rfl

/-- Both searches end with what is found, or with one failure. -/
theorem search_ends :
    ∃ found : Except EvalError Int,
      indexOf recur [haystack, needle] around world = (found.map .int, world) ∧
      contains recur [haystack, needle] around world =
        (found.map fun index => .bool (index != -1), world) ∧
      ∀ cause, found = .error cause → SearchFails around haystack needle cause := by
  obtain ⟨found, runs, fails⟩ := indexIn_ends haystack needle around
  refine ⟨found.map findingCode, ?_, ?_, ?_⟩
  · rw [indexOf_run, runs]
    cases found <;> rfl
  · rw [contains_run, runs]
    cases found <;> rfl
  · intro cause failed
    cases found with
    | error =>
      cases failed
      exact fails _ rfl
    | ok => cases failed

end Run

/-- Nothing but a string is found in a string. -/
theorem indexIn_string {needle : Datum} (other : ∀ pattern, needle ≠ .string pattern)
    (text : String) : indexIn (.string text) needle = pure none := by
  cases needle with
  | string pattern => exact absurd rfl (other pattern)
  | _ => rfl

/-- Equal needles are found at the same place. -/
theorem indexIn_congr {around : Surroundings} {store : Store} {haystack needle needle' : Datum}
    (kept : haystack.Every store.Holds) (keptNeedle : needle.Every store.Holds)
    (keptNeedle' : needle'.Every store.Holds)
    (equal : around.equal .strict needle needle' = .ok true) (world : World) :
    indexIn haystack needle around world = indexIn haystack needle' around world := by
  have together : ∀ datum ∈ needle :: needle' :: haystack.parts, datum.Every store.Holds :=
    List.forall_mem_cons.mpr
      ⟨keptNeedle, List.forall_mem_cons.mpr ⟨keptNeedle', fun _ => kept.part⟩⟩
  obtain ⟨levels, reaches⟩ := around.exists_reaches together
  have same : Same .strict levels needle needle' :=
    (reaches needle (.head _) needle' (.tail _ (.head _))).equal_iff.mp equal
  cases haystack with
  | list mark items =>
    refine indexAmong_congr (fun item isItem => ?_) 0 world
    have isDatum : item ∈ needle :: needle' :: items := .tail _ (.tail _ isItem)
    rw [(reaches item isDatum needle (.head _)).equal,
      (reaches item isDatum needle' (.tail _ (.head _))).equal,
      same.equalWithin_congr (kept.item isItem) keptNeedle keptNeedle']
  | string text =>
    by_cases isString : ∃ pattern, needle = .string pattern
    · obtain ⟨pattern, rfl⟩ := isString
      rw [same.eq_string]
    · have other : ∀ pattern, needle ≠ .string pattern :=
        fun pattern one => isString ⟨pattern, one⟩
      have other' : ∀ pattern, needle' ≠ .string pattern := by
        rintro pattern rfl
        exact other pattern (same.symm keptNeedle keptNeedle').eq_string
      rw [indexIn_string other, indexIn_string other']
  | _ => rfl

/-- Equality in the language is an equivalence, which no search looks behind.  The comparison of two
values answers, unless the host bounds the levels that a comparison may go through and both are
nested deeper.  A value is equal to what is made anew from its parts, with the fields of objects in
any order, if no more levels were made than may be gone through.  Equal values have parts of the
same types at the same places, so none of them is a boolean where the other is a number.  `contains`
tells whether `index-of` finds a place, and neither tells equal values apart.  The values belong to
one store, as all that evaluation has made do. -/
theorem equal_equivalence (around : Surroundings) (world : World) (recur : Datum → Eval Datum)
    {store : Store} {a b c haystack : Datum}
    (kept : ∀ datum ∈ [a, b, c, haystack], datum.Every store.Holds) :
    let equal (first second : Datum) := around.equal .strict first second
    ((∃ answer, equal a b = .ok answer) ∨
      around.IsExceededBy a b ∧ equal a b = .error around.tooDeep) ∧
    (∀ made, Rebuilt made a b → (∀ bound, around.levels = some bound → made ≤ bound) →
      equal a b = .ok true) ∧
    (equal a b = .ok true → equal b a = .ok true) ∧
    (equal a b = .ok true → equal b c = .ok true → equal a c = .ok true) ∧
    (equal a b = .ok true → ∀ path,
      (a.at? path).map typeName = (b.at? path).map typeName) ∧
    (∃ found : Except EvalError Int,
      indexOf recur [haystack, a] around world = (found.map .int, world) ∧
      contains recur [haystack, a] around world =
        (found.map fun index => .bool (index != -1), world) ∧
      ∀ cause, found = .error cause → SearchFails around haystack a cause) ∧
    (equal a b = .ok true → ∀ search ∈ [indexOf, contains],
      search recur [haystack, a] around world = search recur [haystack, b] around world) := by
  intro equal
  have keptA := kept a (by simp)
  have keptB := kept b (by simp)
  have keptC := kept c (by simp)
  obtain ⟨levels, reaches⟩ := around.exists_reaches kept
  have equal_iff (first second : Datum) (isFirst : first ∈ [a, b, c, haystack])
      (isSecond : second ∈ [a, b, c, haystack]) :
      equal first second = .ok true ↔ Same .strict levels first second :=
    (reaches first isFirst second isSecond).equal_iff
  have same_iff := equal_iff a b (by simp) (by simp)
  refine ⟨?_, ?_, ?_, ?_, ?_, search_ends recur haystack a around world, ?_⟩
  · cases compared : equal a b with
    | ok answer => exact .inl ⟨answer, rfl⟩
    | error cause =>
      obtain ⟨exceeded, rfl⟩ := Surroundings.equal_fails compared
      exact .inr ⟨exceeded, rfl⟩
  · exact fun made rebuilt within => Surroundings.equal_of_rebuilt keptA keptB rebuilt within
  · intro same
    exact (equal_iff b a (by simp) (by simp)).mpr ((same_iff.mp same).symm keptA keptB)
  · intro same same'
    have same' := (equal_iff b c (by simp) (by simp)).mp same'
    exact (equal_iff a c (by simp) (by simp)).mpr
      ((same_iff.mp same).trans keptA keptB keptC same')
  · exact fun same path => (same_iff.mp same).typeName_at? keptA keptB path
  · intro same
    have found := indexIn_congr (kept haystack (by simp)) keptA keptB same world
    rw [List.forall_mem_cons, List.forall_mem_singleton]
    constructor
    · rw [indexOf_run, indexOf_run, found]
    · rw [contains_run, contains_run, found]

/-- Lists that are made once more around one number are made anew. -/
theorem rebuilt_nested (mark mark' : Mark) (depth : Nat) (value : Int) :
    Rebuilt depth (nested mark depth (.int value)) (nested mark' depth (.int value)) := by
  induction depth with
  | zero => exact .shared nofun
  | succ depth ih => exact ih.singleton _ _

/-- Two copies of the number `1` within 3000 lists, all of which are made anew, are not compared. -/
theorem equal_equivalence_too_deep :
    let around := (Evaluator.mk 100 .default).surroundings (.int 0)
    Rebuilt 3000 (nested 0 3000 (.int 1)) (nested 3000 3000 (.int 1)) ∧
      around.equal .strict (nested 0 3000 (.int 1)) (nested 3000 3000 (.int 1)) ≠ .ok true := by
  refine ⟨rebuilt_nested 0 3000 3000 1, fun equal => ?_⟩
  cases (Surroundings.equal_nested rfl (by decide) (by decide) .strict (.int 1) (.int 1)).symm.trans
    equal

/-- An object and a copy of it with the fields the other way round: they are equal, and in a list
with an equal object that holds the double `-0.0` in place of the integer `0` the one is found like
the other. -/
theorem equal_equivalence_objects :
    let flags (mark : Mark) : Datum := .list (some mark) [.bool true]
    let fields : List (List (String × Datum)) := [[("zero", .int 0), ("flags", flags 3)],
      [("flags", flags 4), ("zero", .int 0)],
      [("zero", .double (.finite true .zero)), ("flags", flags 3)]]
    let store : Store := ⟨fun _ => [.bool true], fun mark => fields.getD mark []⟩
    let object (mark : Mark) : Datum := .object mark (fields.getD mark [])
    let haystack : Datum := .list none [.int 1, object 2]
    let around := (Evaluator.mk 100 .default).surroundings (.int 0)
    (∀ datum ∈ [object 0, object 1, object 2, haystack], datum.Every store.Holds) ∧
      around.equal .strict (object 0) (object 1) = .ok true ∧
      contains (evaluateFor .default 5) [haystack, object 0] around (.ofScope [] 5) =
        (.ok (.bool true), .ofScope [] 5) := by
  intro flags fields store object haystack around
  have kept : ∀ datum ∈ [object 0, object 1, object 2, haystack], datum.Every store.Holds := by
    have number (value : Int) : (Datum.int value).Every store.Holds := .intro trivial nofun
    have double (value : Double) : (Datum.double value).Every store.Holds := .intro trivial nofun
    have flag (mark : Mark) : (flags mark).Every store.Holds :=
      .intro rfl (List.forall_mem_singleton.mpr (.intro trivial nofun))
    have objects (mark : Mark) (distinct : (Table.names (fields.getD mark [])).Nodup)
        (every : ∀ part ∈ (object mark).parts, part.Every store.Holds) :
        (object mark).Every store.Holds :=
      .intro ⟨rfl, distinct⟩ every
    have first : (object 0).Every store.Holds :=
      objects 0 (by decide) (by simp [object, fields, parts, number, flag])
    have second : (object 1).Every store.Holds :=
      objects 1 (by decide) (by simp [object, fields, parts, number, flag])
    have third : (object 2).Every store.Holds :=
      objects 2 (by decide) (by simp [object, fields, parts, double, flag])
    have list : haystack.Every store.Holds :=
      .intro trivial (List.forall_mem_cons.mpr ⟨number 1, List.forall_mem_singleton.mpr third⟩)
    simp only [List.forall_mem_cons]
    exact ⟨first, second, third, list, nofun⟩
  have shared : Rebuilt 0 (.bool true) (.bool true) := .shared nofun
  have flagsAnew : Rebuilt 1 (flags 3) (flags 4) := shared.singleton _ _
  have rebuilt : Rebuilt 2 (object 0) (object 1) := by
    refine .object (by decide) fun name value value' isField isField' => ?_
    simp only [fields, List.getD_cons_zero, List.getD_cons_succ, List.mem_cons, List.not_mem_nil,
      Prod.mk.injEq, or_false] at isField isField'
    obtain ⟨rfl, rfl⟩ | ⟨rfl, rfl⟩ := isField
    · obtain ⟨other, _⟩ | ⟨_, rfl⟩ := isField'
      · exact absurd other (by decide)
      · exact .shared nofun
    · obtain ⟨_, rfl⟩ | ⟨other, _⟩ := isField'
      · exact flagsAnew
      · exact absurd other (by decide)
  obtain ⟨-, copies, -, -, -, -, alike⟩ :=
    equal_equivalence around (.ofScope [] 5) (evaluateFor .default 5) kept
  have equal := copies 2 rebuilt (by rintro _ ⟨⟩; decide)
  refine ⟨kept, equal, ?_⟩
  have found : (object 2).equalWithin .strict 1000 (object 1) = some true := by decide +kernel
  have different : around.equal .strict (.int 1) (object 1) = .ok false := rfl
  rw [alike equal contains (by simp), contains_run, indexIn, indexAmong_cons_run, different]
  simp only [indexAmong_cons_run]
  rw [show around.equal .strict (object 2) (object 1) = .ok true from congrArg around.reached found]
  rfl

end Primitive

end SandboxLisp
