import Mathlib.Data.Set.Finite.List
import Mathlib.Order.Filter.AtTopBot.Basic
import Mathlib.Order.Filter.Finite
import SandboxLisp.Eval.Monad
import SandboxLisp.Proofs.Data.Sameness

/-!
# Comparisons without a bound

A comparison that is not bounded comes to what a bounded one comes to when its bound is large.  So
in any surroundings the comparisons of finitely many data are those through some number of levels.
A bounded comparison fails only if both data are higher than the bound.
-/

namespace SandboxLisp

open Filter

namespace Datum

variable {matching : Matching} {store : Store}

/-! ### Equality of data with themselves -/

theorem itemsEqualBy_self {items : List Datum}
    (each : ∀ item ∈ items, equalBy matching item item = true) :
    itemsEqualBy matching items items = true := by
  induction items with
  | nil => rfl
  | cons item rest ih =>
    obtain ⟨first, others⟩ := List.forall_mem_cons.mp each
    rw [itemsEqualBy, first, ih others]
    rfl

theorem fieldsEqualBy_eq_true {fields fields' : List (String × Datum)}
    (each : ∀ field ∈ fields, ∃ value', Table.get? fields' field.1 = some value' ∧
      equalBy matching field.2 value' = true) :
    fieldsEqualBy matching fields fields' = true := by
  induction fields with
  | nil => rfl
  | cons field rest ih =>
    obtain ⟨⟨value', found, equal⟩, others⟩ := List.forall_mem_cons.mp each
    rw [fieldsEqualBy, found, ih others]
    simpa using equal

/-- Every datum is equal to itself. -/
theorem equalBy_self {datum : Datum} (kept : datum.Every store.Holds) :
    equalBy matching datum datum = true := by
  induction kept with
  | @intro datum here _ ih =>
    cases datum with
    | list mark items => exact itemsEqualBy_self ih
    | object mark fields =>
      rw [equalBy, fieldsEqualBy_eq_true]
      · simp
      · intro field isField
        exact ⟨field.2, Table.get?_of_mem here.2 isField, ih _ (List.mem_map_of_mem isField)⟩
    | _ =>
      rw [equalBy]
      exact atomsEqual_self matching rfl

/-! ### Equality through many levels -/

theorem length_eq_of_itemsEqualBy {items items' : List Datum}
    (equal : itemsEqualBy matching items items' = true) : items.length = items'.length := by
  induction items generalizing items' with
  | nil =>
    cases items' with
    | nil => rfl
    | cons item' rest' => cases equal
  | cons item rest ih =>
    cases items' with
    | nil => simp [itemsEqualBy] at equal
    | cons item' rest' =>
      simp only [itemsEqualBy, Bool.and_eq_true] at equal
      simp [ih equal.2]

theorem namesAmong_of_fieldsEqualBy {fields fields' : List (String × Datum)}
    (equal : fieldsEqualBy matching fields fields' = true) : namesAmong fields fields' = true := by
  induction fields with
  | nil => rfl
  | cons field rest ih =>
    obtain ⟨name, value⟩ := field
    rw [fieldsEqualBy, Bool.and_eq_true] at equal
    rw [namesAmong, List.all_cons, Bool.and_eq_true]
    refine ⟨?_, ih equal.2⟩
    cases found : Table.get? fields' name with
    | none => simp [found] at equal
    | some value' => simp [Table.has, found]

/-- Lists of one length are compared without reaching a bound if their items are. -/
theorem itemsEqualWithin_eq {levels : Nat} {items items' : List Datum}
    (lengths : items.length = items'.length)
    (each : ∀ item ∈ items, ∀ item' ∈ items',
      item.equalWithin matching levels item' = some (equalBy matching item item')) :
    itemsEqualWithin matching levels items items' = some (itemsEqualBy matching items items') := by
  induction items generalizing items' with
  | nil =>
    cases items' with
    | nil => rfl
    | cons item' rest' => cases lengths
  | cons item rest ih =>
    cases items' with
    | nil => cases lengths
    | cons item' rest' =>
      have others := ih (Nat.succ.inj lengths) fun _ isItem _ isItem' =>
        each _ (.tail _ isItem) _ (.tail _ isItem')
      rw [itemsEqualWithin, each item (.head _) item' (.head _), itemsEqualBy, others]
      cases equalBy matching item item' <;> rfl

/-- Fields are compared without reaching a bound if their values are. -/
theorem fieldsEqualWithin_eq {levels : Nat} {fields fields' : List (String × Datum)}
    (each : ∀ name value value', (name, value) ∈ fields → (name, value') ∈ fields' →
      value.equalWithin matching levels value' = some (equalBy matching value value')) :
    fieldsEqualWithin matching levels fields fields' =
      some (fieldsEqualBy matching fields fields') := by
  induction fields with
  | nil => rfl
  | cons field rest ih =>
    obtain ⟨name, value⟩ := field
    have others := ih fun _ _ _ isField => each _ _ _ (.tail _ isField)
    rw [fieldsEqualWithin, fieldsEqualBy, others]
    cases found : Table.get? fields' name with
    | none => rfl
    | some value' =>
      dsimp only
      rw [each name value value' (.head _) (Table.mem_of_get? found)]
      cases equalBy matching value value' <;> rfl

/-- What holds of each part at many numbers of levels holds one level above at many numbers. -/
theorem eventually_below {parts : List Datum} {holds : Datum → Nat → Prop}
    (each : ∀ part ∈ parts, ∀ᶠ levels in atTop, holds part levels) :
    ∀ᶠ levels in atTop, levels ≠ 0 ∧ ∀ part ∈ parts, holds part (levels - 1) := by
  have together : ∀ᶠ levels in atTop, ∀ part ∈ parts, holds part levels :=
    (eventually_all_finite (List.finite_toSet parts)).mpr each
  exact (eventually_ne_atTop 0).and ((tendsto_sub_atTop_nat 1).eventually together)

/-- Through many levels equality comes to what it is without a bound. -/
theorem eventually_equalWithin (matching : Matching) {first : Datum}
    (kept : first.Every store.Holds) :
    ∀ᶠ levels in atTop, ∀ second, second.Every store.Holds →
      first.equalWithin matching levels second = some (equalBy matching first second) := by
  induction kept with
  | @intro first here within ih =>
    have kept : first.Every store.Holds := .intro here within
    refine (eventually_below ih).mono fun levels below second kept' => ?_
    obtain ⟨positive, below⟩ := below
    cases first with
    | list mark items =>
      cases second with
      | list mark' items' =>
        rw [equalWithin]
        split_ifs with marks lengths
        · rw [← items_eq_of_sameMark marks here kept'.here, equalBy_self kept]
        · have different : itemsEqualBy matching items items' = false :=
            Bool.eq_false_iff.mpr fun equal => lengths (length_eq_of_itemsEqualBy equal)
          rw [equalBy, different]
        · rw [equalBy]
          exact itemsEqualWithin_eq (not_not.mp lengths) fun item isItem item' isItem' =>
            below item isItem item' (kept'.item isItem')
      | _ => rfl
    | object mark fields =>
      cases second with
      | object mark' fields' =>
        rw [equalWithin]
        split_ifs with marks lengths strange
        · subst marks
          rw [← fields_eq_of_mark here kept'.here, equalBy_self kept]
        · simp [equalBy, lengths]
        · have different : fieldsEqualBy matching fields fields' = false :=
            Bool.eq_false_iff.mpr fun equal => by
              cases strange.2.symm.trans (namesAmong_of_fieldsEqualBy equal)
          simp [equalBy, different]
        · rw [equalBy, fieldsEqualWithin_eq]
          · simp [not_not.mp lengths]
          · intro name value value' isField isField'
            exact below value (List.mem_map_of_mem isField) value' (kept'.field isField')
      | _ => rfl
    | _ => rfl

/-! ### Order through many levels -/

/-- Lists are related without reaching a bound if their items are compared so. -/
theorem relateItemsWithin_eq {levels : Nat} {relation : Relation} {items items' : List Datum}
    (equals : ∀ item ∈ items, ∀ item' ∈ items',
      item.equalWithin .loose levels item' = some (equalBy .loose item item'))
    (relates : ∀ item ∈ items, ∀ item' ∈ items',
      item.relateWithin relation levels item' = some (relate relation item item')) :
    relateItemsWithin relation levels items items' = some (relateItems relation items items') := by
  induction items generalizing items' with
  | nil => rfl
  | cons item rest ih =>
    cases items' with
    | nil => rfl
    | cons item' rest' =>
      rw [relateItemsWithin, relateItems, equals item (.head _) item' (.head _)]
      cases equalBy .loose item item' with
      | false => exact relates item (.head _) item' (.head _)
      | true =>
        exact ih (fun _ isItem _ isItem' => equals _ (.tail _ isItem) _ (.tail _ isItem'))
          (fun _ isItem _ isItem' => relates _ (.tail _ isItem) _ (.tail _ isItem'))

/-- Through many levels the order comes to what it is without a bound. -/
theorem eventually_relateWithin {first : Datum} (kept : first.Every store.Holds) :
    ∀ᶠ levels in atTop, ∀ second, second.Every store.Holds → ∀ relation,
      first.relateWithin relation levels second = some (relate relation first second) := by
  induction kept with
  | @intro first here within ih =>
    have equals part (isPart : part ∈ first.parts) :=
      eventually_equalWithin .loose (within part isPart)
    refine ((eventually_below ih).and (eventually_below equals)).mono
      fun levels below second kept' relation => ?_
    obtain ⟨⟨positive, relates⟩, ⟨_, equals⟩⟩ := below
    cases first with
    | list mark items =>
      cases second with
      | list mark' items' =>
        rw [relateWithin, if_neg positive, relate]
        exact relateItemsWithin_eq
          (fun item isItem item' isItem' => equals item isItem item' (kept'.item isItem'))
          (fun item isItem item' isItem' => relates item isItem item' (kept'.item isItem') relation)
      | _ => rfl
    | _ => rfl

/-! ### Comparisons through too few levels -/

mutual

/-- How many lists and objects stand one in another in a datum. -/
def height : Datum → Nat
  | .list _ items => itemsHeight items + 1
  | .object _ fields => fieldsHeight fields + 1
  | _ => 0
termination_by structural datum => datum

/-- The height of the highest item. -/
def itemsHeight : List Datum → Nat
  | [] => 0
  | item :: rest => max (height item) (itemsHeight rest)
termination_by structural items => items

/-- The height of the highest value of a field. -/
def fieldsHeight : List (String × Datum) → Nat
  | [] => 0
  | (_, value) :: rest => max (height value) (fieldsHeight rest)
termination_by structural fields => fields

end

theorem height_le_itemsHeight {items : List Datum} {item : Datum} (isItem : item ∈ items) :
    item.height ≤ itemsHeight items := by
  induction items with
  | nil => cases isItem
  | cons first rest ih =>
    rw [itemsHeight]
    cases isItem with
    | head => exact Nat.le_max_left _ _
    | tail _ isItem => exact Nat.le_trans (ih isItem) (Nat.le_max_right _ _)

theorem height_le_fieldsHeight {fields : List (String × Datum)} {name : String} {value : Datum}
    (isField : (name, value) ∈ fields) : value.height ≤ fieldsHeight fields := by
  induction fields with
  | nil => cases isField
  | cons field rest ih =>
    obtain ⟨name', first⟩ := field
    rw [fieldsHeight]
    cases isField with
    | head => exact Nat.le_max_left _ _
    | tail _ isField => exact Nat.le_trans (ih isField) (Nat.le_max_right _ _)

/-- Two data are both higher than a number of levels. -/
def Above (levels : Nat) (first second : Datum) : Prop :=
  levels < first.height ∧ levels < second.height

/-- Lists are as high as a level above their items. -/
theorem Above.lists {levels : Nat} {mark mark' : Option Mark} {items items' : List Datum}
    (above : levels = 0 ∨ ∃ item ∈ items, ∃ item' ∈ items', Above (levels - 1) item item') :
    Above levels (.list mark items) (.list mark' items') := by
  rw [Above, height, height]
  rcases above with rfl | ⟨item, isItem, item', isItem', one, other⟩
  · exact ⟨Nat.succ_pos _, Nat.succ_pos _⟩
  · have one := Nat.lt_of_lt_of_le one (height_le_itemsHeight isItem)
    have other := Nat.lt_of_lt_of_le other (height_le_itemsHeight isItem')
    omega

/-- So are objects. -/
theorem Above.objects {levels : Nat} {mark mark' : Mark} {fields fields' : List (String × Datum)}
    (above : levels = 0 ∨ ∃ name value value', (name, value) ∈ fields ∧ (name, value') ∈ fields' ∧
      Above (levels - 1) value value') :
    Above levels (.object mark fields) (.object mark' fields') := by
  rw [Above, height, height]
  rcases above with rfl | ⟨name, value, value', isField, isField', one, other⟩
  · exact ⟨Nat.succ_pos _, Nat.succ_pos _⟩
  · have one := Nat.lt_of_lt_of_le one (height_le_fieldsHeight isField)
    have other := Nat.lt_of_lt_of_le other (height_le_fieldsHeight isField')
    omega

/-- Lists are not found equal or different because a pair of their items is not. -/
theorem exists_of_itemsEqualWithin {levels : Nat} {items items' : List Datum}
    (unreached : itemsEqualWithin matching levels items items' = none) :
    ∃ item ∈ items, ∃ item' ∈ items', item.equalWithin matching levels item' = none := by
  induction items generalizing items' with
  | nil => cases unreached
  | cons item rest ih =>
    cases items' with
    | nil => cases unreached
    | cons item' rest' =>
      rw [itemsEqualWithin] at unreached
      rcases answer : item.equalWithin matching levels item' with _ | (_ | _)
      · exact ⟨item, .head _, item', .head _, answer⟩
      · rw [answer] at unreached
        cases unreached
      · rw [answer] at unreached
        obtain ⟨other, isOther, other', isOther', unreached⟩ := ih unreached
        exact ⟨other, .tail _ isOther, other', .tail _ isOther', unreached⟩

/-- Fields are not found equal or different because two values of one name are not. -/
theorem exists_of_fieldsEqualWithin {levels : Nat} {fields fields' : List (String × Datum)}
    (unreached : fieldsEqualWithin matching levels fields fields' = none) :
    ∃ name value value', (name, value) ∈ fields ∧ (name, value') ∈ fields' ∧
      value.equalWithin matching levels value' = none := by
  induction fields with
  | nil => cases unreached
  | cons field rest ih =>
    obtain ⟨name, value⟩ := field
    rw [fieldsEqualWithin] at unreached
    cases found : Table.get? fields' name with
    | none =>
      rw [found] at unreached
      cases unreached
    | some value' =>
      rw [found] at unreached
      dsimp only at unreached
      rcases answer : value.equalWithin matching levels value' with _ | (_ | _)
      · exact ⟨name, value, value', .head _, Table.mem_of_get? found, answer⟩
      · rw [answer] at unreached
        cases unreached
      · rw [answer] at unreached
        obtain ⟨other, one, two, isField, isField', unreached⟩ := ih unreached
        exact ⟨other, one, two, .tail _ isField, isField', unreached⟩

/-- Equality takes more levels only of data that are both higher. -/
theorem above_of_equalWithin {levels : Nat} {first second : Datum}
    (unreached : first.equalWithin matching levels second = none) : Above levels first second := by
  induction levels using Nat.strongRecOn generalizing first second with
  | ind levels ih =>
    cases first with
    | list mark items =>
      cases second with
      | list mark' items' =>
        rw [equalWithin] at unreached
        split_ifs at unreached with marks lengths ground
        · exact .lists (.inl ground)
        · obtain ⟨item, isItem, item', isItem', unreached⟩ := exists_of_itemsEqualWithin unreached
          exact .lists (.inr ⟨item, isItem, item', isItem', ih _ (by omega) unreached⟩)
      | _ => cases unreached
    | object mark fields =>
      cases second with
      | object mark' fields' =>
        rw [equalWithin] at unreached
        split_ifs at unreached with marks lengths strange ground
        · exact .objects (.inl ground)
        · obtain ⟨name, value, value', isField, isField', unreached⟩ :=
            exists_of_fieldsEqualWithin unreached
          exact .objects (.inr ⟨name, value, value', isField, isField', ih _ (by omega) unreached⟩)
      | _ => cases unreached
    | _ => cases unreached

/-- Lists are not ordered through a number of levels because a pair of their items is not compared. -/
theorem exists_of_relateItemsWithin {relation : Relation} {levels : Nat} {items items' : List Datum}
    (unreached : relateItemsWithin relation levels items items' = none) :
    ∃ item ∈ items, ∃ item' ∈ items', item.equalWithin .loose levels item' = none ∨
      item.relateWithin relation levels item' = none := by
  induction items generalizing items' with
  | nil => cases unreached
  | cons item rest ih =>
    cases items' with
    | nil => cases unreached
    | cons item' rest' =>
      rw [relateItemsWithin] at unreached
      rcases answer : item.equalWithin .loose levels item' with _ | (_ | _)
      · exact ⟨item, .head _, item', .head _, .inl answer⟩
      · rw [answer] at unreached
        exact ⟨item, .head _, item', .head _, .inr unreached⟩
      · rw [answer] at unreached
        obtain ⟨other, isOther, other', isOther', unreached⟩ := ih unreached
        exact ⟨other, .tail _ isOther, other', .tail _ isOther', unreached⟩

/-- The order takes more levels only of data that are both higher. -/
theorem above_of_relateWithin {relation : Relation} {levels : Nat} {first second : Datum}
    (unreached : first.relateWithin relation levels second = none) : Above levels first second := by
  induction levels using Nat.strongRecOn generalizing first second with
  | ind levels ih =>
    cases first with
    | list mark items =>
      cases second with
      | list mark' items' =>
        rw [relateWithin] at unreached
        split_ifs at unreached with ground
        · exact .lists (.inl ground)
        · obtain ⟨item, isItem, item', isItem', equality | order⟩ :=
            exists_of_relateItemsWithin unreached
          · exact .lists (.inr ⟨item, isItem, item', isItem', above_of_equalWithin equality⟩)
          · exact .lists (.inr ⟨item, isItem, item', isItem', ih _ (by omega) order⟩)
      | _ => cases unreached
    | _ => cases unreached

end Datum

/-! ### Comparisons in surroundings -/

/-- Two data are both higher than the surroundings let a comparison go. -/
def Surroundings.IsExceededBy (around : Surroundings) (first second : Datum) : Prop :=
  ∃ bound, around.levels = some bound ∧ Datum.Above bound first second

/-- What is reached at a bounded depth is the value that is found there. -/
theorem Surroundings.reached_eq_ok {α : Type} {around : Surroundings} {found : Option α} {value : α} :
    around.reached found = .ok value ↔ found = some value := by
  cases found <;> simp [reached]

/-- What is not reached at a bounded depth is too deep. -/
theorem Surroundings.reached_fails {α : Type} {around : Surroundings} {found : Option α}
    {cause : EvalError} (fails : around.reached found = .error cause) :
    found = none ∧ cause = around.tooDeep := by
  cases found with
  | none => exact ⟨rfl, (Except.error.inj fails).symm⟩
  | some value => cases fails

/-- Equality fails only for data that are higher than the bound, and because it goes too deep. -/
theorem Surroundings.equal_fails {around : Surroundings} {matching : Datum.Matching}
    {first second : Datum} {cause : EvalError}
    (fails : around.equal matching first second = .error cause) :
    around.IsExceededBy first second ∧ cause = around.tooDeep := by
  rw [equal] at fails
  split at fails
  · next bound bounded =>
    obtain ⟨unreached, deep⟩ := reached_fails fails
    exact ⟨⟨bound, bounded, Datum.above_of_equalWithin unreached⟩, deep⟩
  · cases fails

/-- The order fails only for data that are higher than the bound, and because it goes too deep. -/
theorem Surroundings.relate_fails {around : Surroundings} {relation : Relation}
    {first second : Datum} {cause : EvalError}
    (fails : around.relate relation first second = .error cause) :
    around.IsExceededBy first second ∧ cause = around.tooDeep := by
  rw [relate] at fails
  split at fails
  · next bound bounded =>
    obtain ⟨unreached, deep⟩ := reached_fails fails
    exact ⟨⟨bound, bounded, Datum.above_of_relateWithin unreached⟩, deep⟩
  · cases fails

/-- Two data are compared in the surroundings as they are through a number of levels. -/
structure Surroundings.Reaches (around : Surroundings) (levels : Nat) (first second : Datum) :
    Prop where
  equal (matching : Datum.Matching) : around.equal matching first second =
    around.reached (first.equalWithin matching levels second)
  relate (relation : Relation) : around.relate relation first second =
    around.reached (first.relateWithin relation levels second)

/-- In any surroundings finitely many data are compared as they are through some number of levels. -/
theorem Surroundings.exists_reaches (around : Surroundings) {store : Store} {data : List Datum}
    (kept : ∀ datum ∈ data, datum.Every store.Holds) :
    ∃ levels, ∀ first ∈ data, ∀ second ∈ data, around.Reaches levels first second := by
  cases bounded : around.levels with
  | some bound =>
    refine ⟨bound, fun first _ second _ => ⟨fun matching => ?_, fun relation => ?_⟩⟩
    · rw [equal, bounded]
    · rw [relate, bounded]
  | none =>
    have each : ∀ first ∈ data, ∀ᶠ levels in atTop, ∀ second ∈ data,
        around.Reaches levels first second := by
      intro first isFirst
      have strict := Datum.eventually_equalWithin .strict (kept first isFirst)
      have loose := Datum.eventually_equalWithin .loose (kept first isFirst)
      have relates := Datum.eventually_relateWithin (kept first isFirst)
      filter_upwards [strict, loose, relates] with levels strict loose relates second isSecond
      constructor
      · intro matching
        rw [equal, bounded]
        cases matching with
        | strict => rw [strict second (kept second isSecond), reached]
        | loose => rw [loose second (kept second isSecond), reached]
      · intro relation
        rw [relate, bounded, relates second (kept second isSecond) relation, reached]
    exact ((eventually_all_finite (List.finite_toSet data)).mpr each).exists

/-! ### Data that are nested too deep -/

namespace Datum

/-- A datum within as many lists as the depth says, the innermost of which has the mark. -/
def nested (mark : Mark) (depth : Nat) (core : Datum) : Datum :=
  match depth with
  | 0 => core
  | depth + 1 => .list (some (mark + depth)) [nested mark depth core]

theorem every_nested {holds : Datum → Prop} {core : Datum} (every : core.Every holds)
    (lists : ∀ mark items, holds (.list (some mark) items)) (mark : Mark) (depth : Nat) :
    (nested mark depth core).Every holds := by
  induction depth with
  | zero => exact every
  | succ depth ih => exact .intro (lists _ _) (List.forall_mem_singleton.mpr ih)

section Nested

variable {mark mark' : Mark} {levels depth : Nat}

/-- Equality does not get to the core of different lists through fewer levels than they have. -/
theorem equalWithin_nested (matching : Matching) (different : mark ≠ mark') (deeper : levels < depth)
    (core core' : Datum) :
    (nested mark depth core).equalWithin matching levels (nested mark' depth core') = none := by
  induction levels generalizing depth with
  | zero =>
    obtain ⟨depth, rfl⟩ := Nat.exists_eq_succ_of_ne_zero (Nat.ne_of_gt deeper)
    simp [nested, equalWithin, sameMark, different]
  | succ levels ih =>
    obtain ⟨depth, rfl⟩ := Nat.exists_eq_succ_of_ne_zero (Nat.ne_zero_of_lt deeper)
    simp [nested, equalWithin, sameMark, different, itemsEqualWithin,
      ih (Nat.lt_of_succ_lt_succ deeper)]

/-- Neither does the order. -/
theorem relateWithin_nested (relation : Relation) (different : mark ≠ mark') (deeper : levels < depth)
    (core core' : Datum) :
    (nested mark depth core).relateWithin relation levels (nested mark' depth core') = none := by
  obtain ⟨depth, rfl⟩ := Nat.exists_eq_succ_of_ne_zero (Nat.ne_zero_of_lt deeper)
  cases levels with
  | zero => rfl
  | succ levels =>
    simp [nested, relateWithin, relateItemsWithin,
      equalWithin_nested .loose different (Nat.lt_of_succ_lt_succ deeper)]

end Nested

end Datum

/-- Where levels are bounded, lists that are nested deeper are not compared. -/
theorem Surroundings.relate_nested {around : Surroundings} {bound depth : Nat}
    (bounded : around.levels = some bound) (deeper : bound < depth) {mark mark' : Mark}
    (different : mark ≠ mark') (relation : Relation) (core core' : Datum) :
    around.relate relation (.nested mark depth core) (.nested mark' depth core') =
      .error around.tooDeep := by
  rw [relate, bounded]
  exact congrArg around.reached (Datum.relateWithin_nested relation different deeper core core')

/-- Where levels are bounded, lists that are nested deeper are not found equal or different. -/
theorem Surroundings.equal_nested {around : Surroundings} {bound depth : Nat}
    (bounded : around.levels = some bound) (deeper : bound < depth) {mark mark' : Mark}
    (different : mark ≠ mark') (matching : Datum.Matching) (core core' : Datum) :
    around.equal matching (.nested mark depth core) (.nested mark' depth core') =
      .error around.tooDeep := by
  rw [equal, bounded]
  exact congrArg around.reached (Datum.equalWithin_nested matching different deeper core core')

end SandboxLisp
