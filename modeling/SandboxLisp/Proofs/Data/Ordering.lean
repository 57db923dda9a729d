import SandboxLisp.Proofs.Data.Sameness

/-!
# Data that turn out ordered

A comparison of data without results that are not numbers ends in the same way for every relation:
it goes too deep, or finds two data that have no order, or finds an ordering, which answers all
relations.  Where an ordering is found, the first items that are not equal are ordered themselves,
and what stands before them is equal in pairs.  From this shape it follows that orderings are
consistent: they turn round with their operands and can be put together, and the data that are
ordered as equal are those that turn out equal.
-/

namespace SandboxLisp

/-- An ordering is known by the relations that hold of it. -/
theorem Relation.eq_of_holds {ordering ordering' : Ordering}
    (alike : ∀ relation : Relation, relation.holds ordering = relation.holds ordering') :
    ordering = ordering' := by
  have less := alike .less
  have greater := alike .greater
  cases ordering <;> cases ordering' <;> simp_all [holds]

/-- Whether a datum is what its mark stands for, and is a number if it is meant to be one. -/
def Store.Proper (store : Store) (datum : Datum) : Prop :=
  store.Holds datum ∧ datum.NotNan

namespace Datum

variable {store : Store}

theorem Every.imp {holds holds' : Datum → Prop} (implied : ∀ datum, holds datum → holds' datum)
    {datum : Datum} (every : datum.Every holds) : datum.Every holds' := by
  induction every with
  | intro here _ ih => exact .intro (implied _ here) ih

theorem Every.holds {datum : Datum} (proper : datum.Every store.Proper) :
    datum.Every store.Holds :=
  proper.imp fun _ => And.left

theorem Every.notNan {datum : Datum} (proper : datum.Every store.Proper) :
    datum.Every NotNan :=
  proper.imp fun _ => And.right

/-- Two data turn out ordered when a number of levels may be gone through. -/
def Ordered (levels : Nat) (first second : Datum) (ordering : Ordering) : Prop :=
  ∀ relation : Relation,
    first.relateWithin relation levels second = some (.ok (relation.holds ordering))

/-- Two data turn out equal, or ordered and not equal. -/
def Stands (levels : Nat) (first second : Datum) : Ordering → Prop
  | .eq => Same .loose levels first second
  | ordering =>
      first.equalWithin .loose levels second = some false ∧ Ordered levels first second ordering

/-- How two lists are ordered by their items. -/
inductive ItemsStand (levels : Nat) : List Datum → List Datum → Ordering → Prop
  | nil : ItemsStand levels [] [] .eq
  | shorter {item' : Datum} {rest' : List Datum} : ItemsStand levels [] (item' :: rest') .lt
  | longer {item : Datum} {rest : List Datum} : ItemsStand levels (item :: rest) [] .gt
  | equal {item item' : Datum} {rest rest' : List Datum} {ordering : Ordering}
      (first : Stands levels item item' .eq) (others : ItemsStand levels rest rest' ordering) :
      ItemsStand levels (item :: rest) (item' :: rest') ordering
  | differ {item item' : Datum} {rest rest' : List Datum} {ordering : Ordering}
      (unequal : ordering ≠ .eq) (first : Stands levels item item' ordering) :
      ItemsStand levels (item :: rest) (item' :: rest') ordering

/-- How two data are ordered. -/
inductive Orderedness (levels : Nat) : Datum → Datum → Ordering → Prop
  | atoms {first second : Datum} {essence essence' : Essence} {ordering : Ordering}
      (one : first.essence? .loose = some essence) (other : second.essence? .loose = some essence')
      (compared : essence.compare? essence' = some ordering) :
      Orderedness levels first second ordering
  | lists {mark mark' : Option Mark} {items items' : List Datum} {ordering : Ordering} {below : Nat}
      (deeper : levels = below + 1) (parts : ItemsStand below items items' ordering) :
      Orderedness levels (.list mark items) (.list mark' items') ordering

theorem Stands.ordered {levels : Nat} {first second : Datum} {ordering : Ordering}
    (unequal : ordering ≠ .eq) (stands : Stands levels first second ordering) :
    first.equalWithin .loose levels second = some false ∧ Ordered levels first second ordering := by
  cases ordering with
  | eq => exact absurd rfl unequal
  | lt => exact stands
  | gt => exact stands

theorem Stands.of_ordered {levels : Nat} {first second : Datum} {ordering : Ordering}
    (unequal : ordering ≠ .eq) (different : first.equalWithin .loose levels second = some false)
    (ordered : Ordered levels first second ordering) : Stands levels first second ordering := by
  cases ordering with
  | eq => exact absurd rfl unequal
  | lt => exact ⟨different, ordered⟩
  | gt => exact ⟨different, ordered⟩

/-- Lists are related as their items stand. -/
theorem ItemsStand.relate {levels : Nat} {items items' : List Datum} {ordering : Ordering}
    (stand : ItemsStand levels items items' ordering) (relation : Relation) :
    relateItemsWithin relation levels items items' = some (.ok (relation.holds ordering)) := by
  induction stand with
  | nil => rfl
  | shorter => rfl
  | longer => rfl
  | equal first others ih =>
    rw [relateItemsWithin, show equalWithin .loose levels _ _ = some true from first]
    exact ih
  | differ unequal first =>
    obtain ⟨different, ordered⟩ := first.ordered unequal
    rw [relateItemsWithin, different]
    exact ordered relation

/-- Lists that are ordered as equal have items that are equal one by one. -/
theorem ItemsStand.same {levels : Nat} {items items' : List Datum}
    (stand : ItemsStand levels items items' .eq) :
    List.Forall₂ (Same .loose levels) items items' := by
  generalize ordered : Ordering.eq = ordering at stand
  induction stand with
  | nil => exact .nil
  | shorter => cases ordered
  | longer => cases ordered
  | equal first others ih => exact .cons first (ih ordered)
  | differ unequal first => exact absurd ordered.symm unequal

/-- Items that are equal one by one make lists that are ordered as equal. -/
theorem ItemsStand.of_same {levels : Nat} {items items' : List Datum}
    (same : List.Forall₂ (Same .loose levels) items items') : ItemsStand levels items items' .eq := by
  induction same with
  | nil => exact .nil
  | cons first _ ih => exact .equal first ih

theorem Orderedness.same {levels : Nat} {first second : Datum}
    (ordered : Orderedness levels first second .eq) : Same .loose levels first second := by
  cases ordered with
  | atoms one other compared =>
    obtain rfl := (Essence.compare?_eq_iff (by simp [compared])).mp compared
    exact same_iff.mpr (.atoms one other)
  | lists deeper parts => exact same_list_iff.mpr (.inr ⟨_, deeper, parts.same⟩)

theorem Orderedness.ordered {levels : Nat} {first second : Datum} {ordering : Ordering}
    (notNan : first.NotNan) (notNan' : second.NotNan)
    (orderedness : Orderedness levels first second ordering) :
    Ordered levels first second ordering := by
  intro relation
  cases orderedness with
  | atoms one other compared =>
    have related := relateAtoms_eq relation notNan notNan'
    simp only [one, other, Option.bind_eq_bind, Option.bind_some, compared] at related
    cases first with
    | list => cases one
    | _ => exact congrArg some related
  | lists deeper parts =>
    rw [relateWithin, deeper, if_neg (Nat.succ_ne_zero _)]
    exact parts.relate relation

/-- Lists that are related by every relation as an ordering says have items that stand so, if their
items are ordered as equal only if they are equal. -/
theorem ItemsStand.of_relate {levels : Nat} {items items' : List Datum} {ordering : Ordering}
    (equals : ∀ item ∈ items, ∀ item' ∈ items', Ordered levels item item' .eq →
      Same .loose levels item item')
    (related : ∀ relation : Relation,
      relateItemsWithin relation levels items items' = some (.ok (relation.holds ordering))) :
    ItemsStand levels items items' ordering := by
  induction items generalizing items' with
  | nil =>
    have answers relation := Except.ok.inj (Option.some.inj (related relation))
    cases Relation.eq_of_holds answers
    cases items' with
    | nil => exact .nil
    | cons item' rest' => exact .shorter
  | cons item rest ih =>
    cases items' with
    | nil =>
      have answers relation := Except.ok.inj (Option.some.inj (related relation))
      cases Relation.eq_of_holds answers
      exact .longer
    | cons item' rest' =>
      simp only [relateItemsWithin] at related
      rcases equality : item.equalWithin .loose levels item' with _ | _ | _
      · simp only [equality] at related
        cases related .less
      · simp only [equality] at related
        have unequal : ordering ≠ .eq := by
          rintro rfl
          cases equality.symm.trans (equals item (.head _) item' (.head _) related)
        exact .differ unequal (.of_ordered unequal equality related)
      · simp only [equality] at related
        exact .equal equality (ih (fun _ isItem _ isItem' =>
          equals _ (.tail _ isItem) _ (.tail _ isItem')) related)

/-- Data without parts that are related by every relation as an ordering says are ordered so. -/
theorem Orderedness.of_relateAtoms {levels : Nat} {first second : Datum} {ordering : Ordering}
    (notNan : first.NotNan) (notNan' : second.NotNan)
    (related : ∀ relation, relateAtoms relation first second = .ok (relation.holds ordering)) :
    Orderedness levels first second ordering := by
  simp only [relateAtoms_eq _ notNan notNan'] at related
  cases found : (do (← first.essence? .loose).compare? (← second.essence? .loose)) with
  | none =>
    simp only [found] at related
    cases related .less
  | some answer =>
    simp only [found, Except.ok.injEq] at related
    obtain ⟨essence, one, compared⟩ := Option.bind_eq_some_iff.mp found
    obtain ⟨essence', other, compared⟩ := Option.bind_eq_some_iff.mp compared
    exact .atoms one other (compared.trans (congrArg some (Relation.eq_of_holds related)))

/-- An ordering that is found has one of the two shapes. -/
theorem Ordered.orderedness {levels : Nat} {first second : Datum} {ordering : Ordering}
    (notNan : first.Every NotNan) (notNan' : second.Every NotNan)
    (ordered : Ordered levels first second ordering) :
    Orderedness levels first second ordering := by
  induction levels using Nat.strongRecOn generalizing first second ordering with
  | ind levels ih =>
    cases first with
    | list mark items =>
      cases second with
      | list mark' items' =>
        cases levels with
        | zero => cases ordered .less
        | succ below =>
          simp only [Ordered, relateWithin] at ordered
          refine .lists rfl (.of_relate ?_ ordered)
          intro item isItem item' isItem' equal
          exact (ih below (Nat.lt_succ_self below) (notNan.item isItem) (notNan'.item isItem')
            equal).same
      | _ => cases ordered .less
    | _ =>
      exact .of_relateAtoms notNan.here notNan'.here fun relation =>
        Option.some.inj (ordered relation)

/-! ### Orderings and equality -/

/-- Lists that are ordered as different have no equal items at some place. -/
theorem ItemsStand.different {levels : Nat} {items items' : List Datum} {ordering : Ordering}
    (lengths : items.length = items'.length) (unequal : ordering ≠ .eq)
    (stand : ItemsStand levels items items' ordering) :
    itemsEqualWithin .loose levels items items' = some false := by
  induction stand with
  | nil => exact absurd rfl unequal
  | shorter => simp at lengths
  | longer => simp at lengths
  | equal first others ih =>
    rw [itemsEqualWithin, show equalWithin .loose levels _ _ = some true from first]
    exact ih (Nat.succ.inj lengths) unequal
  | differ _ first => rw [itemsEqualWithin, (first.ordered unequal).1]

/-- A list is not ordered before or after itself. -/
theorem ItemsStand.eq_of_self {levels : Nat} {items : List Datum} {ordering : Ordering}
    (kept : ∀ item ∈ items, item.Every store.Holds)
    (stand : ItemsStand levels items items ordering) : ordering = .eq := by
  induction items generalizing ordering with
  | nil => cases stand with | nil => rfl
  | cons item rest ih =>
    obtain ⟨first, others⟩ := List.forall_mem_cons.mp kept
    cases stand with
    | equal _ stand => exact ih others stand
    | differ unequal stands =>
      exact absurd (stands.ordered unequal).1 (equalWithin_self_ne_false first)

/-- Data that turn out ordered turn out equal, or different as the ordering says. -/
theorem Orderedness.stands {levels : Nat} {first second : Datum} {ordering : Ordering}
    (proper : first.Every store.Proper) (proper' : second.Every store.Proper)
    (ordered : Orderedness levels first second ordering) :
    Stands levels first second ordering := by
  by_cases unequal : ordering = .eq
  · subst unequal
    exact ordered.same
  refine .of_ordered unequal ?_ (ordered.ordered proper.here.2 proper'.here.2)
  cases ordered with
  | @atoms _ _ essence essence' _ one other compared =>
    have different : essence ≠ essence' := fun same =>
      unequal (Option.some.inj
        (compared.symm.trans ((Essence.compare?_eq_iff (by simp [compared])).mpr same)))
    rw [equalWithin_of_essence one, Option.some.injEq, ← Bool.not_eq_true, atomsEqual_iff]
    rintro ⟨_, one', other'⟩
    cases one.symm.trans one'
    cases other.symm.trans other'
    exact different rfl
  | @lists mark mark' items items' _ below deeper parts =>
    rw [equalWithin]
    by_cases marks : sameMark mark mark' = true
    · obtain ⟨_, rfl⟩ := list.inj (items_eq_of_sameMark marks proper.here.1 proper'.here.1)
      exact absurd (parts.eq_of_self fun item isItem => (proper.item isItem).holds) unequal
    · rw [if_neg marks]
      split
      · rfl
      · next lengths =>
        rw [deeper, if_neg (Nat.succ_ne_zero _)]
        exact parts.different (not_not.mp lengths) unequal

/-- Data that turn out ordered stand so. -/
theorem Ordered.stands {levels : Nat} {first second : Datum} {ordering : Ordering}
    (proper : first.Every store.Proper) (proper' : second.Every store.Proper)
    (ordered : Ordered levels first second ordering) : Stands levels first second ordering :=
  (ordered.orderedness proper.notNan proper'.notNan).stands proper proper'

/-! ### Orderings turned round -/

/-- Seen from the other side, lists stand the other way round if their items do. -/
theorem ItemsStand.swap {levels : Nat} {items items' : List Datum} {ordering : Ordering}
    (turn : ∀ item ∈ items, ∀ item' ∈ items', ∀ ordering, Stands levels item item' ordering →
      Stands levels item' item ordering.swap)
    (stand : ItemsStand levels items items' ordering) :
    ItemsStand levels items' items ordering.swap := by
  induction stand with
  | nil => exact .nil
  | shorter => exact .longer
  | longer => exact .shorter
  | equal first _ ih =>
    refine .equal (turn _ (.head _) _ (.head _) .eq first) (ih ?_)
    exact fun _ isItem _ isItem' => turn _ (.tail _ isItem) _ (.tail _ isItem')
  | differ unequal first =>
    refine .differ ?_ (turn _ (.head _) _ (.head _) _ first)
    exact fun same => unequal (Ordering.swap_eq_eq.mp same)

/-- Seen from the other side, ordered data are ordered the other way round. -/
theorem Ordered.swap {levels : Nat} {first second : Datum} {ordering : Ordering}
    (proper : first.Every store.Proper) (proper' : second.Every store.Proper)
    (ordered : Ordered levels first second ordering) :
    Ordered levels second first ordering.swap := by
  induction levels using Nat.strongRecOn generalizing first second ordering with
  | ind levels ih =>
    apply Orderedness.ordered proper'.here.2 proper.here.2
    cases ordered.orderedness proper.notNan proper'.notNan with
    | @atoms _ _ essence essence' _ one other compared =>
      exact .atoms other one (by rw [Essence.compare?_swap, compared]; rfl)
    | @lists mark mark' items items' _ below deeper parts =>
      refine .lists deeper (parts.swap ?_)
      intro item isItem item' isItem' ordering stands
      by_cases equal : ordering = .eq
      · subst equal
        exact Same.symm (proper.item isItem).holds (proper'.item isItem').holds stands
      · have turned := ih below (by omega) (proper.item isItem) (proper'.item isItem')
          (stands.ordered equal).2
        exact turned.stands (proper'.item isItem') (proper.item isItem)

/-- Seen from the other side, data stand the other way round. -/
theorem Stands.swap {levels : Nat} {first second : Datum} {ordering : Ordering}
    (proper : first.Every store.Proper) (proper' : second.Every store.Proper)
    (stands : Stands levels first second ordering) : Stands levels second first ordering.swap := by
  by_cases equal : ordering = .eq
  · subst equal
    exact Same.symm proper.holds proper'.holds stands
  · exact ((stands.ordered equal).2.swap proper proper').stands proper' proper

/-! ### Orderings put together -/

/-- Data that stand one behind another stand so as a whole. -/
def Chains (store : Store) (levels : Nat) : Prop :=
  ∀ {first second third : Datum} {ordering ordering' : Ordering},
    first.Every store.Proper → second.Every store.Proper → third.Every store.Proper →
      ordering ≠ .gt → ordering' ≠ .gt → Stands levels first second ordering →
        Stands levels second third ordering' → Stands levels first third (ordering.then ordering')

/-- Lists stand one behind another as a whole if their items do. -/
theorem ItemsStand.trans {levels : Nat} (chains : Chains store levels)
    {items items' items'' : List Datum} {ordering ordering' : Ordering}
    (proper : ∀ item ∈ items, item.Every store.Proper)
    (proper' : ∀ item ∈ items', item.Every store.Proper)
    (proper'' : ∀ item ∈ items'', item.Every store.Proper)
    (rises : ordering ≠ .gt) (rises' : ordering' ≠ .gt)
    (stand : ItemsStand levels items items' ordering)
    (stand' : ItemsStand levels items' items'' ordering') :
    ItemsStand levels items items'' (ordering.then ordering') := by
  induction stand generalizing items'' with
  | nil => exact stand'
  | longer => exact absurd rfl rises
  | shorter =>
    cases stand' with
    | longer => exact absurd rfl rises'
    | equal => exact .shorter
    | differ => exact .shorter
  | @equal item item' rest rest' ordering first others ih =>
    obtain ⟨proper, others⟩ := List.forall_mem_cons.mp proper
    obtain ⟨proper', others'⟩ := List.forall_mem_cons.mp proper'
    cases stand' with
    | longer => exact absurd rfl rises'
    | equal first' stand' =>
      obtain ⟨proper'', others''⟩ := List.forall_mem_cons.mp proper''
      exact .equal (chains proper proper' proper'' (by decide) (by decide) first first')
        (ih others others' others'' rises stand')
    | differ unequal' first' =>
      obtain ⟨proper'', _⟩ := List.forall_mem_cons.mp proper''
      obtain rfl : ordering' = .lt := by cases ordering' <;> simp_all
      have settled : ordering.then .lt = .lt := by cases ordering <;> simp_all
      rw [settled]
      exact .differ (by decide) (chains proper proper' proper'' (by decide) (by decide) first first')
  | @differ item item' rest rest' ordering unequal first =>
    obtain ⟨proper, _⟩ := List.forall_mem_cons.mp proper
    obtain ⟨proper', _⟩ := List.forall_mem_cons.mp proper'
    obtain rfl : ordering = .lt := by cases ordering <;> simp_all
    have settled : Ordering.lt.then ordering' = .lt := rfl
    rw [settled]
    cases stand' with
    | longer => exact absurd rfl rises'
    | equal first' others' =>
      obtain ⟨proper'', _⟩ := List.forall_mem_cons.mp proper''
      exact .differ (by decide) (chains proper proper' proper'' (by decide) (by decide) first first')
    | differ unequal' first' =>
      obtain ⟨proper'', _⟩ := List.forall_mem_cons.mp proper''
      exact .differ (by decide) (chains proper proper' proper'' (by decide) rises' first first')

/-- An ordering is kept if its first datum is replaced by one that is equal. -/
theorem Orderedness.after_same {levels : Nat} {first second third : Datum}
    (chains : ∀ below < levels, Chains store below)
    (proper : first.Every store.Proper) (proper' : second.Every store.Proper)
    (proper'' : third.Every store.Proper) (same : Same .loose levels first second)
    (ordered : Orderedness levels second third .lt) : Orderedness levels first third .lt := by
  cases ordered with
  | atoms one other compared =>
    cases same_iff.mp same with
    | atoms seen seen' =>
      cases seen'.symm.trans one
      exact .atoms seen other compared
    | lists => cases one
    | objects => cases one
  | @lists mark' mark'' items' items'' _ below deeper parts =>
    cases same_iff.mp same with
    | atoms _ seen => cases seen
    | @lists mark _ items _ found =>
      rcases found with marks | ⟨below', deeper', equals⟩
      · obtain ⟨_, rfl⟩ := list.inj (items_eq_of_sameMark marks proper.here.1 proper'.here.1)
        exact .lists deeper parts
      · obtain rfl := Nat.succ.inj (deeper.symm.trans deeper')
        exact .lists deeper (.trans (chains below (by omega)) (fun _ => proper.item)
          (fun _ => proper'.item) (fun _ => proper''.item) (by decide) (by decide) (.of_same equals) parts)

/-- An ordering is kept if its second datum is replaced by one that is equal. -/
theorem Orderedness.before_same {levels : Nat} {first second third : Datum}
    (chains : ∀ below < levels, Chains store below)
    (proper : first.Every store.Proper) (proper' : second.Every store.Proper)
    (proper'' : third.Every store.Proper) (ordered : Orderedness levels first second .lt)
    (same : Same .loose levels second third) : Orderedness levels first third .lt := by
  cases ordered with
  | atoms one other compared =>
    cases same_iff.mp same with
    | atoms seen seen' =>
      cases seen.symm.trans other
      exact .atoms one seen' compared
    | lists => cases other
    | objects => cases other
  | @lists mark mark' items items' _ below deeper parts =>
    cases same_iff.mp same with
    | atoms seen => cases seen
    | @lists _ mark'' _ items'' found =>
      rcases found with marks | ⟨below', deeper', equals⟩
      · obtain ⟨_, rfl⟩ := list.inj (items_eq_of_sameMark marks proper'.here.1 proper''.here.1)
        exact .lists deeper parts
      · obtain rfl := Nat.succ.inj (deeper.symm.trans deeper')
        exact .lists deeper (.trans (chains below (by omega)) (fun _ => proper.item)
          (fun _ => proper'.item) (fun _ => proper''.item) (by decide) (by decide) parts
          (.of_same equals))

/-- Two orderings put together. -/
theorem Orderedness.trans {levels : Nat} {first second third : Datum}
    (chains : ∀ below < levels, Chains store below)
    (proper : first.Every store.Proper) (proper' : second.Every store.Proper)
    (proper'' : third.Every store.Proper) (ordered : Orderedness levels first second .lt)
    (ordered' : Orderedness levels second third .lt) : Orderedness levels first third .lt := by
  cases ordered with
  | atoms one other compared =>
    cases ordered' with
    | atoms one' other' compared' =>
      cases other.symm.trans one'
      exact .atoms one other' (Essence.compare?_trans compared compared')
    | lists => cases other
  | @lists mark mark' items items' _ below deeper parts =>
    cases ordered' with
    | atoms one' => cases one'
    | @lists _ mark'' _ items'' _ below' deeper' parts' =>
      obtain rfl := Nat.succ.inj (deeper.symm.trans deeper')
      exact .lists deeper (.trans (chains below (by omega)) (fun _ => proper.item)
        (fun _ => proper'.item) (fun _ => proper''.item) (by decide) (by decide) parts parts')

/-- Data that stand one behind another stand so as a whole, at every number of levels. -/
theorem chains (store : Store) (levels : Nat) : Chains store levels := by
  induction levels using Nat.strongRecOn with
  | ind levels ih =>
    intro first second third ordering ordering' proper proper' proper'' rises rises' stands stands'
    cases ordering with
    | gt => exact absurd rfl rises
    | eq =>
      cases ordering' with
      | gt => exact absurd rfl rises'
      | eq => exact Same.trans proper.holds proper'.holds proper''.holds stands stands'
      | lt =>
        have ordered := stands'.2.orderedness proper'.notNan proper''.notNan
        exact (ordered.after_same ih proper proper' proper'' stands).stands proper proper''
    | lt =>
      have ordered := stands.2.orderedness proper.notNan proper'.notNan
      cases ordering' with
      | gt => exact absurd rfl rises'
      | eq => exact (ordered.before_same ih proper proper' proper'' stands').stands proper proper''
      | lt =>
        have ordered' := stands'.2.orderedness proper'.notNan proper''.notNan
        exact (ordered.trans ih proper proper' proper'' ordered').stands proper proper''

/-! ### How a comparison ends -/

/-- The answers to all relations come from one comparison: it goes too deep, or blames two data, or
finds an ordering. -/
def Uniform (answers : Relation → Option (Except (Datum × Datum) Bool)) : Prop :=
  (∀ relation, answers relation = none) ∨
    (∃ blamed, ∀ relation, answers relation = some (.error blamed)) ∨
      ∃ ordering, ∀ relation, answers relation = some (.ok (relation.holds ordering))

/-- Data without parts are compared once for all relations. -/
theorem uniform_relateAtoms {first second : Datum} (notNan : first.NotNan)
    (notNan' : second.NotNan) :
    Uniform fun relation => some (relateAtoms relation first second) := by
  simp only [relateAtoms_eq _ notNan notNan']
  cases (do (← first.essence? .loose).compare? (← second.essence? .loose)) with
  | none => exact .inr (.inl ⟨_, fun _ => rfl⟩)
  | some ordering => exact .inr (.inr ⟨ordering, fun _ => rfl⟩)

/-- Lists are compared once for all relations if their items are. -/
theorem uniform_relateItemsWithin {levels : Nat} {items items' : List Datum}
    (each : ∀ item ∈ items, ∀ item' ∈ items',
      Uniform fun relation => item.relateWithin relation levels item') :
    Uniform fun relation => relateItemsWithin relation levels items items' := by
  induction items generalizing items' with
  | nil => exact .inr (.inr ⟨_, fun _ => rfl⟩)
  | cons item rest ih =>
    cases items' with
    | nil => exact .inr (.inr ⟨.gt, fun _ => rfl⟩)
    | cons item' rest' =>
      simp only [relateItemsWithin]
      rcases item.equalWithin .loose levels item' with _ | _ | _
      · exact .inl fun _ => rfl
      · exact each item (.head _) item' (.head _)
      · exact ih fun _ isItem _ isItem' => each _ (.tail _ isItem) _ (.tail _ isItem')

/-- Data without results that are not numbers are compared once for all relations. -/
theorem uniform_relateWithin {levels : Nat} {first second : Datum} (notNan : first.Every NotNan)
    (notNan' : second.Every NotNan) :
    Uniform fun relation => first.relateWithin relation levels second := by
  induction levels using Nat.strongRecOn generalizing first second with
  | ind levels ih =>
    cases first with
    | list mark items =>
      cases second with
      | list mark' items' =>
        cases levels with
        | zero => exact .inl fun _ => rfl
        | succ below =>
          apply uniform_relateItemsWithin
          intro item isItem item' isItem'
          exact ih below (Nat.lt_succ_self below) (notNan.item isItem) (notNan'.item isItem')
      | _ => exact .inr (.inl ⟨_, fun _ => rfl⟩)
    | _ => exact uniform_relateAtoms notNan.here notNan'.here

/-- A comparison goes too deep for every relation, or blames two data for every relation, or finds
an ordering. -/
theorem relateWithin_cases (levels : Nat) {first second : Datum} (notNan : first.Every NotNan)
    (notNan' : second.Every NotNan) :
    (∀ relation, first.relateWithin relation levels second = none) ∨
      (∃ blamed, ∀ relation, first.relateWithin relation levels second = some (.error blamed)) ∨
        ∃ ordering, Ordered levels first second ordering :=
  uniform_relateWithin notNan notNan'

/-- Data of which the first turns out to be below the second, or not to be, are ordered so. -/
theorem exists_ordered_of_less {levels : Nat} {first second : Datum} {below : Bool}
    (notNan : first.Every NotNan) (notNan' : second.Every NotNan)
    (answer : first.relateWithin .less levels second = some (.ok below)) :
    ∃ ordering, Ordered levels first second ordering ∧ Relation.less.holds ordering = below := by
  obtain tooDeep | ⟨blamed, failed⟩ | ⟨ordering, ordered⟩ := relateWithin_cases levels notNan notNan'
  · cases (tooDeep .less).symm.trans answer
  · cases (failed .less).symm.trans answer
  · exact ⟨ordering, ordered, Except.ok.inj (Option.some.inj ((ordered .less).symm.trans answer))⟩

/-- Data of which the first turns out to be below the second are ordered so. -/
theorem Ordered.of_less {levels : Nat} {first second : Datum}
    (notNan : first.Every NotNan) (notNan' : second.Every NotNan)
    (below : first.relateWithin .less levels second = some (.ok true)) :
    Ordered levels first second .lt := by
  obtain ⟨ordering, ordered, holds⟩ := exists_ordered_of_less notNan notNan' below
  cases ordering with
  | lt => exact ordered
  | eq => cases holds
  | gt => cases holds

end Datum

end SandboxLisp
