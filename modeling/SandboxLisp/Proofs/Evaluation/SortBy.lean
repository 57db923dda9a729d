import SandboxLisp.Proofs.Data.Levels
import SandboxLisp.Proofs.Data.Ordering
import SandboxLisp.Proofs.Evaluation.CallPaths
import SandboxLisp.Proofs.Sorting.Sorted

/-!
# Sorting by keys

Items are sorted by their keys, and by their places where keys are equal.  One item goes before
another if its key stands before the other's, or as equal at an earlier place; among keys that are
pairwise equal or ordered this is an order that `goesBefore` decides, so that the sort gives all items
in that order.  Other keys can make it fail, but nothing else can, and what it gives has the items of
the list in any case.
-/

namespace SandboxLisp.Eval

open scoped List

/-! ### Keys and places -/

/-- The keys are found with their items, at places that are counted up. -/
theorem keyed_items {function : Datum → Eval Datum} {around : Surroundings} {items : List Datum}
    {place : Nat} {keys : List Keyed} {world after : World}
    (found : keyed function place items around world = (.ok keys, after)) :
    keys.map Keyed.item = items ∧ keys.map Keyed.place = List.range' place items.length := by
  induction items generalizing place keys world with
  | nil =>
    cases found
    exact ⟨rfl, rfl⟩
  | cons item rest ih =>
    rw [keyed] at found
    obtain ⟨key, between, _, found⟩ := exists_of_bind_ok found
    obtain ⟨others, last, later, found⟩ := exists_of_bind_ok found
    cases found
    obtain ⟨sameItems, samePlaces⟩ := ih later
    exact ⟨congrArg (item :: ·) sameItems, congrArg (place :: ·) samePlaces⟩

/-- Two keys are equal, or it turns out whether the first is below the second. -/
def Comparable (around : Surroundings) (first second : Datum) : Prop :=
  around.equal .loose first second = .ok true ∨
    ∃ below, around.relate .less first second = .ok (.ok below)

/-- One item goes before another: its key stands before the other's, or as equal at an earlier
place. -/
structure Precedes (store : Store) (levels : Nat) (first second : Keyed) : Prop where
  proper : first.key.Every store.Proper
  proper' : second.key.Every store.Proper
  goes : Datum.Stands levels first.key second.key .lt ∨
    Datum.Stands levels first.key second.key .eq ∧ first.place < second.place

/-- Items go before one another in an order. -/
theorem precedes_ordering (store : Store) (levels : Nat) :
    Sorting.Ordering (Precedes store levels) where
  irrefl entry precedes := by
    rcases precedes.goes with ⟨different, _⟩ | ⟨_, earlier⟩
    · exact Datum.equalWithin_self_ne_false precedes.proper.holds different
    · exact Nat.lt_irrefl _ earlier
  trans {first second third} precedes precedes' := by
    have chains {ordering ordering' : Ordering} (rises : ordering ≠ .gt) (rises' : ordering' ≠ .gt) :=
      Datum.chains store levels precedes.proper precedes'.proper precedes'.proper' rises rises'
    refine ⟨precedes.proper, precedes'.proper', ?_⟩
    rcases precedes.goes with below | ⟨equal, earlier⟩
    · rcases precedes'.goes with below' | ⟨equal', _⟩
      · exact .inl (chains (by decide) (by decide) below below')
      · exact .inl (chains (by decide) (by decide) below equal')
    · rcases precedes'.goes with below' | ⟨equal', earlier'⟩
      · exact .inl (chains (by decide) (by decide) equal below')
      · exact .inr ⟨chains (by decide) (by decide) equal equal', Nat.lt_trans earlier earlier'⟩

section Compared

variable {around : Surroundings} {store : Store} {levels : Nat} {first second : Keyed}

/-- Comparable keys stand in some way. -/
theorem Comparable.exists_stands (reaches : around.Reaches levels first.key second.key)
    (proper : first.key.Every store.Proper) (proper' : second.key.Every store.Proper)
    (comparable : Comparable around first.key second.key) :
    ∃ ordering, Datum.Stands levels first.key second.key ordering := by
  rcases comparable with equal | ⟨below, answer⟩
  · rw [reaches.equal, Surroundings.reached_eq_ok] at equal
    exact ⟨.eq, equal⟩
  · rw [reaches.relate, Surroundings.reached_eq_ok] at answer
    obtain ⟨ordering, ordered, _⟩ :=
      Datum.exists_ordered_of_less proper.notNan proper'.notNan answer
    exact ⟨ordering, ordered.stands proper proper'⟩

/-- Which of two items goes first, by the way in which their keys stand. -/
theorem goesBefore_of_stands (reaches : around.Reaches levels first.key second.key)
    {ordering : Ordering} (stands : Datum.Stands levels first.key second.key ordering) :
    goesBefore around first second = .ok (match ordering with
      | .lt => true
      | .eq => decide (first.place < second.place)
      | .gt => false) := by
  rw [goesBefore, reaches.equal, reaches.relate]
  cases ordering with
  | eq =>
    rw [show first.key.equalWithin .loose levels second.key = some true from stands]
    rfl
  | lt =>
    rw [stands.1, stands.2 .less]
    rfl
  | gt =>
    rw [stands.1, stands.2 .less]
    rfl

theorem decides_of_stands (apart : first.place ≠ second.place)
    (reaches : around.Reaches levels first.key second.key)
    (proper : first.key.Every store.Proper) (proper' : second.key.Every store.Proper)
    {ordering : Ordering} (stands : Datum.Stands levels first.key second.key ordering) :
    Sorting.Decides (goesBefore around) (Precedes store levels) first second := by
  have answer := goesBefore_of_stands reaches stands
  have turned := stands.swap proper proper'
  cases ordering with
  | lt => exact .inl ⟨answer, proper, proper', .inl stands⟩
  | gt => exact .inr ⟨answer, proper', proper, .inl turned⟩
  | eq =>
    rcases Nat.lt_or_gt_of_ne apart with earlier | later
    · rw [decide_eq_true earlier] at answer
      exact .inl ⟨answer, proper, proper', .inr ⟨stands, earlier⟩⟩
    · rw [decide_eq_false (Nat.lt_asymm later)] at answer
      exact .inr ⟨answer, proper', proper, .inr ⟨turned, later⟩⟩

/-- Items with comparable keys are compared as the order says. -/
theorem compared_of_comparable (apart : first.place ≠ second.place)
    (reaches : around.Reaches levels first.key second.key)
    (reaches' : around.Reaches levels second.key first.key)
    (proper : first.key.Every store.Proper) (proper' : second.key.Every store.Proper)
    (comparable : Comparable around first.key second.key) :
    Sorting.Compared (goesBefore around) (Precedes store levels) first second := by
  obtain ⟨ordering, stands⟩ := comparable.exists_stands reaches proper proper'
  exact ⟨decides_of_stands apart reaches proper proper' stands,
    decides_of_stands apart.symm reaches' proper' proper (stands.swap proper proper')⟩

/-- The key of an item that goes behind another is not below the other's. -/
theorem Precedes.not_below (precedes : Precedes store levels first second)
    (reaches : around.Reaches levels second.key first.key) :
    around.relate .less second.key first.key ≠ .ok (.ok true) := by
  rw [reaches.relate, ne_eq, Surroundings.reached_eq_ok]
  intro below
  have ordered := Datum.Ordered.of_less precedes.proper'.notNan precedes.proper.notNan below
  have turned : Precedes store levels second first :=
    ⟨precedes.proper', precedes.proper, .inl (ordered.stands precedes.proper' precedes.proper)⟩
  have ordering := precedes_ordering store levels
  exact ordering.irrefl first (ordering.trans precedes turned)

/-- Items with equal keys go before one another by their places. -/
theorem Precedes.earlier (precedes : Precedes store levels first second)
    (reaches : around.Reaches levels first.key second.key)
    (equal : around.equal .loose first.key second.key = .ok true) : first.place < second.place := by
  rw [reaches.equal, Surroundings.reached_eq_ok] at equal
  rcases precedes.goes with ⟨different, _⟩ | ⟨_, earlier⟩
  · cases different.symm.trans equal
  · exact earlier

end Compared

/-! ### The sorted items -/

section Sorted

variable {around : Surroundings} {keys : List Keyed}

/-- No item's key is below the key of an item before it, and items with equal keys are in the order of
their places. -/
def SortedByKey (around : Surroundings) (entries : List Keyed) : Prop :=
  entries.Pairwise fun earlier later =>
    around.relate .less later.key earlier.key ≠ .ok (.ok true) ∧
      (around.equal .loose earlier.key later.key = .ok true → earlier.place < later.place)

/-- Items at ascending places with keys that are comparable in pairs are sorted. -/
theorem sort_comparable {store : Store} (proper : ∀ entry ∈ keys, entry.key.Every store.Proper)
    (places : keys.Pairwise fun first second => first.place < second.place)
    (comparable : keys.Pairwise fun first second => Comparable around first.key second.key) :
    ∃ sorted, Sorting.sort (goesBefore around) keys = .ok sorted ∧ sorted ~ keys ∧
      SortedByKey around sorted := by
  have kept : ∀ key ∈ keys.map Keyed.key, key.Every store.Holds := by
    intro key isKey
    obtain ⟨entry, isEntry, rfl⟩ := List.mem_map.mp isKey
    exact (proper entry isEntry).holds
  obtain ⟨levels, reached⟩ := around.exists_reaches kept
  have reaches {first second : Keyed} (isFirst : first ∈ keys) (isSecond : second ∈ keys) :
      around.Reaches levels first.key second.key :=
    reached _ (List.mem_map_of_mem isFirst) _ (List.mem_map_of_mem isSecond)
  have compared : keys.Pairwise (Sorting.Compared (goesBefore around) (Precedes store levels)) := by
    refine (places.and comparable).imp_of_mem fun {first second} isFirst isSecond pair => ?_
    exact compared_of_comparable (Nat.ne_of_lt pair.1) (reaches isFirst isSecond)
      (reaches isSecond isFirst) (proper first isFirst) (proper second isSecond) pair.2
  obtain ⟨sorted, ended, ascends, perm⟩ :=
    Sorting.sort_ascends (precedes_ordering store levels) compared
  refine ⟨sorted, ended, perm, ascends.imp_of_mem fun isFirst isSecond precedes => ?_⟩
  have isFirst := perm.mem_iff.mp isFirst
  have isSecond := perm.mem_iff.mp isSecond
  exact ⟨precedes.not_below (reaches isSecond isFirst), precedes.earlier (reaches isFirst isSecond)⟩

/-- A comparison of two items fails if their keys have no order, or if both are nested deeper than the
surroundings let it go. -/
theorem goesBefore_fails {first second : Keyed} {cause : EvalError}
    (fails : goesBefore around first second = .error cause) :
    (∃ left right, cause = .type (.incomparableKeys left right)) ∨
      (around.IsExceededBy first.key second.key ∧ cause = around.tooDeep) := by
  rw [goesBefore] at fails
  rcases equality : around.equal .loose first.key second.key with cause' | equal
  · rw [equality] at fails
    obtain rfl := Except.error.inj fails
    exact .inr (Surroundings.equal_fails equality)
  · rw [equality] at fails
    cases equal with
    | true => cases fails
    | false =>
      rcases order : around.relate .less first.key second.key with cause' | (blamed | below)
      · rw [order] at fails
        obtain rfl := Except.error.inj fails
        exact .inr (Surroundings.relate_fails order)
      · rw [order] at fails
        obtain rfl := Except.error.inj fails
        exact .inl ⟨_, _, rfl⟩
      · rw [order] at fails
        cases fails

end Sorted

/-! ### The form -/

/-- Once the operands are evaluated and the keys are found, the form sorts them and makes a list of the
items. -/
theorem sortBy_run {recur : Datum → Eval Datum} {around : Surroundings} {list expression : Datum}
    {world listed made after : World} {mark : Option Mark} {items : List Datum}
    {function : Datum → Eval Datum} {keys : List Keyed}
    (evaluated : recur list around world = (.ok (.list mark items), listed))
    (prepared : itemFunction recur expression around listed = (.ok function, made))
    (found : keyed function 0 items around made = (.ok keys, after)) :
    sortBy recur [list, expression] around world =
      match Sorting.sort (goesBefore around) keys with
      | .ok sorted => newList (sorted.map Keyed.item) around after
      | .error cause => (.error cause, after) := by
  rw [sortBy, bind_of_ok evaluated]
  rw [show expectList "sort-by" (.list mark items) = pure items from rfl, pure_bind]
  rw [bind_of_ok prepared, bind_of_ok found]
  rw [bind_apply]
  simp only [surroundings, bind_apply]
  cases Sorting.sort (goesBefore around) keys <;> rfl

/-- Sorting items by keys is stable or fails cleanly.  Whatever the keys are, the form gives the items
of the list in some order, or fails because two keys have no order or, where the host bounds the
levels that a comparison may go through, because two are nested deeper.  Keys without results that
are not numbers of which every two are equal or can be compared do not make it fail: then no key is
below the key of an item before it, and items with equal keys keep their order.  The keys belong to
one store, as all that evaluation has made do. -/
theorem sortBy_stable (recur : Datum → Eval Datum) {around : Surroundings} {list expression : Datum}
    {world listed made after : World} {mark : Option Mark} {items : List Datum}
    {function : Datum → Eval Datum} {keys : List Keyed}
    (evaluated : recur list around world = (.ok (.list mark items), listed))
    (prepared : itemFunction recur expression around listed = (.ok function, made))
    (found : keyed function 0 items around made = (.ok keys, after)) :
    let ended := sortBy recur [list, expression] around world
    (keys.map Keyed.item = items ∧ keys.map Keyed.place = List.range items.length) ∧
      ((∃ mark' sorted last, ended = (.ok (.list mark' sorted), last) ∧ sorted ~ items) ∨
        (∃ left right, ended = (.error (.type (.incomparableKeys left right)), after)) ∨
        (∃ one ∈ keys, ∃ other ∈ keys, around.IsExceededBy one.key other.key ∧
          ended = (.error around.tooDeep, after))) ∧
      ∀ store : Store, (∀ entry ∈ keys, entry.key.Every store.Proper) →
        (keys.Pairwise fun first second => Comparable around first.key second.key) →
          ∃ mark' sorted last, ended = (.ok (.list mark' (sorted.map Keyed.item)), last) ∧
            sorted ~ keys ∧ SortedByKey around sorted := by
  intro ended
  obtain ⟨sameItems, samePlaces⟩ := keyed_items found
  have runs : ended = _ := sortBy_run evaluated prepared found
  refine ⟨⟨sameItems, samePlaces.trans List.range_eq_range'.symm⟩, ?_, ?_⟩
  · rw [runs]
    cases sorting : Sorting.sort (goesBefore around) keys with
    | ok sorted =>
      have perm := Sorting.sort_perm (goesBefore around) keys
      rw [sorting] at perm
      exact .inl ⟨_, _, _, rfl, sameItems ▸ List.Perm.map Keyed.item perm⟩
    | error cause =>
      right
      obtain ⟨one, isOne, other, isOther, fails⟩ := Sorting.sort_fails sorting
      rcases goesBefore_fails fails with ⟨left, right, rfl⟩ | ⟨exceeded, rfl⟩
      · exact .inl ⟨left, right, rfl⟩
      · exact .inr ⟨one, isOne, other, isOther, exceeded, rfl⟩
  · intro store proper comparable
    have places : keys.Pairwise fun first second => first.place < second.place := by
      rw [← List.pairwise_map, samePlaces]
      exact List.pairwise_lt_range'
    obtain ⟨sorted, sorting, perm, ascends⟩ := sort_comparable proper places comparable
    rw [runs, sorting]
    exact ⟨_, sorted, _, rfl, perm, ascends⟩

/-- Of items that are their own keys, two that are nested deeper than the host allows are not
sorted, and the failure is no type error. -/
theorem sortBy_stable_too_deep :
    let around := (Evaluator.mk 100 .default).surroundings (.int 0)
    let items : List Datum := [.nested 1 3000 (.int 1), .nested 3001 3000 (.int 2)]
    let world : World := .ofScope [("xs", .list (some 0) items)] 6001
    let recur := evaluateFor .default 5
    let ended := sortBy recur [.symbol "xs", .symbol "@"] around world
    (∃ function keys, recur (.symbol "xs") around world = (.ok (.list (some 0) items), world) ∧
      itemFunction recur (.symbol "@") around world = (.ok function, world) ∧
      keyed function 0 items around world = (.ok keys, world)) ∧
    ¬((∃ value, ended.1 = .ok value) ∨ ∃ cause, ended.1 = .error (.type cause)) := by
  intro around items world recur ended
  have keys (first second : Datum) (plain : first.closure? = none) (plain' : second.closure? = none) :
      let world : World := .ofScope [("xs", .list (some 0) [first, second])] 6001
      keyed (inlineItem recur (.symbol "@")) 0 [first, second] around world =
        (.ok [⟨first, 0, first⟩, ⟨second, 1, second⟩], world) := by
    intro world
    have item (datum : Datum) (plain : datum.closure? = none) :
        inlineItem recur (.symbol "@") datum around world = (.ok datum, world) := by
      have value : inScope (itemScope world.scope datum) (recur (.symbol "@")) around world =
          (.ok datum, world) := rfl
      rw [inlineItem, bind_of_ok (show Eval.scope around world = (.ok world.scope, world) from rfl),
        bind_of_ok value, plain]
      rfl
    rw [keyed, bind_of_ok (item first plain), keyed, bind_assoc, bind_of_ok (item second plain')]
    rfl
  have found := keys (.nested 1 3000 (.int 1)) (.nested 3001 3000 (.int 2)) rfl rfl
  refine ⟨⟨_, _, rfl, rfl, found⟩, ?_⟩
  have less : goesBefore around ⟨.nested 3001 3000 (.int 2), 1, .nested 3001 3000 (.int 2)⟩
      ⟨.nested 1 3000 (.int 1), 0, .nested 1 3000 (.int 1)⟩ = .error around.tooDeep := by
    rw [goesBefore, Surroundings.equal_nested rfl (by decide) (by decide)]
    rfl
  have failed : ended = (.error around.tooDeep, world) :=
    (sortBy_run rfl rfl found).trans (by rw [Sorting.sort_fails_first less])
  rw [failed]
  rintro (⟨value, ended⟩ | ⟨cause, ended⟩)
  · cases ended
  · cases ended

/-- The pairs `(2 "a")`, `(1 "b")` and `(true "c")` are sorted by their first items, of which the
last two are equal. -/
theorem sortBy_stable_pairs :
    let around := (Evaluator.mk 100 .default).surroundings (.int 0)
    let items : List Datum := [.list none [.int 2, .string "a"], .list none [.int 1, .string "b"],
      .list none [.bool true, .string "c"]]
    let world : World := .ofScope [("xs", .list (some 0) items)] 1
    let recur := evaluateFor .default 5
    let expression : Datum := .list none [.symbol "first", .symbol "@"]
    ∃ keys mark sorted last, keys.map Keyed.key = [.int 2, .int 1, .bool true] ∧
      sortBy recur [.symbol "xs", expression] around world =
        (.ok (.list mark (sorted.map Keyed.item)), last) ∧
      sorted ~ keys ∧ SortedByKey around sorted ∧
      sorted.map Keyed.item = [.list none [.int 1, .string "b"],
        .list none [.bool true, .string "c"], .list none [.int 2, .string "a"]] := by
  intro around items world recur expression
  have evaluated : recur (.symbol "xs") around world = (.ok (.list (some 0) items), world) := rfl
  have prepared : itemFunction recur expression around world =
      (.ok (inlineItem recur expression), world) := rfl
  have found : keyed (inlineItem recur expression) 0 items around world =
      (.ok [⟨.int 2, 0, .list none [.int 2, .string "a"]⟩,
        ⟨.int 1, 1, .list none [.int 1, .string "b"]⟩,
        ⟨.bool true, 2, .list none [.bool true, .string "c"]⟩], world) := rfl
  obtain ⟨-, -, sorts⟩ := sortBy_stable recur evaluated prepared found
  have number (value : Int) : (Datum.int value).Every (Store.Proper ⟨fun _ => [], fun _ => []⟩) :=
    .intro ⟨trivial, nofun⟩ nofun
  obtain ⟨mark, sorted, last, ended, perm, ascends⟩ := sorts ⟨fun _ => [], fun _ => []⟩
    (by
      simp only [List.forall_mem_cons]
      exact ⟨number 2, number 1, .intro ⟨trivial, nofun⟩ nofun, nofun⟩)
    (by
      simp only [List.pairwise_cons, List.forall_mem_cons]
      exact ⟨⟨.inr ⟨false, rfl⟩, .inr ⟨false, rfl⟩, nofun⟩, ⟨.inl rfl, nofun⟩, nofun, .nil⟩)
  have value : (sortBy recur [.symbol "xs", expression] around world).1 =
      .ok (.list (some 1) [.list none [.int 1, .string "b"], .list none [.bool true, .string "c"],
        .list none [.int 2, .string "a"]]) := by
    with_unfolding_all rfl
  have result := Except.ok.inj ((congrArg Prod.fst ended).symm.trans value)
  exact ⟨_, mark, sorted, last, rfl, ended, perm, ascends, (Datum.list.inj result).2⟩

end SandboxLisp.Eval
