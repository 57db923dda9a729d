import SandboxLisp.Eval.Sequences
import SandboxLisp.Proofs.Evaluation.Simulation
import SandboxLisp.Proofs.Sorting.Naturality

/-!
# Going through like lists

Folding, choosing, searching and sorting call a function for the items of a list one after another.
They run alike for like lists if the functions do.  A sort consults nothing but its comparison, so it
is enough that the comparison of like items comes to one outcome.
-/

namespace SandboxLisp.Eval

variable {view : View} {pairing : Pairing} {names : String → Prop} {items items' : List Datum}

/-- A fold runs alike if its steps do. -/
theorem fold_alike {step step' : Datum → Datum → Eval Datum}
    (alike : ItemsAlike view pairing items items')
    (steps : ∀ later, pairing ≤ later → ∀ value value' item item', Alike view later value value' →
      Alike view later item item' →
        RunAlike view later names (Alike view) (step value item) (step' value' item'))
    {value value' : Datum} (start : Alike view pairing value value') :
    RunAlike view pairing names (Alike view) (fold step value items)
      (fold step' value' items') := by
  induction items generalizing pairing items' value value' with
  | nil =>
    cases alike
    exact .pure fun _ grows => start.mono grows
  | cons item rest ih =>
    cases alike with
    | cons first others =>
      apply (steps pairing (le_refl pairing) _ _ _ _ start first).bind
      intro later grows next next' reached
      exact ih (others.mono grows) (fun last further => steps last (grows.trans further)) reached

/-- Two functions that run alike on like data, whatever marks are paired later. -/
def FunctionsAlike (view : View) (names : String → Prop) (pairing : Pairing)
    (function function' : Datum → Eval Datum) : Prop :=
  ∀ later, pairing ≤ later → ∀ item item', Alike view later item item' →
    RunAlike view later names (Alike view) (function item) (function' item')

theorem FunctionsAlike.mono {later : Pairing} {function function' : Datum → Eval Datum}
    (grows : pairing ≤ later) (alike : FunctionsAlike view names pairing function function') :
    FunctionsAlike view names later function function' :=
  fun last further => alike last (grows.trans further)

/-- An item that was found in two lists: its place is the same, and the items are alike. -/
def FoundAlike (view : View) (pairing : Pairing) :
    Option (Nat × Datum) → Option (Nat × Datum) → Prop
  | none, none => True
  | some (place, item), some (place', item') => place = place' ∧ Alike view pairing item item'
  | _, _ => False

/-- Two items of lists that are sorted: keys and items are alike, and the places the same. -/
structure KeyedAlike (view : View) (pairing : Pairing) (one other : Keyed) : Prop where
  key : Alike view pairing one.key other.key
  place : one.place = other.place
  item : Alike view pairing one.item other.item

theorem KeyedAlike.mono {later : Pairing} {one other : Keyed} (grows : pairing ≤ later)
    (alike : KeyedAlike view pairing one other) : KeyedAlike view later one other :=
  ⟨alike.key.mono grows, alike.place, alike.item.mono grows⟩

section Functions

variable {function function' : Datum → Eval Datum}

theorem keep_alike (functions : FunctionsAlike view names pairing function function')
    (alike : ItemsAlike view pairing items items') :
    RunAlike view pairing names (ItemsAlike view) (keep function items)
      (keep function' items') := by
  induction items generalizing pairing items' with
  | nil =>
    cases alike
    exact .pure fun _ _ => .nil
  | cons item rest ih =>
    cases alike with
    | cons first others =>
      apply (functions pairing (le_refl pairing) _ _ first).bind
      intro later grows value value' answer
      apply (ih (functions.mono grows) (others.mono grows)).map
      intro last further kept kept' parts final beyond
      rw [answer.isTruthy_eq]
      split
      · exact .cons (first.mono (grows.trans (further.trans beyond))) (parts.mono beyond)
      · exact parts.mono beyond

theorem search_alike (functions : FunctionsAlike view names pairing function function')
    (alike : ItemsAlike view pairing items items') (place : Nat) :
    RunAlike view pairing names (FoundAlike view) (search function place items)
      (search function' place items') := by
  induction items generalizing pairing items' place with
  | nil =>
    cases alike
    exact .pure fun _ _ => trivial
  | cons item rest ih =>
    cases alike with
    | cons first others =>
      apply (functions pairing (le_refl pairing) _ _ first).bind
      intro later grows value value' answer
      rw [answer.isTruthy_eq]
      split
      · exact .pure fun _ further => ⟨rfl, first.mono (grows.trans further)⟩
      · exact ih (functions.mono grows) (others.mono grows) (place + 1)

theorem keyed_alike (functions : FunctionsAlike view names pairing function function')
    (alike : ItemsAlike view pairing items items') (place : Nat) :
    RunAlike view pairing names (fun last => List.Forall₂ (KeyedAlike view last))
      (keyed function place items) (keyed function' place items') := by
  induction items generalizing pairing items' place with
  | nil =>
    cases alike
    exact .pure fun _ _ => .nil
  | cons item rest ih =>
    cases alike with
    | cons first others =>
      apply (functions pairing (le_refl pairing) _ _ first).bind
      intro later grows key key' keyAlike
      apply (ih (functions.mono grows) (others.mono grows) (place + 1)).map
      intro last further keys keys' parts final beyond
      have whole := further.trans beyond
      constructor
      · exact ⟨keyAlike.mono whole, rfl, first.mono (grows.trans whole)⟩
      · exact parts.imp fun _ _ alike => alike.mono beyond

end Functions

/-! ### Sorting -/

/-- The comparison of like items comes to one outcome. -/
theorem goesBefore_alike (around : Surroundings) {one one' another another' : Keyed}
    (first : KeyedAlike view pairing one one') (second : KeyedAlike view pairing another another') :
    OutcomesAlike Eq (goesBefore around one another) (goesBefore around one' another') := by
  unfold goesBefore
  rw [first.place, second.place]
  apply (equal_alike around .loose first.key second.key).bind
  rintro answer _ rfl
  cases answer with
  | true => exact .ok rfl
  | false =>
    apply (relate_alike around .less first.key second.key).bind
    intro answer answer' same
    cases answer with
    | ok holds =>
      cases answer' with
      | ok holds' =>
        cases same
        exact .ok rfl
      | error _ => cases same
    | error blamed =>
      cases answer' with
      | ok _ => cases same
      | error blamed' =>
        have shown := Prod.mk.inj (Except.error.inj same)
        dsimp only
        rw [shown.1, shown.2]
        exact .error trivial

/-- Like items are sorted alike: what is compared comes to one outcome, and so does the sort. -/
theorem sort_alike (around : Surroundings) {keys keys' : List Keyed}
    (alike : List.Forall₂ (KeyedAlike view pairing) keys keys') :
    OutcomesAlike (List.Forall₂ (KeyedAlike view pairing))
      (Sorting.sort (goesBefore around) keys) (Sorting.sort (goesBefore around) keys') := by
  -- The items of both lists are sorted as pairs, and the failures as failures that can arise.
  have paired : ∃ pairs : List { pair : Keyed × Keyed // KeyedAlike view pairing pair.1 pair.2 },
      keys = pairs.map (fun pair => pair.val.1) ∧ keys' = pairs.map (fun pair => pair.val.2) := by
    induction alike with
    | nil => exact ⟨[], rfl, rfl⟩
    | @cons first first' _ _ one _ ih =>
      obtain ⟨pairs, rfl, rfl⟩ := ih
      exact ⟨⟨(first, first'), one⟩ :: pairs, rfl, rfl⟩
  have compared (one another : { pair : Keyed × Keyed // KeyedAlike view pairing pair.1 pair.2 }) :
      ∃ outcome : Except { cause : EvalError // cause.Arises } Bool,
        goesBefore around one.val.1 another.val.1 = Sorting.replaced Subtype.val id outcome ∧
          goesBefore around one.val.2 another.val.2 = Sorting.replaced Subtype.val id outcome := by
    have same := goesBefore_alike around one.property another.property
    generalize goesBefore around one.val.1 another.val.1 = outcome,
      goesBefore around one.val.2 another.val.2 = outcome' at same ⊢
    cases same with
    | @ok answer _ equal =>
      cases equal
      exact ⟨.ok answer, rfl, rfl⟩
    | @error cause arises => exact ⟨.error ⟨cause, arises⟩, rfl, rfl⟩
  obtain ⟨pairs, rfl, rfl⟩ := paired
  choose less one other using compared
  rw [Sorting.sort_replaced one pairs, Sorting.sort_replaced other pairs]
  cases Sorting.sort less pairs with
  | ok sorted =>
    apply OutcomesAlike.ok
    rw [List.forall₂_map_left_iff, List.forall₂_map_right_iff]
    exact List.forall₂_same.mpr fun pair _ => pair.property
  | error cause => exact .error cause.property

end SandboxLisp.Eval
