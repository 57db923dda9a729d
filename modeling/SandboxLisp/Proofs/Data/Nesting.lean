import SandboxLisp.Datum.Rendering

/-!
# What a bound on levels changes

A walk through nested data may be bounded by a number of levels.  Lists exceed the bound if they are
nested deeper (`Datum.exceeds_list` follows that into the items).

Writing is such a walk, and a bound changes nothing about it but that it may fail: what is written
within a bound is what is written without one (`Datum.textWithin_cases`).
-/

namespace SandboxLisp

namespace Datum

/-! ### Nesting of lists -/

theorem lt_itemNesting_iff {depth : Nat} {items : List Datum} :
    depth < itemNesting items ↔ ∃ item ∈ items, depth < item.nesting := by
  induction items with
  | nil => simp [itemNesting]
  | cons item rest ih =>
    simp only [itemNesting, List.mem_cons, exists_eq_or_imp, ← ih]
    omega

/-- Without a bound nothing exceeds the levels. -/
@[simp] theorem exceeds_none (datum : Datum) : datum.exceeds none = false := rfl

@[simp] theorem exceeds_some (datum : Datum) (bound : Nat) :
    datum.exceeds (some bound) = decide (bound < datum.nesting) := rfl

/-- A list exceeds the levels if there is none for it, or if one of its items exceeds the others. -/
theorem exceeds_list (mark : Option Mark) (items : List Datum) (levels : Option Nat) :
    (Datum.list mark items).exceeds levels =
      (levels == some 0 || items.any fun item => item.exceeds (levels.map (· - 1))) := by
  rw [Bool.eq_iff_iff]
  cases levels with
  | none => simp
  | some bound =>
    cases bound with
    | zero => simp [nesting]
    | succ bound => simp [nesting, lt_itemNesting_iff]

/-- The empty list inside of a number of lists. -/
def hollow : Nat → Datum
  | 0 => .list none []
  | depth + 1 => .list none [hollow depth]

theorem nesting_hollow (depth : Nat) : (hollow depth).nesting = depth + 1 := by
  induction depth with
  | zero => rfl
  | succ depth ih => simp [hollow, nesting, itemNesting, ih]

theorem exceeds_hollow {bound depth : Nat} (deep : bound ≤ depth) :
    (hollow depth).exceeds (some bound) = true := by
  rw [exceeds_some, nesting_hollow]
  exact decide_eq_true (Nat.lt_succ_of_le deep)

/-! ### Writing -/

/-- A datum is written in source form exactly if it has no fault. -/
theorem textWithin_source_eq (levels : Option Nat) (datum : Datum) :
    datum.textWithin .source levels =
      (datum.fault? .source levels).elim (.ok (String.ofList (datum.render .source))) .error := by
  have plain : plainText? .source datum = none := by cases datum <;> rfl
  rw [textWithin, plain]

/-- A datum that cannot be written has the fault that is reported. -/
theorem fault?_of_textWithin {form : TextForm} {levels : Option Nat} {datum : Datum}
    {fault : TextFault} (fails : datum.textWithin form levels = .error fault) :
    datum.fault? form levels = some fault := by
  unfold textWithin at fails
  split at fails
  · cases fails
  · cases found : datum.fault? form levels with
    | none =>
      rw [found] at fails
      cases fails
    | some first =>
      rw [found] at fails
      exact congrArg some (Except.error.inj fails)

/-- The fault of a list is the first one among its items. -/
theorem itemFault?_eq_findSome? (form : TextForm) (levels : Option Nat) (items : List Datum) :
    itemFault? form levels items = items.findSome? (fault? form levels) := by
  induction items with
  | nil => rfl
  | cons item rest ih =>
    rw [itemFault?, List.findSome?_cons, ih]
    cases fault? form levels item <;> rfl

mutual

/-- Without a bound on levels no datum is nested too deep to be written. -/
theorem fault?_ne_tooDeep (form : TextForm) :
    (datum : Datum) → datum.fault? form none ≠ some .tooDeep
  | .int value => by
      rw [fault?]
      split <;> simp
  | .list _ items => by
      rw [fault?, if_neg (by simp)]
      exact itemFault?_ne_tooDeep form items
  | .object _ fields => by
      rw [fault?, if_neg (by simp)]
      exact fieldFault?_ne_tooDeep (fieldForm form) fields
  | .closure _ _ body _ _ => by
      rw [fault?]
      split
      · simp
      · rw [if_neg (by simp)]
        exact fault?_ne_tooDeep .source body
  | .nil | .bool _ | .double _ | .nan _ | .string _ | .symbol _ => by simp [fault?]

theorem itemFault?_ne_tooDeep (form : TextForm) :
    (items : List Datum) → itemFault? form none items ≠ some .tooDeep
  | [] => by simp [itemFault?]
  | item :: rest => by
      rw [itemFault?]
      split
      · next fault found =>
        rw [← found]
        exact fault?_ne_tooDeep form item
      · exact itemFault?_ne_tooDeep form rest

theorem fieldFault?_ne_tooDeep (form : TextForm) :
    (fields : List (String × Datum)) → fieldFault? form none fields ≠ some .tooDeep
  | [] => by simp [fieldFault?]
  | (_, value) :: rest => by
      rw [fieldFault?]
      split
      · next fault found =>
        rw [← found]
        exact fault?_ne_tooDeep form value
      · exact fieldFault?_ne_tooDeep form rest

end

/-- Without a bound on levels only an integer of too many digits keeps a datum from being written. -/
theorem textWithin_none_ne_tooDeep (form : TextForm) (datum : Datum) :
    datum.textWithin form none ≠ .error .tooDeep := by
  intro fails
  exact fault?_ne_tooDeep form datum (fault?_of_textWithin fails)

mutual

/-- A bound on levels is the first fault that is met, or it leaves the first fault as it is. -/
theorem fault?_cases (form : TextForm) (levels : Option Nat) :
    (datum : Datum) → datum.fault? form levels = some .tooDeep ∨
      datum.fault? form levels = datum.fault? form none
  | .list _ items => by
      by_cases spent : levels = some 0
      · exact .inl (by rw [fault?, if_pos spent])
      · rw [fault?, fault?, if_neg spent, if_neg (by simp), Option.map_none]
        exact itemFault?_cases form _ items
  | .object _ fields => by
      by_cases spent : levels = some 0
      · exact .inl (by rw [fault?, if_pos spent])
      · rw [fault?, fault?, if_neg spent, if_neg (by simp), Option.map_none]
        exact fieldFault?_cases (fieldForm form) _ fields
  | .closure _ _ body _ _ => by
      by_cases named : form = .debug
      · exact .inr (by rw [fault?, fault?, if_pos named, if_pos named])
      by_cases spent : levels = some 0
      · exact .inl (by rw [fault?, if_neg named, if_pos spent])
      · rw [fault?, fault?, if_neg named, if_neg named, if_neg spent, if_neg (by simp),
          Option.map_none]
        exact fault?_cases .source _ body
  | .int _ | .nil | .bool _ | .double _ | .nan _ | .string _ | .symbol _ => .inr rfl

theorem itemFault?_cases (form : TextForm) (levels : Option Nat) :
    (items : List Datum) → itemFault? form levels items = some .tooDeep ∨
      itemFault? form levels items = itemFault? form none items
  | [] => .inr rfl
  | item :: rest => by
      rw [itemFault?, itemFault?]
      rcases fault?_cases form levels item with deep | same
      · exact .inl (by rw [deep])
      · rw [same]
        cases fault? form none item with
        | some fault => exact .inr rfl
        | none => exact itemFault?_cases form levels rest

theorem fieldFault?_cases (form : TextForm) (levels : Option Nat) :
    (fields : List (String × Datum)) → fieldFault? form levels fields = some .tooDeep ∨
      fieldFault? form levels fields = fieldFault? form none fields
  | [] => .inr rfl
  | (_, value) :: rest => by
      rw [fieldFault?, fieldFault?]
      rcases fault?_cases form levels value with deep | same
      · exact .inl (by rw [deep])
      · rw [same]
        cases fault? form none value with
        | some fault => exact .inr rfl
        | none => exact fieldFault?_cases form levels rest

end

/-- What is written within a bound on levels is what is written without one, unless the bound makes
writing fail. -/
theorem textWithin_cases (form : TextForm) (levels : Option Nat) (datum : Datum) :
    datum.textWithin form levels = .error .tooDeep ∨
      datum.textWithin form levels = datum.textWithin form none := by
  unfold textWithin
  cases plainText? form datum with
  | some shown => exact .inr rfl
  | none =>
    rcases datum.fault?_cases form levels with deep | same
    · exact .inl (by rw [deep]; rfl)
    · exact .inr (by rw [same])

/-- What is written within a bound is the text. -/
theorem text_of_textWithin {form : TextForm} {levels : Option Nat} {datum : Datum} {shown : String}
    (written : datum.textWithin form levels = .ok shown) : datum.text form = .ok shown := by
  rcases datum.textWithin_cases form levels with deep | same
  · cases written.symm.trans deep
  · rw [text, ← same, written]
    rfl

/-- An integer that keeps a datum from being written within a bound does so without one. -/
theorem text_of_integerTooLong {form : TextForm} {levels : Option Nat} {datum : Datum}
    (fails : datum.textWithin form levels = .error .integerTooLong) :
    datum.text form = .error .integerTooLong := by
  rcases datum.textWithin_cases form levels with deep | same
  · cases fails.symm.trans deep
  · rw [text, ← same, fails]
    rfl

end Datum

end SandboxLisp
