import SandboxLisp.Eval.Binding
import SandboxLisp.Form

/-!
# Exposed definitions

A definition binds its name in the scope in which it is evaluated.  The definitions of an expression
that are evaluated in its own scope are exposed: those not behind a quotation, in a function, in a
local scope, or in what is evaluated for the items of a list.  Which names they bind is read off the
expression, since no binding can hide a special form.
-/

namespace SandboxLisp

namespace Datum

/-- The name that a place for a name stands for, without regard to texts that are too long. -/
def bindingText : Datum → String
  | .symbol name => name
  | other => String.ofList (other.render .display)

/-- The special form that a head names. -/
def form? : Datum → Option Form
  | .symbol name => Form.ofName? name
  | _ => none

/-- The tests and bodies of a clause. -/
def clauseParts : Datum → List Datum
  | .list _ parts => parts
  | _ => []

end Datum

namespace Form

/-- The operands of a form that are evaluated in its own scope. -/
def ownParts : Form → List Datum → List Datum
  | .conditional, operands => operands
  | .begin, operands => operands
  | .apply, operands => operands
  | .cond, clauses => clauses.flatMap Datum.clauseParts
  | .define, .list _ (_ :: _) :: _ => []
  | .define, [_, expression] => [expression]
  | .filter, [_, list] => [list]
  | .map, [_, list] => [list]
  | .find, [list, _] => [list]
  | .findIndex, [list, _] => [list]
  | .sortBy, [list, _] => [list]
  | .count, [list] => [list]
  | .count, [list, _] => [list]
  | .reduce, [list, initial, _, _] => [list, initial]
  | .reduce, [list, initial, function] => [list, initial, function]
  | _, _ => []

/-- The names that a form itself binds in its own scope. -/
def targets : Form → List Datum → List String
  | .define, .list _ (target :: _) :: _ => [target.bindingText]
  | .define, [target, _] => [target.bindingText]
  | _, _ => []

/-- A definition of a value evaluates that value and binds one name. -/
theorem ownParts_define {target expression : Datum}
    (notFunction : ∀ mark head params, target ≠ .list mark (head :: params)) :
    Form.define.ownParts [target, expression] = [expression] ∧
      Form.define.targets [target, expression] = [target.bindingText] := by
  cases target with
  | list mark items =>
      cases items with
      | nil => exact ⟨rfl, rfl⟩
      | cons head params => exact (notFunction mark head params rfl).elim
  | _ => exact ⟨rfl, rfl⟩

end Form

namespace Datum

/-- The parts of an expression that are evaluated in its own scope. -/
def ownParts : Datum → List Datum
  | .list _ (head :: operands) => (head.form?.map (·.ownParts operands)).getD (head :: operands)
  | _ => []

/-- The names that an expression itself binds in its own scope. -/
def targets : Datum → List String
  | .list _ (head :: operands) => (head.form?.map (·.targets operands)).getD []
  | _ => []

/-- A name is exposed by an expression that binds it in its own scope, itself or in a part. -/
inductive Exposes : Datum → String → Prop where
  | target {expression : Datum} {name : String} (binds : name ∈ expression.targets) :
      Exposes expression name
  | part {expression part : Datum} {name : String} (own : part ∈ expression.ownParts)
      (exposed : Exposes part name) : Exposes expression name

theorem exposes_iff {expression : Datum} {name : String} :
    expression.Exposes name ↔
      name ∈ expression.targets ∨ ∃ part ∈ expression.ownParts, part.Exposes name := by
  constructor
  · intro exposed
    cases exposed with
    | target binds => exact .inl binds
    | part own exposed => exact .inr ⟨_, own, exposed⟩
  · rintro (binds | ⟨part, own, exposed⟩)
    · exact .target binds
    · exact .part own exposed

end Datum

theorem Surroundings.render_of_text {around : Surroundings} {form : TextForm} {datum : Datum}
    {shown : String} (written : around.text form datum = .ok shown) :
    String.ofList (datum.render form) = shown := by
  unfold text at written
  cases outcome : datum.textWithin form around.levels with
  | ok text =>
      rw [outcome] at written
      rw [← Except.ok.inj written]
      exact Datum.render_of_textWithin outcome
  | error fault =>
      rw [outcome] at written
      cases written

theorem Eval.eq_bindingText {target : Datum} {name : String} {around : Surroundings}
    {world : World} (named : (bindingName target around world).1 = .ok name) :
    name = target.bindingText := by
  unfold bindingName at named
  split at named
  · exact (Except.ok.inj named).symm
  · next notSymbol =>
    have written : (Eval.ofExcept (around.text .display target) around world).1 = .ok name := named
    cases outcome : around.text .display target with
    | ok shown =>
        rw [outcome] at written
        rw [← Except.ok.inj written, ← Surroundings.render_of_text outcome, Datum.bindingText]
        exact notSymbol
    | error error =>
        rw [outcome] at written
        cases written

end SandboxLisp
