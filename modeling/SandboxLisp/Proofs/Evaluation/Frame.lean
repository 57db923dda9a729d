import SandboxLisp.Proofs.Evaluation.Congruence

/-!
# What evaluation binds

Only the exposed definitions of an expression change the scope in which it is evaluated.  Every
other scope that is entered on the way is a copy that is given up at the end, whether the end is a
value or a failure, so the calls of a function leave no trace in the scope of the caller.
-/

namespace SandboxLisp.Eval

variable {α β : Type} {mayBind : String → Prop}

/-- A scope that comes from another by binding some names at most. -/
structure Confined (mayBind : String → Prop) (before after : Scope) : Prop where
  same (name : String) (notBound : ¬ mayBind name) :
    Table.get? after name = Table.get? before name
  bound (name : String) (wasBound : Table.has before name = true) : Table.has after name = true

theorem Confined.refl (scope : Scope) : Confined mayBind scope scope :=
  ⟨fun _ _ => rfl, fun _ wasBound => wasBound⟩

theorem Confined.trans {before between after : Scope} (one : Confined mayBind before between)
    (other : Confined mayBind between after) : Confined mayBind before after where
  same name notBound := (other.same name notBound).trans (one.same name notBound)
  bound name wasBound := other.bound name (one.bound name wasBound)

theorem Confined.mono {mayBind' : String → Prop} {before after : Scope}
    (confined : Confined mayBind before after) (weaker : ∀ name, mayBind name → mayBind' name) :
    Confined mayBind' before after where
  same name notBound := confined.same name fun binds => notBound (weaker name binds)
  bound := confined.bound

theorem Confined.put (scope : Scope) {name : String} (binds : mayBind name) (value : Datum) :
    Confined mayBind scope (Table.put scope name value) where
  same other notBound := by
    apply Table.get?_put_of_ne
    rintro rfl
    exact notBound binds
  bound other wasBound := by
    by_cases same : name = other
    · simp [Table.has, same]
    · rw [Table.has, Table.get?_put_of_ne scope value same]
      exact wasBound

/-- A computation that binds some names at most, however it ends. -/
def Frames (mayBind : String → Prop) (computation : Eval α) : Prop :=
  ∀ around world, Confined mayBind world.scope (computation around world).2.scope

theorem Frames.bind {first : Eval α} {next : α → Eval β} (one : Frames mayBind first)
    (other : ∀ value, (∃ around world, (first around world).1 = .ok value) →
      Frames mayBind (next value)) :
    Frames mayBind (first >>= next) := by
  intro around world
  have confined := one around world
  rw [bind_apply]
  cases result : first around world with
  | mk outcome after =>
      rw [result] at confined
      cases outcome with
      | ok value =>
          have reached : (first around world).1 = .ok value := by rw [result]
          exact confined.trans (other value ⟨around, world, reached⟩ around after)
      | error error => exact confined

/-- What runs in a scope of its own binds nothing outside. -/
theorem frames_inScope (mayBind : String → Prop) (inner : Scope) (computation : Eval α) :
    Frames mayBind (inScope inner computation) :=
  fun _ world => .refl world.scope

theorem congruence_frames (mayBind : String → Prop) :
    Congruence mayBind fun computation _ => Frames mayBind computation where
  steady steady around world := by
    rw [steady.scope_eq around world]
    exact .refl world.scope
  scope _ world := .refl world.scope
  define binds value _ world := .put world.scope binds value
  bindReached := .bind

theorem not_exposes_of_isFunctionPlace {expression : Datum}
    (isPlace : isFunctionPlace expression = true) (name : String) : ¬ expression.Exposes name := by
  unfold isFunctionPlace at isPlace
  split at isPlace
  · rw [Datum.exposes_iff]
    simp [Datum.targets, Datum.ownParts]
  · next head operands =>
    have found : Form.ofName? head = some .lambda := by simpa [Form.isLambdaName] using isPlace
    rw [Datum.exposes_iff]
    simp [Datum.targets, Datum.ownParts, Datum.form?, found, Form.targets, Form.ownParts]
  · cases isPlace

/-- An evaluation binds no more than the exposed names of its expression. -/
theorem frames_evaluateFor (levels : Nat) (expression : Datum) :
    Frames expression.Exposes (evaluateFor .default levels expression) := by
  induction levels generalizing expression with
  | zero => exact fun _ world => .refl world.scope
  | succ levels ih =>
      have inside : RelatedInside (fun computation _ => Frames expression.Exposes computation)
          (evaluateFor .default levels) (evaluateFor .default levels) := by
        constructor
        · exact fun inner part => frames_inScope _ inner _
        · exact fun inner bindings body => frames_inScope _ inner _
        · intro place isPlace around world
          refine (ih place around world).mono fun name exposed => ?_
          exact (not_exposes_of_isFunctionPlace isPlace name exposed).elim
      apply (congruence_frames expression.Exposes).step inside
      · intro part own around world
        exact (ih part around world).mono fun name exposed => .part own exposed
      · exact fun name binds => .target binds

/-- Whatever an evaluation comes to, only the exposed names of the expression may be bound anew, no
name loses its binding, and a call of a function leaves the scope of its caller as it is. -/
theorem evaluateFor_scope (levels : Nat) (expression : Datum) (around : Surroundings)
    (world : World) :
    (∀ name, ¬ expression.Exposes name →
      Table.get? (evaluateFor .default levels expression around world).2.scope name =
        Table.get? world.scope name) ∧
    (∀ name, Table.has world.scope name = true →
      Table.has (evaluateFor .default levels expression around world).2.scope name = true) ∧
    ∀ (function : Closure) (arguments : List Datum),
      (applyClosure (evaluateFor .default levels) function arguments around world).2.scope =
        world.scope := by
  obtain ⟨same, bound⟩ := frames_evaluateFor levels expression around world
  exact ⟨same, bound, fun function arguments => rfl⟩

/-- The expression `(begin (let ((x 1)) (define y x)) (define z 2))`. -/
def exposingOne : Datum :=
  .list none [.symbol "begin",
    .list none [.symbol "let", .list none [.list none [.symbol "x", .int 1]],
      .list none [.symbol "define", .symbol "y", .symbol "x"]],
    .list none [.symbol "define", .symbol "z", .int 2]]

/-- The definition of `y` stands in a local scope, so `y` stays what it was. -/
theorem evaluateFor_scope_local :
    Table.get? (evaluateFor .default 9 exposingOne (.limited (.int 0) 8)
      (.ofScope [("y", .int 7)] 0)).2.scope "y" = Table.get? [("y", .int 7)] "y" := by
  refine (evaluateFor_scope 9 exposingOne (.limited (.int 0) 8)
    (.ofScope [("y", .int 7)] 0)).1 "y" ?_
  have begin : (Datum.symbol "begin").form? = some .begin := rfl
  have letIn : (Datum.symbol "let").form? = some .letIn := rfl
  have define : (Datum.symbol "define").form? = some .define := rfl
  rw [exposingOne, Datum.exposes_iff]
  simp only [Datum.targets, Datum.ownParts, begin, Option.map_some, Option.getD_some, Form.targets,
    Form.ownParts, List.mem_cons, List.not_mem_nil, or_false, false_or]
  rintro ⟨part, rfl | rfl, exposed⟩
  · rw [Datum.exposes_iff] at exposed
    simp [Datum.targets, Datum.ownParts, letIn, Form.targets, Form.ownParts] at exposed
  · rw [Datum.exposes_iff] at exposed
    simp [Datum.targets, Datum.ownParts, define, Form.targets, Form.ownParts,
      Datum.bindingText] at exposed
    rw [Datum.exposes_iff] at exposed
    simp [Datum.targets, Datum.ownParts] at exposed

end SandboxLisp.Eval
