import SandboxLisp.Proofs.Evaluation.TwoRuns

/-!
# A binding that nobody mentions

What a name is bound to makes no difference to the evaluation of an expression that does not mention
it.  Functions capture the whole scope in which they are made, so the values of the two evaluations
need not be the same; but they are alike in every respect other than that name.
-/

namespace SandboxLisp

/-- The view of two runs that have everything in common but what one name is bound to. -/
def View.hiding (name : String) : View :=
  ⟨fun other => other ≠ name, True⟩

/-- Binding a name that is hidden leaves a world like itself. -/
theorem World.hiding_bound (name : String) (value : Datum) (world : World) :
    WorldsAlike (.hiding name) .same (fun other => other ≠ name) world
      { world with scope := Table.put world.scope name value } := by
  have itself : WorldsAlike (.hiding name) .same (fun _ => True) world world :=
    .refl trivial _ world
  refine ⟨?_, itself.log, itself.seed, itself.fresh⟩
  intro other shared
  have different : name ≠ other := fun same => shared.elim (· same.symm) (· same.symm)
  rw [Table.get?_put_of_ne world.scope value different]
  exact itself.scope other (.inr trivial)

namespace Evaluator

/-- Evaluating an expression that does not mention a name ends alike whatever the name is bound to:
with one failure or with values that differ in the bindings of that name only, with the same bindings
of all other names in the same sense, and with the same lines logged. -/
theorem evaluateIn_hiding (around : Surroundings) (expression : Datum) {name : String}
    (unmentioned : ¬ expression.Mentions name) (world : World) (value : Datum) :
    let ended := evaluateIn .default around expression world
    let ended' := evaluateIn .default around expression
      { world with scope := Table.put world.scope name value }
    OutcomesAlike (Alike (.hiding name) .same) ended.1 ended'.1 ∧
      (∀ other, other ≠ name → BindingsAlike (.hiding name) .same
        (Table.get? ended.2.scope other) (Table.get? ended'.2.scope other)) ∧
      ended.2.log = ended'.2.log := by
  have needed (other : String) (needs : expression.Needs other) : other ≠ name := by
    rintro rfl
    exact unmentioned needs.mentions
  obtain ⟨outcome, worlds⟩ :=
    evaluateIn_alike trivial around needed (world.hiding_bound name value)
  constructor
  · exact outcome
  · constructor
    · exact fun other different => worlds.scope other (.inl different)
    · exact worlds.log

/-- A function that is made where a hidden name is bound captures it, and is alike nevertheless. -/
theorem evaluateIn_hiding_lambda :
    let around : Surroundings := ⟨100, some levelBound, .int 0⟩
    let expression : Datum := .list none [.symbol "lambda", .list none [.symbol "x"],
      .list none [.symbol "+", .symbol "x", .symbol "k"]]
    let world := World.ofScope [("k", .int 2), ("n", .nil)] 0
    ¬ expression.Mentions "n" ∧
      OutcomesAlike (Alike (.hiding "n") .same) (evaluateIn .default around expression world).1
        (evaluateIn .default around expression
          { world with scope := Table.put world.scope "n" (.int 5) }).1 := by
  intro around expression world
  have unmentioned : ¬ expression.Mentions "n" := by decide
  exact ⟨unmentioned, (evaluateIn_hiding around expression unmentioned world (.int 5)).1⟩

end Evaluator

end SandboxLisp
