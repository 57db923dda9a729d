import Mathlib.Data.Nat.Find
import SandboxLisp.Proofs.Evaluation.Congruence

/-!
# Raising the depth limit

Depth is compared with the limit and used for nothing else, and no form goes on after the failure of
a part.  So an evaluation that ends within a limit ends alike within every larger one: outcome,
bindings and log are the same.  The limits of an evaluation therefore split into those that it
exceeds, below, and those that make no difference, above.
-/

namespace SandboxLisp

namespace Eval

variable {α β : Type}

/-- An outcome that is the failure of an evaluation that goes too deep. -/
def OutOfDepth (outcome : Except EvalError α) : Prop :=
  ∃ limit, outcome = .error (.limitExceeded limit)

/-- Two computations of which the first goes too deep in some surroundings or the second does the
same in other ones. -/
def AgreeWithin (around larger : Surroundings) {α : Type} (first second : Eval α) : Prop :=
  ∀ world, OutOfDepth (first around world).1 ∨ second larger world = first around world

section Limits

variable {around larger : Surroundings}

theorem AgreeWithin.bind {first first' : Eval α} {next next' : α → Eval β}
    (one : AgreeWithin around larger first first')
    (other : ∀ value, (∃ around world, (first around world).1 = .ok value) →
      AgreeWithin around larger (next value) (next' value)) :
    AgreeWithin around larger (first >>= next) (first' >>= next') := by
  intro world
  rw [bind_apply, bind_apply]
  cases result : first around world with
  | mk outcome after =>
      rcases one world with ⟨reached, exceeded⟩ | same
      · -- No sequence goes on after a failure, so the limit that is exceeded is what comes out.
        left
        rw [result] at exceeded
        dsimp only at exceeded
        subst exceeded
        exact ⟨reached, rfl⟩
      · rw [same, result]
        cases outcome with
        | ok value => exact other value ⟨_, world, by rw [result]⟩ after
        | error error => exact .inr rfl

theorem AgreeWithin.inScope (inner : Scope) {computation computation' : Eval α}
    (inside : AgreeWithin around larger computation computation') :
    AgreeWithin around larger (inScope inner computation) (inScope inner computation') := by
  intro world
  rcases inside { world with scope := inner } with exceeded | same
  · exact .inl exceeded
  · right
    simp only [Eval.inScope, same]

/-- Surroundings in which steady computations are the same make no other difference. -/
theorem congruence_agreeWithin (same : ∀ {α : Type} {computation : Eval α}, Steady computation →
    ∀ world, computation larger world = computation around world) :
    Congruence (fun _ => True) (AgreeWithin around larger) where
  steady steady world := .inr (same steady world)
  scope _ := .inr rfl
  define _ _ _ := .inr rfl
  bindReached := .bind

/-- More levels make no difference to an evaluation that does not go too deep. -/
theorem evaluateFor_agreeWithin (same : ∀ {α : Type} {computation : Eval α}, Steady computation →
    ∀ world, computation larger world = computation around world) (levels more : Nat)
    (expression : Datum) :
    AgreeWithin around larger (evaluateFor .default levels expression)
      (evaluateFor .default (levels + more) expression) := by
  induction levels generalizing expression with
  | zero => exact fun world => .inl ⟨around.maxDepth, rfl⟩
  | succ levels ih =>
      rw [Nat.succ_add]
      have congruence := congruence_agreeWithin same
      have inside := RelatedInside.of_parts congruence ih AgreeWithin.inScope
      exact congruence.step inside expression (fun part _ => ih part) fun _ _ => trivial

/-- An evaluation that is not too deep ends alike if it may go through more levels. -/
theorem evaluateFor_of_le {levels more : Nat} (atMost : levels ≤ more) (around : Surroundings)
    (expression : Datum) (world : World) :
    OutOfDepth (evaluateFor .default levels expression around world).1 ∨
      evaluateFor .default more expression around world =
        evaluateFor .default levels expression around world := by
  obtain ⟨extra, rfl⟩ := Nat.exists_eq_add_of_le atMost
  exact evaluateFor_agreeWithin (fun _ _ => rfl) levels extra expression world

end Limits

end Eval

namespace Evaluator

open Eval

/-- What an evaluation with the default primitives comes to at a limit, when data may be nested at
will. -/
def resultAt (clock : Number) (expression : Datum) (world : World) (limit : Nat) :
    Except EvalError Datum × World :=
  evaluateIn .default (.limited clock limit) expression world

theorem resultAt_of_le {clock : Number} {expression : Datum} {world : World} {limit larger : Nat}
    (atMost : limit ≤ larger) :
    OutOfDepth (resultAt clock expression world limit).1 ∨
      resultAt clock expression world larger = resultAt clock expression world limit := by
  obtain ⟨more, rfl⟩ := Nat.exists_eq_add_of_le atMost
  have agree := evaluateFor_agreeWithin
    (fun steady => steady.unlimited clock (limit + more) limit) (limit + 1) more expression world
  rw [Nat.add_right_comm] at agree
  exact agree

/-- A larger limit changes nothing of an evaluation that ends within a limit, and the limits that
are exceeded, if not all, are those below a first one. -/
theorem resultAt_stable (clock : Number) (expression : Datum) (world : World) :
    (∀ limit larger, limit ≤ larger → ¬ OutOfDepth (resultAt clock expression world limit).1 →
      resultAt clock expression world larger = resultAt clock expression world limit) ∧
    ((∀ limit, OutOfDepth (resultAt clock expression world limit).1) ∨
      ∃ first,
        (∀ limit, limit < first → OutOfDepth (resultAt clock expression world limit).1) ∧
        ∀ limit, first ≤ limit →
          ¬ OutOfDepth (resultAt clock expression world limit).1 ∧
            resultAt clock expression world limit = resultAt clock expression world first) := by
  have stable : ∀ limit larger, limit ≤ larger →
      ¬ OutOfDepth (resultAt clock expression world limit).1 →
      resultAt clock expression world larger = resultAt clock expression world limit :=
    fun limit larger atMost within => (resultAt_of_le atMost).resolve_left within
  refine ⟨stable, ?_⟩
  by_cases reached : ∃ limit, ¬ OutOfDepth (resultAt clock expression world limit).1
  · right
    classical
    refine ⟨Nat.find reached, ?_, ?_⟩
    · intro limit below
      by_contra within
      exact Nat.find_min reached below within
    · intro limit atLeast
      have same := stable _ limit atLeast (Nat.find_spec reached)
      refine ⟨?_, same⟩
      rw [same]
      exact Nat.find_spec reached
  · left
    simpa using reached

/-- The expression `(begin 5)` takes one level, so the limits one and a hundred give the same. -/
theorem resultAt_stable_begin :
    resultAt (.int 0) (.list none [.symbol "begin", .int 5]) (.ofScope [] 0) 100 =
      resultAt (.int 0) (.list none [.symbol "begin", .int 5]) (.ofScope [] 0) 1 := by
  refine (resultAt_stable (.int 0) (.list none [.symbol "begin", .int 5]) (.ofScope [] 0)).1
    1 100 (by decide) ?_
  rintro ⟨limit, exceeded⟩
  have value : (resultAt (.int 0) (.list none [.symbol "begin", .int 5]) (.ofScope [] 0) 1).1 =
      .ok (.int 5) := rfl
  rw [value] at exceeded
  cases exceeded

end Evaluator

end SandboxLisp
