import SandboxLisp.Proofs.Evaluation.DepthLimit
import SandboxLisp.Proofs.Evaluation.Snapshot

/-!
# Clauses as nested conditionals

A `cond` whose clauses have one expression each does what conditionals do of which each is the
alternative of the one before it.  The two differ in depth only: `cond` evaluates every clause one
level below itself, while each conditional stands one level deeper than the one before it.
-/

namespace SandboxLisp

namespace Datum

/-- The symbol that heads the last clause, which always succeeds. -/
def elseSymbol : Datum := .symbol "else"

/-- A test with the expression that it guards, written as a clause of `cond`. -/
def ofClause (clause : Datum × Datum) : Datum :=
  .list none [clause.1, clause.2]

/-- The clauses of a `cond` as they are written, the last one only if `otherwise` is given. -/
def clauseForms (clauses : List (Datum × Datum)) (otherwise : Option Datum) : List Datum :=
  clauses.map ofClause ++ otherwise.toList.map fun expression => ofClause (elseSymbol, expression)

/-- `(cond (test expr)... [(else expr)])`. -/
def condForm (clauses : List (Datum × Datum)) (otherwise : Option Datum) : Datum :=
  .list none (.symbol "cond" :: clauseForms clauses otherwise)

/-- `(if test expr [alternative])`. -/
def ifForm (clause : Datum × Datum) (alternative : Option Datum) : Datum :=
  .list none (.symbol "if" :: clause.1 :: clause.2 :: alternative.toList)

/-- The alternative that stands for the clauses that are left. -/
def elseIf : List (Datum × Datum) → Option Datum → Option Datum
  | [], otherwise => otherwise
  | clause :: rest, otherwise => some (ifForm clause (elseIf rest otherwise))

/-- `(if test expr (if test expr ... (if test expr [otherwise])))`, one conditional a clause. -/
def nestedIf (first : Datum × Datum) (rest : List (Datum × Datum)) (otherwise : Option Datum) :
    Datum :=
  ifForm first (elseIf rest otherwise)

end Datum

namespace Eval

open Datum

/-- What an optional expression comes to; nil stands for a missing one. -/
def evaluateOr (recur : Datum → Eval Datum) : Option Datum → Eval Datum
  | some expression => recur expression
  | none => pure .nil

/-- One of two computations, as the value of a test counts as true or not. -/
def branch (consequent alternative : Eval Datum) (value : Datum) : Eval Datum :=
  if value.isTruthy then consequent else alternative

/-! ### The rules of the two forms -/

section Rules

variable {recur : Datum → Eval Datum}

theorem isElse_eq_false {test : Datum} (plain : test ≠ elseSymbol) : isElse test = false := by
  cases test with
  | symbol name => exact beq_eq_false_iff_ne.mpr fun same => plain (congrArg Datum.symbol same)
  | _ => rfl

theorem conditional_eq (test body : Datum) (alternative : Option Datum) :
    conditional recur (test :: body :: alternative.toList) =
      recur test >>= branch (recur body) (evaluateOr recur alternative) := by
  cases alternative <;> rfl

theorem cond_nil (otherwise : Option Datum) :
    cond recur (clauseForms [] otherwise) = evaluateOr recur otherwise := by
  cases otherwise with
  | none => rfl
  | some expression => exact bind_pure (recur expression)

theorem cond_cons {test : Datum} (plain : test ≠ elseSymbol) (body : Datum)
    (rest : List (Datum × Datum)) (otherwise : Option Datum) :
    cond recur (clauseForms ((test, body) :: rest) otherwise) =
      recur test >>= branch (recur body) (cond recur (clauseForms rest otherwise)) := by
  have alone (value : Datum) : sequence recur value [body] = recur body := bind_pure (recur body)
  simp only [clauseForms, List.map_cons, List.cons_append, ofClause, cond, isElse_eq_false plain,
    alone]
  rfl

end Rules

/-! ### One form for the other -/

section Equivalence

variable {around : Surroundings} {depth : Nat}

/-- A `cond` at a depth that is not too deep. -/
theorem evaluateAt_condForm (reached : depth < Evaluator.levels around)
    (clauses : List (Datum × Datum)) (otherwise : Option Datum) :
    evaluateAt .default around depth (condForm clauses otherwise) =
      cond (evaluateAt .default around (depth + 1)) (clauseForms clauses otherwise) :=
  evaluateAt_eq_step reached _

/-- A conditional at a depth that is not too deep. -/
theorem evaluateAt_ifForm (reached : depth < Evaluator.levels around) (test body : Datum)
    (alternative : Option Datum) :
    evaluateAt .default around depth (ifForm (test, body) alternative) =
      evaluateAt .default around (depth + 1) test >>=
        branch (evaluateAt .default around (depth + 1) body)
          (evaluateOr (evaluateAt .default around (depth + 1)) alternative) :=
  (evaluateAt_eq_step reached _).trans (conditional_eq test body alternative)

theorem agreeWithin_refl {α : Type} (computation : Eval α) :
    AgreeWithin around around computation computation :=
  fun _ => .inr rfl

theorem AgreeWithin.branch {consequent consequent' alternative alternative' : Eval Datum}
    (one : AgreeWithin around around consequent consequent')
    (other : AgreeWithin around around alternative alternative') (value : Datum) :
    AgreeWithin around around (branch consequent alternative value)
      (branch consequent' alternative' value) := by
  unfold Eval.branch
  split
  · exact one
  · exact other

theorem evaluateAt_agreeWithin {deeper : Nat} (below : depth ≤ deeper) (expression : Datum) :
    AgreeWithin around around (evaluateAt .default around deeper expression)
      (evaluateAt .default around depth expression) :=
  evaluateFor_of_le (Nat.sub_le_sub_left below _) around expression

theorem evaluateOr_agreeWithin {deeper : Nat} (below : depth ≤ deeper)
    (expression : Option Datum) :
    AgreeWithin around around (evaluateOr (evaluateAt .default around deeper) expression)
      (evaluateOr (evaluateAt .default around depth) expression) := by
  cases expression with
  | none => exact agreeWithin_refl _
  | some expression => exact evaluateAt_agreeWithin below expression

/-- A conditional does what `cond` does with its clause, unless it goes too deep, if its alternative
does what `cond` does with the other clauses. -/
theorem ifForm_agreeWithin_cond {deeper : Nat} (below : depth ≤ deeper) {first : Datum × Datum}
    (plain : first.1 ≠ elseSymbol) {rest : List (Datum × Datum)} {otherwise : Option Datum}
    (others : AgreeWithin around around
      (evaluateOr (evaluateAt .default around (deeper + 1)) (elseIf rest otherwise))
      (cond (evaluateAt .default around (depth + 1)) (clauseForms rest otherwise))) :
    AgreeWithin around around
      (evaluateAt .default around deeper (ifForm first (elseIf rest otherwise)))
      (cond (evaluateAt .default around (depth + 1)) (clauseForms (first :: rest) otherwise)) := by
  obtain ⟨test, body⟩ := first
  rcases Nat.lt_or_ge deeper (Evaluator.levels around) with reached | beyond
  · rw [evaluateAt_ifForm reached, cond_cons plain]
    have next : depth + 1 ≤ deeper + 1 := Nat.succ_le_succ below
    exact (evaluateAt_agreeWithin next test).bind fun value _ =>
      (evaluateAt_agreeWithin next body).branch others value
  · intro world
    left
    rw [evaluateAt_eq_tooDeep beyond]
    exact ⟨around.maxDepth, rfl⟩

/-- The alternative that stands for some clauses does what `cond` does with them, unless it goes too
deep. -/
theorem elseIf_agreeWithin_cond {deeper : Nat} (below : depth + 1 ≤ deeper)
    (clauses : List (Datum × Datum)) (otherwise : Option Datum)
    (plain : ∀ clause ∈ clauses, clause.1 ≠ elseSymbol) :
    AgreeWithin around around
      (evaluateOr (evaluateAt .default around deeper) (elseIf clauses otherwise))
      (cond (evaluateAt .default around (depth + 1)) (clauseForms clauses otherwise)) := by
  induction clauses generalizing deeper with
  | nil =>
    rw [cond_nil]
    exact evaluateOr_agreeWithin below otherwise
  | cons first rest ih =>
    obtain ⟨here, others⟩ := List.forall_mem_cons.mp plain
    -- The rest is one level deeper than the conditional, so the induction is general in the depth.
    exact ifForm_agreeWithin_cond (Nat.le_of_succ_le below) here
      (ih (Nat.le_succ_of_le below) others)

end Equivalence

/-! ### What is not reached -/

/-- Clauses that are the same as far as an evaluation gets that starts in a world with the test of
index `index`: the bodies of clauses whose tests fail are arbitrary, and so is everything after a
test that succeeds or goes wrong. -/
inductive AgreeOnReached (evaluate : Nat → Datum → Eval Datum) (around : Surroundings) :
    Nat → World → List (Datum × Datum) → Option Datum → List (Datum × Datum) → Option Datum → Prop
  | exhausted {index world} (otherwise : Option Datum) :
      AgreeOnReached evaluate around index world [] otherwise [] otherwise
  | failed {index world after test value rest otherwise rest' otherwise'}
      (ran : evaluate index test around world = (.ok value, after))
      (falsy : value.isTruthy = false) (body body' : Datum)
      (others : AgreeOnReached evaluate around (index + 1) after rest otherwise rest' otherwise') :
      AgreeOnReached evaluate around index world ((test, body) :: rest) otherwise
        ((test, body') :: rest') otherwise'
  | succeeded {index world after test value}
      (ran : evaluate index test around world = (.ok value, after))
      (truthy : value.isTruthy = true) (body : Datum) (rest rest' : List (Datum × Datum))
      (otherwise otherwise' : Option Datum) :
      AgreeOnReached evaluate around index world ((test, body) :: rest) otherwise
        ((test, body) :: rest') otherwise'
  | raised {index world after test error}
      (ran : evaluate index test around world = (.error error, after))
      (body body' : Datum) (rest rest' : List (Datum × Datum))
      (otherwise otherwise' : Option Datum) :
      AgreeOnReached evaluate around index world ((test, body) :: rest) otherwise
        ((test, body') :: rest') otherwise'

section Reached

variable {around : Surroundings} {depth : Nat}

/-- What `cond` does not reach is no matter to it. -/
theorem AgreeOnReached.cond_eq {recur : Datum → Eval Datum} {index : Nat} {world : World}
    {clauses clauses' : List (Datum × Datum)} {otherwise otherwise' : Option Datum}
    (agree : AgreeOnReached (fun _ => recur) around index world clauses otherwise clauses'
      otherwise')
    (plain : ∀ clause ∈ clauses, clause.1 ≠ elseSymbol) :
    cond recur (clauseForms clauses otherwise) around world =
      cond recur (clauseForms clauses' otherwise') around world := by
  induction agree with
  | exhausted => rfl
  | failed ran falsy body body' others ih =>
    obtain ⟨here, plain⟩ := List.forall_mem_cons.mp plain
    simp only [cond_cons here, bind_of_ok ran, branch, falsy]
    exact ih plain
  | succeeded ran truthy body rest rest' otherwise otherwise' =>
    obtain ⟨here, -⟩ := List.forall_mem_cons.mp plain
    simp only [cond_cons here, bind_of_ok ran, branch, truthy, if_true]
  | raised ran body body' rest rest' otherwise otherwise' =>
    obtain ⟨here, -⟩ := List.forall_mem_cons.mp plain
    simp only [cond_cons here, bind_of_error ran]

/-- Conditionals with the same test come to the same if they go on alike, and beyond the limit in
any case. -/
theorem evaluateAt_ifForm_congr {world : World} {test body body' : Datum}
    {alternative alternative' : Option Datum}
    (same : (evaluateAt .default around (depth + 1) test >>=
        branch (evaluateAt .default around (depth + 1) body)
          (evaluateOr (evaluateAt .default around (depth + 1)) alternative)) around world =
      (evaluateAt .default around (depth + 1) test >>=
        branch (evaluateAt .default around (depth + 1) body')
          (evaluateOr (evaluateAt .default around (depth + 1)) alternative')) around world) :
    evaluateAt .default around depth (ifForm (test, body) alternative) around world =
      evaluateAt .default around depth (ifForm (test, body') alternative') around world := by
  rcases Nat.lt_or_ge depth (Evaluator.levels around) with reached | beyond
  · rw [evaluateAt_ifForm reached, evaluateAt_ifForm reached, same]
  · rw [evaluateAt_eq_tooDeep beyond, evaluateAt_eq_tooDeep beyond]

/-- What nested conditionals do not reach is no matter to them. -/
theorem AgreeOnReached.elseIf_eq {index : Nat} {world : World}
    {clauses clauses' : List (Datum × Datum)} {otherwise otherwise' : Option Datum}
    (agree : AgreeOnReached (fun index => evaluateAt .default around (depth + index + 1)) around
      index world clauses otherwise clauses' otherwise') :
    evaluateOr (evaluateAt .default around (depth + index)) (elseIf clauses otherwise)
        around world =
      evaluateOr (evaluateAt .default around (depth + index)) (elseIf clauses' otherwise')
        around world := by
  induction agree with
  | exhausted => rfl
  | failed ran falsy body body' others ih =>
    apply evaluateAt_ifForm_congr
    simp only [bind_of_ok ran, branch, falsy]
    exact ih
  | succeeded ran truthy body rest rest' otherwise otherwise' =>
    apply evaluateAt_ifForm_congr
    simp only [bind_of_ok ran, branch, truthy, if_true]
  | raised ran body body' rest rest' otherwise otherwise' =>
    apply evaluateAt_ifForm_congr
    simp only [bind_of_error ran]

end Reached

/-- For clauses with one expression each, of which none is an `else` clause, and an optional `else`
clause after them, `cond` at any depth ends in the same outcome and the same world as the nested
conditionals at that depth, unless these go too deep.  On either side the bodies of clauses whose
tests fail and whatever follows a test that succeeds are no matter: only what is reached counts. -/
theorem cond_eq_nestedIf (around : Surroundings) (depth : Nat) (world : World)
    (first : Datum × Datum) (rest : List (Datum × Datum)) (otherwise : Option Datum)
    (plain : ∀ clause ∈ first :: rest, clause.1 ≠ elseSymbol) :
    (¬ OutOfDepth
        (evaluateAt .default around depth (nestedIf first rest otherwise) around world).1 →
      evaluateAt .default around depth (condForm (first :: rest) otherwise) around world =
        evaluateAt .default around depth (nestedIf first rest otherwise) around world) ∧
    (∀ clauses' otherwise',
      AgreeOnReached (fun _ => evaluateAt .default around (depth + 1)) around 0 world
          (first :: rest) otherwise clauses' otherwise' →
        evaluateAt .default around depth (condForm (first :: rest) otherwise) around world =
          evaluateAt .default around depth (condForm clauses' otherwise') around world) ∧
    ∀ first' rest' otherwise',
      AgreeOnReached (fun index => evaluateAt .default around (depth + index + 1)) around 0 world
          (first :: rest) otherwise (first' :: rest') otherwise' →
        evaluateAt .default around depth (nestedIf first rest otherwise) around world =
          evaluateAt .default around depth (nestedIf first' rest' otherwise') around world := by
  obtain ⟨here, others⟩ := List.forall_mem_cons.mp plain
  refine ⟨fun within => ?_, fun clauses' otherwise' agree => ?_,
    fun first' rest' otherwise' agree => agree.elseIf_eq⟩
  · rcases Nat.lt_or_ge depth (Evaluator.levels around) with reached | beyond
    · have tail : AgreeWithin around around _ _ :=
        elseIf_agreeWithin_cond (Nat.le_refl (depth + 1)) rest otherwise others
      rw [evaluateAt_condForm reached]
      exact (ifForm_agreeWithin_cond (Nat.le_refl depth) here tail world).resolve_left within
    · rw [evaluateAt_eq_tooDeep beyond, evaluateAt_eq_tooDeep beyond]
  · rcases Nat.lt_or_ge depth (Evaluator.levels around) with reached | beyond
    · rw [evaluateAt_condForm reached, evaluateAt_condForm reached]
      exact agree.cond_eq plain
    · rw [evaluateAt_eq_tooDeep beyond, evaluateAt_eq_tooDeep beyond]

/-- A first clause whose test binds a name and fails. -/
def failingClause (body : Datum) : Datum × Datum :=
  (valueDefinition "x" .nil, body)

/-- A second clause whose test binds a name and succeeds. -/
def succeedingClause : Datum × Datum :=
  (valueDefinition "y" (.int 2), .symbol "y")

/-- A clause with a test that cannot be evaluated. -/
def faultyClause : Datum × Datum :=
  (.list none [.int 0], .nil)

/-- Behind these two clauses nothing is reached, and the body of the first one neither. -/
theorem agreeOnReached_failing_succeeding {evaluate : Nat → Datum → Eval Datum}
    {around : Surroundings} {world second last : World}
    (first : evaluate 0 (failingClause .nil).1 around world = (.ok .nil, second))
    (next : evaluate 1 succeedingClause.1 around second = (.ok (.int 2), last))
    (body body' : Datum) (rest rest' : List (Datum × Datum)) :
    AgreeOnReached evaluate around 0 world (failingClause body :: succeedingClause :: rest) none
      (failingClause body' :: succeedingClause :: rest') none :=
  .failed first rfl body body' (.succeeded next rfl (.symbol "y") rest rest' none none)

/-- Both forms bind the two names and end in the value of the second, whatever the body of the first
clause is, and without a look at a third clause. -/
theorem cond_eq_nestedIf_defining :
    let around := Surroundings.limited (.int 0) 10
    let run (expression : Datum) := evaluateAt .default around 0 expression around (.ofScope [] 0)
    let ended : Except EvalError Datum × World :=
      (.ok (.int 2), .ofScope [("x", .nil), ("y", .int 2)] 0)
    run (condForm [failingClause (.int 1), succeedingClause] none) = ended ∧
      run (condForm [failingClause (.int 5), succeedingClause, faultyClause] none) = ended ∧
      run (nestedIf (failingClause (.int 5)) [succeedingClause, faultyClause] none) = ended := by
  intro around run ended
  have plain : ∀ clause ∈ [failingClause (.int 1), succeedingClause], clause.1 ≠ elseSymbol := by
    intro clause listed
    rcases List.mem_pair.mp listed with rfl | rfl <;> exact Datum.noConfusion
  obtain ⟨same, condOnly, nestedOnly⟩ :=
    cond_eq_nestedIf around 0 (.ofScope [] 0) (failingClause (.int 1)) [succeedingClause] none plain
  have nested : run (nestedIf (failingClause (.int 1)) [succeedingClause] none) = ended := rfl
  have within : ¬ OutOfDepth (run (nestedIf (failingClause (.int 1)) [succeedingClause] none)).1 := by
    rw [nested]
    rintro ⟨limit, exceeded⟩
    cases exceeded
  have result := (same within).trans nested
  refine ⟨result, ?_, ?_⟩
  · rw [← result]
    exact (condOnly _ none (agreeOnReached_failing_succeeding rfl rfl _ _ [] _)).symm
  · rw [← nested]
    exact (nestedOnly _ _ none (agreeOnReached_failing_succeeding rfl rfl _ _ [] _)).symm

end Eval

end SandboxLisp
