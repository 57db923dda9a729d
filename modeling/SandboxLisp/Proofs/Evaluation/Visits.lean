import SandboxLisp.Proofs.Evaluation.CallPaths
import SandboxLisp.Proofs.Evaluation.Dialogue

/-!
# Evaluation ends

The functions of the evaluator are given a number of levels, so they end in any case.  This module
says what that number stands for.  `Evaluates` lays out an evaluation without it: a step at a depth
within the limit follows a dialogue, its questions are steps one level deeper, and a step beyond the
limit fails at once.  Such a layout is finite and lists every step that is entered.

The main statement is that every expression has one and that the evaluator ends as it does.  So
nothing but the depth keeps functions that call themselves, or primitives that evaluate, from going
on, and no step is entered further than one level beyond the limit.
-/

namespace SandboxLisp.Eval

/-- A step of evaluation that was entered, with the world before it and how it ended. -/
structure Visit where
  depth : Nat
  expression : Datum
  world : World
  ended : Ended Datum

/-- The questions of a dialogue are answered at a depth, which leads to an end.  The visits are all
steps that are entered for that, in order. -/
inductive Answers (registry : Registry) (around : Surroundings) :
    Nat → Dialogue Datum → Ended Datum → List Visit → Prop where
  | ends {depth : Nat} (ended : Ended Datum) : Answers registry around depth (.ends ended) ended []
  /-- A step beyond the limit fails and changes nothing. -/
  | tooDeep {depth : Nat} {expression : Datum} {world : World} {goOn : Ended Datum → Dialogue Datum}
      {ended : Ended Datum} {visits : List Visit} (beyond : Evaluator.levels around ≤ depth)
      (rest : Answers registry around depth (goOn (.error around.tooDeep, world)) ended visits) :
      Answers registry around depth (.asks expression world goOn) ended
        (⟨depth, expression, world, (.error around.tooDeep, world)⟩ :: visits)
  /-- Any other step follows a dialogue, whose questions are answered one level deeper. -/
  | step {depth : Nat} {expression : Datum} {world : World} {goOn : Ended Datum → Dialogue Datum}
      {dialogue : Dialogue Datum} {answer ended : Ended Datum} {entered visits : List Visit}
      (within : depth < Evaluator.levels around)
      (follows : dialogue.IsFollowed (fun recur => step registry recur expression) around world)
      (inside : Answers registry around (depth + 1) dialogue answer entered)
      (rest : Answers registry around depth (goOn answer) ended visits) :
      Answers registry around depth (.asks expression world goOn) ended
        (⟨depth, expression, world, answer⟩ :: (entered ++ visits))

/-- The evaluation of an expression, step by step: it is the one question that is asked at depth
zero. -/
def Evaluates (registry : Registry) (around : Surroundings) (expression : Datum) (world : World)
    (ended : Ended Datum) (visits : List Visit) : Prop :=
  Answers registry around 0 (.asks expression world .ends) ended visits

section Answers

variable {registry : Registry} {around : Surroundings} {depth : Nat}

/-- No more levels are evaluated than the limit and one. -/
theorem levels_le (around : Surroundings) : Evaluator.levels around ≤ around.maxDepth + 1 := by
  unfold Evaluator.levels
  split
  · exact Nat.succ_le_succ (Nat.min_le_left _ _)
  · exact Nat.le_refl _

/-- The questions of a dialogue are answered as the evaluator evaluates at that depth. -/
theorem Answers.eq {dialogue : Dialogue Datum} {ended : Ended Datum} {visits : List Visit}
    (answers : Answers registry around depth dialogue ended visits) :
    ended = dialogue.outcome fun expression world =>
      evaluateAt registry around depth expression around world := by
  induction answers with
  | ends ended => rfl
  | @tooDeep depth expression world _ _ _ beyond _ rest_ih =>
    rw [rest_ih, Dialogue.outcome, evaluateAt_eq_tooDeep beyond]
  | @step depth expression world _ _ _ _ _ _ within follows _ _ inside_ih rest_ih =>
    rw [rest_ih, Dialogue.outcome, evaluateAt_eq_step within]
    rw [inside_ih, ← follows]

/-- Every step that is entered ends as the evaluator evaluates at its depth, and none is entered
beyond the first depth that is too deep. -/
theorem Answers.visit {dialogue : Dialogue Datum} {ended : Ended Datum} {visits : List Visit}
    (answers : Answers registry around depth dialogue ended visits)
    (reached : depth ≤ Evaluator.levels around) {visit : Visit} (among : visit ∈ visits) :
    visit.depth ≤ Evaluator.levels around ∧
      visit.ended = evaluateAt registry around visit.depth visit.expression around visit.world := by
  induction answers with
  | ends ended => cases among
  | @tooDeep depth expression world _ _ _ beyond _ rest_ih =>
    rcases List.mem_cons.mp among with rfl | later
    · exact ⟨reached, (evaluateAt_eq_tooDeep beyond expression world).symm⟩
    · exact rest_ih reached later
  | @step depth expression world _ _ _ _ _ _ within follows inside _ inside_ih rest_ih =>
    rcases List.mem_cons.mp among with rfl | others
    · refine ⟨reached, ?_⟩
      rw [evaluateAt_eq_step within, inside.eq]
      exact (follows _).symm
    · rcases List.mem_append.mp others with inner | later
      · exact inside_ih within inner
      · exact rest_ih reached later

/-- If the primitives converse, every dialogue can be answered.  The induction is on the levels that
are left, and inside of a level on the dialogue. -/
theorem exists_answers (converses : registry.Converses) (around : Surroundings) (left : Nat) :
    ∀ depth, Evaluator.levels around - depth ≤ left → ∀ dialogue : Dialogue Datum,
      ∃ ended visits, Answers registry around depth dialogue ended visits := by
  induction left with
  | zero =>
    intro depth none dialogue
    have beyond : Evaluator.levels around ≤ depth := by omega
    induction dialogue with
    | ends ended => exact ⟨ended, [], .ends ended⟩
    | asks expression world goOn ih =>
      obtain ⟨ended, visits, rest⟩ := ih (.error around.tooDeep, world)
      exact ⟨ended, _, .tooDeep beyond rest⟩
  | succ left deeper =>
    intro depth within dialogue
    induction dialogue with
    | ends ended => exact ⟨ended, [], .ends ended⟩
    | asks expression world goOn ih =>
      by_cases beyond : Evaluator.levels around ≤ depth
      · obtain ⟨ended, visits, rest⟩ := ih (.error around.tooDeep, world)
        exact ⟨ended, _, .tooDeep beyond rest⟩
      · obtain ⟨inner, follows⟩ := Converses.step converses expression around world
        obtain ⟨answer, entered, inside⟩ := deeper (depth + 1) (by omega) inner
        obtain ⟨ended, visits, rest⟩ := ih answer
        exact ⟨ended, _, .step (Nat.lt_of_not_le beyond) follows inside rest⟩

end Answers

end SandboxLisp.Eval

namespace SandboxLisp.Evaluator

open SandboxLisp.Eval

/-- Evaluation ends, for every expression in every world, if every primitive uses evaluation only by
asking for finitely many expressions: there is a finite layout of all its steps, and the evaluator
ends as it does.  In each layout no step is entered deeper than one level beyond the limit, and a
step that is entered there only fails by the limit. -/
theorem evaluation_ends (registry : Registry) (converses : registry.Converses)
    (around : Surroundings) (expression : Datum) (world : World) :
    (∃ visits, Evaluates registry around expression world
      (evaluateIn registry around expression world) visits) ∧
    ∀ ended visits, Evaluates registry around expression world ended visits →
      ended = evaluateIn registry around expression world ∧
      ∀ visit ∈ visits, visit.depth ≤ around.maxDepth + 1 ∧
        (visit.depth = around.maxDepth + 1 →
          visit.ended = (.error around.tooDeep, visit.world)) := by
  have same {ended : Ended Datum} {visits : List Visit}
      (evaluates : Evaluates registry around expression world ended visits) :
      ended = evaluateIn registry around expression world := evaluates.eq
  constructor
  · obtain ⟨ended, visits, evaluates⟩ := exists_answers converses around (levels around) 0
      (Nat.sub_le _ _) (.asks expression world .ends)
    exact ⟨visits, same evaluates ▸ evaluates⟩
  · intro ended visits evaluates
    refine ⟨same evaluates, fun visit among => ?_⟩
    obtain ⟨reached, answered⟩ := evaluates.visit (Nat.zero_le _) among
    refine ⟨Nat.le_trans reached (levels_le around), fun deepest => ?_⟩
    rw [answered]
    apply evaluateAt_eq_tooDeep
    rw [deepest]
    exact levels_le around

/-- The default primitives and one that evaluates its argument once more. -/
def callbackRegistry : Registry :=
  ⟨defaultPrimitives ++ [("eval", Primitive.evaluateArgument)], ["eval"]⟩

theorem ofOffers_callback :
    Registry.ofOffers [⟨.string "eval", some Primitive.evaluateArgument⟩] =
      .ok callbackRegistry := rfl

/-- A call of that primitive with the value of `x`. -/
def evalOfX : Datum :=
  .list none [.symbol "eval", .symbol "x"]

/-- A world in which that value is the same call again, so evaluating it goes on for ever but for
the limit. -/
def worldOfX : World :=
  .ofScope [("x", evalOfX)] 0

theorem evaluation_ends_callback :
    callbackRegistry.Converses ∧
      (evaluateIn callbackRegistry (.limited (.int 0) 5) evalOfX worldOfX).1 =
        .error (.limitExceeded 5) ∧
      (∃ visits, Evaluates callbackRegistry (.limited (.int 0) 5) evalOfX worldOfX
        (evaluateIn callbackRegistry (.limited (.int 0) 5) evalOfX worldOfX) visits) ∧
      ∀ ended visits,
        Evaluates callbackRegistry (.limited (.int 0) 5) evalOfX worldOfX ended visits →
          ended = evaluateIn callbackRegistry (.limited (.int 0) 5) evalOfX worldOfX ∧
          ∀ visit ∈ visits, visit.depth ≤ 5 + 1 ∧
            (visit.depth = 5 + 1 → visit.ended = (.error (.limitExceeded 5), visit.world)) := by
  have converses : callbackRegistry.Converses := by
    apply Registry.converses_of_ofOffers ofOffers_callback
    intro offer among primitive same
    cases List.mem_singleton.mp among
    cases same
    exact Primitive.evaluateArgument_converses
  exact ⟨converses, rfl, evaluation_ends callbackRegistry converses (.limited (.int 0) 5) evalOfX
    worldOfX⟩

end SandboxLisp.Evaluator
