import SandboxLisp.Proofs.Evaluation.CallPaths
import SandboxLisp.Proofs.Evaluation.DepthLimit
import SandboxLisp.Proofs.Evaluation.Frame
import SandboxLisp.Proofs.Evaluation.Provenance

/-!
# Local names as applications

A form with local names binds them one after another in one scope.  Functions of one parameter each,
applied one inside of the other, bind the same names in a chain of scopes, each of which is a copy
of what the function before has captured.  Both end alike: an initializer that contains no
definition leaves the bindings as they are, so every initializer and the body see the same.

The chain goes one level deeper with each name, and it makes a function for each.  So it may fail at
a limit within which the form does not, and the marks that both draw differ.  The former is the
excuse in `Agrees`, and the latter is what worlds are parallel for.
-/

namespace SandboxLisp

namespace Datum

/-- `((lambda (name) body...) expression)` -/
def application (name : String) (expression : Datum) (body : List Datum) : Datum :=
  .list none [.list none (.symbol "lambda" :: .list none [.symbol name] :: body), expression]

/-- A body inside of applications that bind names to the values of expressions, the first one
outermost. -/
def inApplications : List (String × Datum) → List Datum → List Datum
  | [], body => body
  | (name, expression) :: rest, body => [application name expression (inApplications rest body)]

/-- A name and its initializer as they stand in a form with local names. -/
def localBinding (binding : String × Datum) : Datum :=
  .list none [.symbol binding.1, binding.2]

/-- `(let ((name expression)...) body...)` -/
def letForm (bindings : List (String × Datum)) (body : List Datum) : Datum :=
  .list none (.symbol "let" :: .list none (bindings.map localBinding) :: body)

/-- The expression is, or contains, a list that is headed as a definition. -/
inductive HasDefinition : Datum → Prop where
  | here {mark : Option Mark} {head : String} {operands : List Datum}
      (defines : head = "define" ∨ head = "defun") :
      HasDefinition (.list mark (.symbol head :: operands))
  | inside {mark : Option Mark} {items : List Datum} {item : Datum} (among : item ∈ items)
      (has : HasDefinition item) : HasDefinition (.list mark items)

end Datum

/-- A definition is headed by one of two names. -/
theorem Form.eq_of_ofName?_define {name : String} (defines : ofName? name = some .define) :
    name = "define" ∨ name = "defun" := by
  obtain ⟨before, behind, whole, -⟩ := List.lookup_eq_some_iff.mp defines
  have listed : (name, Form.define) ∈ names := by
    rw [whole]
    exact List.mem_append_right before (.head behind)
  simpa [names, all, synonyms, Form.name] using listed

/-- Only a definition binds names itself. -/
theorem Form.eq_define_of_mem_targets {form : Form} {operands : List Datum} {name : String}
    (binds : name ∈ form.targets operands) : form = .define := by
  cases form with
  | define => rfl
  | _ => cases binds

/-- What a form evaluates in its own scope are operands or stands in operands. -/
theorem Form.exists_of_mem_ownParts {form : Form} {operands : List Datum} {part : Datum}
    (own : part ∈ form.ownParts operands) :
    ∃ operand ∈ operands, part = operand ∨ part ∈ operand.clauseParts := by
  unfold ownParts at own
  split at own
  case h_4 => exact (List.mem_flatMap.mp own).imp fun _ inside => inside.imp_right .inr
  all_goals exact ⟨part, by grind, .inl rfl⟩

/-- An expression exposes a name only if it contains a definition. -/
theorem Datum.Exposes.hasDefinition {expression : Datum} {name : String}
    (exposes : expression.Exposes name) : expression.HasDefinition := by
  induction exposes with
  | @target expression name binds =>
    unfold targets at binds
    split at binds
    · next mark head operands =>
      cases head with
      | symbol text =>
        cases found : Form.ofName? text with
        | none => simp [form?, found] at binds
        | some form =>
          simp only [form?, found, Option.map_some, Option.getD_some] at binds
          obtain rfl := Form.eq_define_of_mem_targets binds
          exact .here (Form.eq_of_ofName?_define found)
      | _ => simp [form?] at binds
    · cases binds
  | @part expression part name own _ ih =>
    unfold ownParts at own
    split at own
    · next mark head operands =>
      cases found : head.form? with
      | none =>
        rw [found] at own
        exact .inside own ih
      | some form =>
        rw [found] at own
        obtain ⟨operand, among, rfl | clause⟩ := Form.exists_of_mem_ownParts own
        · exact .inside (.tail _ among) ih
        · unfold clauseParts at clause
          split at clause
          · exact .inside (.tail _ among) (.inside clause ih)
          · cases clause
    · cases own

theorem Datum.not_hasDefinition_list {mark : Option Mark} {head : String} {operands : List Datum}
    (other : head ≠ "define" ∧ head ≠ "defun")
    (silent : ∀ operand ∈ operands, ¬ operand.HasDefinition) :
    ¬ (list mark (.symbol head :: operands)).HasDefinition := by
  intro has
  cases has with
  | here defines => exact defines.elim other.1 other.2
  | inside among has =>
    rcases List.mem_cons.mp among with rfl | operand
    · cases has
    · exact silent _ operand has

/-- An application exposes nothing if its argument contains no definition. -/
theorem Datum.not_exposes_application {binding : Datum} {name target : String} {body : List Datum}
    (silent : ¬ binding.HasDefinition) : ¬ (application name binding body).Exposes target := by
  rw [exposes_iff]
  rintro (binds | ⟨part, own, exposes⟩)
  · cases binds
  · rcases List.mem_cons.mp own with rfl | argument
    · exact Eval.not_exposes_of_isFunctionPlace rfl target exposes
    · cases List.mem_singleton.mp argument
      exact silent exposes.hasDefinition

namespace Eval

/-! ### Ends of parallel runs -/

/-- Both end in parallel worlds unless the first ends in a failure that is excused. -/
def Agrees (excused : EvalError → Prop) (pairing : Pairing)
    (ended ended' : Except EvalError Datum × World) : Prop :=
  (∃ error, ended.1 = .error error ∧ excused error) ∨ EndParallel pairing ended ended'

/-- The end without the bindings of the place where it is reached. -/
def unscoped (ended : Except EvalError Datum × World) : Except EvalError Datum × World :=
  (ended.1, { ended.2 with scope := [] })

theorem Agrees.unscoped {excused : EvalError → Prop} {pairing : Pairing}
    {ended ended' : Except EvalError Datum × World} (agrees : Agrees excused pairing ended ended') :
    Agrees excused pairing (unscoped ended) (Eval.unscoped ended') := by
  refine agrees.imp_right ?_
  rintro ⟨last, grows, outcome, after⟩
  exact ⟨last, grows, outcome, after.enter fun _ => .none⟩

theorem Agrees.mono {excused : EvalError → Prop} {pairing later : Pairing}
    {ended ended' : Except EvalError Datum × World} (grows : pairing ≤ later)
    (agrees : Agrees excused later ended ended') : Agrees excused pairing ended ended' := by
  refine agrees.imp_right ?_
  rintro ⟨last, further, ends⟩
  exact ⟨last, grows.trans further, ends⟩

/-- Both end in parallel worlds if there is nothing to excuse. -/
theorem Agrees.endParallel {excused : EvalError → Prop} {pairing : Pairing}
    {ended ended' : Except EvalError Datum × World} (agrees : Agrees excused pairing ended ended')
    (unexcused : ∀ error, ended.1 = .error error → ¬ excused error) :
    EndParallel pairing ended ended' := by
  rcases agrees with ⟨error, failed, isExcused⟩ | ends
  · exact absurd isExcused (unexcused error failed)
  · exact ends

/-- Two evaluations agree on every expression in parallel worlds. -/
def AgreeOnParts (excused : EvalError → Prop) (around : Surroundings)
    (recur recur' : Datum → Eval Datum) : Prop :=
  ∀ {pairing world world' expression}, Fit .whole pairing expression →
    Parallel pairing world world' →
      Agrees excused pairing (recur expression around world) (recur' expression around world')

theorem agreeOnParts_self (excused : EvalError → Prop) (around : Surroundings) (levels : Nat) :
    AgreeOnParts excused around (evaluateFor .default levels) (evaluateFor .default levels) :=
  fun fit worlds => .inr (evaluateFor_parallel levels fit around worlds)

/-- A failure of going too deep. -/
def TooDeep (error : EvalError) : Prop :=
  ∃ limit, error = .limitExceeded limit

/-- An evaluation agrees with one that may go through more levels, unless it goes too deep. -/
theorem agreeOnParts_of_le (around : Surroundings) {levels more : Nat} (atMost : levels ≤ more) :
    AgreeOnParts TooDeep around (evaluateFor .default levels) (evaluateFor .default more) := by
  intro pairing world world' expression fit worlds
  rcases evaluateFor_of_le atMost around expression world with ⟨limit, exceeded⟩ | same
  · exact .inl ⟨_, exceeded, limit, rfl⟩
  · right
    rw [← same]
    exact evaluateFor_parallel more fit around worlds

/-! ### One binding -/

section Binding

variable {around : Surroundings} {world world' : World} {name : String} {expression : Datum}

/-- An application makes a function, evaluates its argument and then the body, where the name is
bound in the scope that the function has captured. -/
theorem evaluateFor_application (registry : Registry) (levels : Nat) (body : List Datum) :
    evaluateFor registry (levels + 2) (.application name expression body) around world =
      match evaluateFor registry (levels + 1) expression around
          { world with nextMark := world.nextMark + 1 } with
      | (.ok value, after) =>
          inScope (Table.put world.scope name value)
            (evaluateFor registry (levels + 1) (.ofBody body)) around after
      | (.error error, after) => (.error error, after) := by
  have made : evaluateFor registry (levels + 1)
      (.list none (.symbol "lambda" :: .list none [.symbol name] :: body)) around world =
        (.ok (Closure.mk world.nextMark [name] (.ofBody body) world.scope none).toDatum,
          { world with nextMark := world.nextMark + 1 }) := rfl
  refine (bind_of_ok made).trans ?_
  simp only [Datum.closure?_toDatum, List.mapM_cons, List.mapM_nil, bind_assoc, pure_bind]
  rw [bind_apply]
  cases evaluateFor registry (levels + 1) expression around
      { world with nextMark := world.nextMark + 1 } with
  | mk outcome after => cases outcome <;> rfl

/-- A local name is bound to the value of its initializer, and what follows goes on with it. -/
theorem bindLocals_cons (recur : Datum → Eval Datum) (rest : List Datum) (next : Eval Datum) :
    (bindLocals recur (.localBinding (name, expression) :: rest) >>= fun _ => next) around world =
      match recur expression around world with
      | (.ok value, after) =>
          (bindLocals recur rest >>= fun _ => next) around
            { after with scope := Table.put after.scope name value }
      | (.error error, after) => (.error error, after) := by
  rw [Datum.localBinding, bindLocals, bind_assoc, bind_apply]
  cases recur expression around world with
  | mk outcome after => cases outcome <;> rfl

end Binding

/-- A name is bound alike by an application and by a form with local names, if the initializer
contains no definition and what goes on with the name agrees. -/
theorem agrees_binding {excused : EvalError → Prop} {around : Surroundings} {levels : Nat}
    {recur : Datum → Eval Datum}
    (agree : AgreeOnParts excused around (evaluateFor .default levels) recur) {pairing : Pairing}
    {world world' : World} (worlds : Parallel pairing world world') {name : String}
    {expression : Datum} (fit : Fit .whole pairing expression)
    (silent : ¬ expression.HasDefinition) {body rest : List Datum} {next : Eval Datum}
    (goOn : ∀ last world world', pairing ≤ last → Parallel last world world' →
      Agrees excused last (unscoped (evaluateFor .default levels (.ofBody body) around world))
        (unscoped ((bindLocals recur rest >>= fun _ => next) around world'))) :
    Agrees excused pairing
      (unscoped (evaluateFor .default (levels + 1) (.application name expression body) around
        world))
      (unscoped ((bindLocals recur (.localBinding (name, expression) :: rest) >>= fun _ => next)
        around world')) := by
  rw [bindLocals_cons]
  cases levels with
  | zero =>
    -- The function of the application is too deep, as the initializer is.
    rcases agree fit worlds with failed | ⟨last, grows, outcome, after⟩
    · exact .inl failed
    · generalize recur expression around world' = ended' at outcome after ⊢
      obtain ⟨result', reached'⟩ := ended'
      cases outcome with
      | error arises => exact .inr ⟨last, grows, .error arises, after.enter fun _ => .none⟩
  | succ levels =>
    rw [evaluateFor_application]
    have moved : Parallel pairing { world with nextMark := world.nextMark + 1 } world' :=
      ⟨worlds.scope, worlds.log, worlds.seed, fun mark other paired =>
        (worlds.drawn mark other paired).imp_left Nat.lt_succ_of_lt⟩
    have kept (other : String) : Table.get? (evaluateFor .default (levels + 1) expression around
        { world with nextMark := world.nextMark + 1 }).2.scope other =
          Table.get? world.scope other :=
      (evaluateFor_scope (levels + 1) expression around _).1 other fun exposes =>
        silent exposes.hasDefinition
    have ends := agree fit moved
    generalize evaluateFor .default (levels + 1) expression around
      { world with nextMark := world.nextMark + 1 } = ended, recur expression around world' = ended'
      at ends kept ⊢
    obtain ⟨result, reached⟩ := ended
    obtain ⟨result', reached'⟩ := ended'
    rcases ends with ⟨error, rfl, isExcused⟩ | ⟨last, grows, outcome, after⟩
    · exact .inl ⟨error, rfl, isExcused⟩
    · cases outcome with
      | error arises => exact .inr ⟨last, grows, .error arises, after.enter fun _ => .none⟩
      | @ok value value' alike =>
        apply Agrees.mono grows
        apply goOn last _ _ grows
        apply after.enter
        intro other
        by_cases same : name = other
        · subst same
          rw [Table.get?_put_self, Table.get?_put_self]
          exact .some alike
        · rw [Table.get?_put_of_ne _ value same, Table.get?_put_of_ne _ value' same, ← kept other]
          exact after.scope other

/-- A body inside of applications agrees with the body behind local names, unless it goes too
deep. -/
theorem agrees_inApplications {around : Surroundings} {body : List Datum}
    (bindings : List (String × Datum)) {levels more : Nat} (atMost : levels ≤ more)
    {pairing : Pairing} {world world' : World} (worlds : Parallel pairing world world')
    (fit : ∀ binding ∈ bindings, Fit .whole pairing binding.2)
    (fitBody : ∀ form ∈ body, Fit .whole pairing form)
    (silent : ∀ binding ∈ bindings, ¬ binding.2.HasDefinition) :
    Agrees TooDeep pairing
      (unscoped (evaluateFor .default levels (.ofBody (Datum.inApplications bindings body)) around
        world))
      (unscoped ((bindLocals (evaluateFor .default more) (bindings.map Datum.localBinding) >>=
        fun _ => evaluateFor .default more (.ofBody body)) around world')) := by
  induction bindings generalizing levels pairing world world' with
  | nil => exact (agreeOnParts_of_le around atMost (Fit.ofBody fitBody) worlds).unscoped
  | cons binding rest ih =>
    cases levels with
    | zero => exact .inl ⟨around.tooDeep, rfl, around.maxDepth, rfl⟩
    | succ levels =>
      have below : levels ≤ more := Nat.le_of_succ_le atMost
      apply agrees_binding (agreeOnParts_of_le around below) worlds (fit binding (.head _))
        (silent binding (.head _))
      intro last inner inner' grows entered
      apply ih below entered
      · exact fun other among => (fit other (.tail _ among)).mono grows
      · exact fun form among => (fitBody form among).mono grows
      · exact fun other among => silent other (.tail _ among)

/-- A form with local names leaves the scope in which it stands as it is. -/
theorem keepsScope_letForm (registry : Registry) (levels : Nat) (bindings : List (String × Datum))
    (body : List Datum) : KeepsScope (evaluateFor registry levels (.letForm bindings body)) := by
  cases levels with
  | zero => exact fun _ _ => rfl
  | succ levels => exact fun _ _ => rfl

/-- A form with local names agrees with an application for the first of them, at any number of
levels, if what goes on behind the first name agrees. -/
theorem agrees_letForm {excused : EvalError → Prop} {around : Surroundings} {world : World}
    (sound : world.Sound) (levels : Nat) {first : String × Datum} {rest : List (String × Datum)}
    {body : List Datum} (made : first.2.MadeBy world.nextMark) (silent : ¬ first.2.HasDefinition)
    (goOn : ∀ levels last world' world'', .below world.nextMark ≤ last →
      Parallel last world' world'' → Agrees excused last
        (unscoped (evaluateFor .default levels (.ofBody (Datum.inApplications rest body)) around
          world'))
        (unscoped ((bindLocals (evaluateFor .default levels) (rest.map Datum.localBinding) >>=
          fun _ => evaluateFor .default levels (.ofBody body)) around world''))) :
    Agrees excused (.below world.nextMark)
      (unscoped (evaluateFor .default levels
        (.application first.1 first.2 (Datum.inApplications rest body)) around world))
      (unscoped (evaluateFor .default levels (.letForm (first :: rest) body) around world)) := by
  cases levels with
  | zero =>
    have outcome : OutcomesAlike (Alike .whole (.below world.nextMark)) (.error around.tooDeep)
        (.error around.tooDeep) := .error trivial
    exact .inr ⟨_, le_refl _, outcome, sound.parallel.enter fun _ => .none⟩
  | succ levels =>
    exact agrees_binding (agreeOnParts_self excused around levels) sound.parallel (.literal made)
      silent (goOn levels)

theorem EndParallel.of_unscoped {pairing : Pairing}
    {ended ended' : Except EvalError Datum × World}
    (ends : EndParallel pairing (unscoped ended) (unscoped ended'))
    (scopes : ∀ name, BindingsAlike .whole pairing (Table.get? ended.2.scope name)
      (Table.get? ended'.2.scope name)) : EndParallel pairing ended ended' := by
  obtain ⟨last, grows, outcome, after⟩ := ends
  exact ⟨last, grows, outcome, after.enter fun name => (scopes name).mono grows⟩

/-- A form with local names is nested application.  If no initializer contains a definition, and the
applications do not go too deep, then both end alike, at every depth and limit: in like values or in
one failure, with the same lines logged.  With one name that is so however they end.  Both leave
everything bound as it was. -/
theorem letForm_eq_applications (around : Surroundings) (depth : Nat) {world : World}
    (sound : world.Sound) (first : String × Datum) (rest : List (String × Datum))
    (body : List Datum) (made : ∀ binding ∈ first :: rest, binding.2.MadeBy world.nextMark)
    (madeBody : ∀ form ∈ body, form.MadeBy world.nextMark)
    (silent : ∀ binding ∈ first :: rest, ¬ binding.2.HasDefinition) :
    let applied := evaluateAt .default around depth
      (.application first.1 first.2 (Datum.inApplications rest body)) around world
    let ended := evaluateAt .default around depth (.letForm (first :: rest) body) around world
    (¬ OutOfDepth applied.1 → EndParallel (.below world.nextMark) applied ended) ∧
      (rest = [] → EndParallel (.below world.nextMark) applied ended) ∧
      (∀ name, Table.get? applied.2.scope name = Table.get? world.scope name) ∧
      ended.2.scope = world.scope := by
  intro applied ended
  have kept (name : String) : Table.get? applied.2.scope name = Table.get? world.scope name :=
    (evaluateFor_scope _ _ around world).1 name
      (Datum.not_exposes_application (silent first (.head _)))
  have keptByLet : ended.2.scope = world.scope := keepsScope_letForm .default _ _ body around world
  have scopes (name : String) : BindingsAlike .whole (.below world.nextMark)
      (Table.get? applied.2.scope name) (Table.get? ended.2.scope name) := by
    rw [kept, keptByLet]
    exact sound.parallel.scope name
  have fitBody : ∀ form ∈ body, Fit .whole (.below world.nextMark) form :=
    fun form among => .literal (madeBody form among)
  refine ⟨fun within => ?_, fun one => ?_, kept, keptByLet⟩
  · have agrees : Agrees TooDeep (.below world.nextMark) (unscoped applied) (unscoped ended) := by
      apply agrees_letForm sound _ (made first (.head _)) (silent first (.head _))
      intro levels last world' world'' grows worlds
      apply agrees_inApplications rest (Nat.le_refl levels) worlds
      · exact fun binding among => (Fit.literal (made binding (.tail _ among))).mono grows
      · exact fun form among => (fitBody form among).mono grows
      · exact fun binding among => silent binding (.tail _ among)
    apply EndParallel.of_unscoped (agrees.endParallel _) scopes
    rintro error failed ⟨limit, rfl⟩
    exact within ⟨limit, failed⟩
  · subst one
    -- With one name both go equally deep, so nothing has to be excused.
    have agrees : Agrees (fun _ => False) (.below world.nextMark) (unscoped applied)
        (unscoped ended) := by
      apply agrees_letForm sound _ (made first (.head _)) (silent first (.head _))
      intro levels last world' world'' grows worlds
      have fit : Fit .whole last (.ofBody body) :=
        .ofBody fun form among => (fitBody form among).mono grows
      exact (agreeOnParts_self _ around levels fit worlds).unscoped
    exact EndParallel.of_unscoped (agrees.endParallel fun _ _ => id) scopes

/-- The initializer `(operator x operand)`. -/
def shadowingInitializer (operator : String) (operand : Int) : Datum :=
  .list none [.symbol operator, .symbol "x", .int operand]

/-- In `(let ((x (+ x 1)) (x (* x 2))) x)` each name hides the one before, and the one outside stays
what it is. -/
theorem letForm_eq_applications_shadowing :
    let around : Surroundings := .limited (.int 0) 10
    let world := World.ofScope [("x", .int 5)] 0
    let applied := evaluateAt .default around 0
      (.application "x" (shadowingInitializer "+" 1)
        (Datum.inApplications [("x", shadowingInitializer "*" 2)] [.symbol "x"])) around world
    let ended := evaluateAt .default around 0
      (.letForm [("x", shadowingInitializer "+" 1), ("x", shadowingInitializer "*" 2)]
        [.symbol "x"]) around world
    applied.1 = .ok (.int 12) ∧ EndParallel (.below 0) applied ended ∧
      ended.2.scope = [("x", .int 5)] := by
  intro around world applied ended
  have made (operator : String) (operand : Int) :
      (shadowingInitializer operator operand).MadeBy 0 :=
    .list .none (.cons (.symbol trivial operator) (.cons (.symbol trivial "x")
      (.cons (.int operand) .nil)))
  have silent (operator : String) (operand : Int)
      (other : operator ≠ "define" ∧ operator ≠ "defun") :
      ¬ (shadowingInitializer operator operand).HasDefinition := by
    apply Datum.not_hasDefinition_list other
    simp only [List.mem_cons, List.not_mem_nil, or_false, forall_eq_or_imp, forall_eq]
    exact ⟨nofun, nofun⟩
  have sound : world.Sound := by
    apply World.sound_of_mem
    intro entry among
    cases List.mem_singleton.mp among
    exact .int 5
  have madeBody : ∀ form ∈ [Datum.symbol "x"], form.MadeBy world.nextMark := by
    intro form among
    cases List.mem_singleton.mp among
    exact .symbol trivial "x"
  have value : applied.1 = .ok (.int 12) := rfl
  obtain ⟨alike, -, -, kept⟩ := letForm_eq_applications around 0 sound
    ("x", shadowingInitializer "+" 1) [("x", shadowingInitializer "*" 2)] [.symbol "x"]
    (by simpa using ⟨made "+" 1, made "*" 2⟩)
    madeBody
    (by simpa using ⟨silent "+" 1 (by decide), silent "*" 2 (by decide)⟩)
  refine ⟨value, alike ?_, kept⟩
  rintro ⟨limit, exceeded⟩
  cases value.symm.trans exceeded

end Eval

end SandboxLisp
