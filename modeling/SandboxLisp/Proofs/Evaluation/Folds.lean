import SandboxLisp.Proofs.Evaluation.CallPaths
import SandboxLisp.Proofs.Evaluation.Provenance

/-!
# The two forms of a fold

The step of a fold is written as an expression over two names or as a function of two parameters.
The expression is evaluated in a copy of the current scope, which is taken anew at each step, and the
function in a copy of what it has captured, once, before the first step.  No step changes the scope
outside, so all of these are copies of one scope, and both forms fold the same step.

The function costs a mark.  From there on the two runs draw different marks, so they end in parallel
worlds.
-/

namespace SandboxLisp

namespace Datum

/-- `(reduce list initial (first second) body)` -/
def inlineReduction (list initial first second body : Datum) : Datum :=
  .list none [.symbol "reduce", list, initial, .list none [first, second], body]

/-- `(reduce list initial (lambda (first second) body))` -/
def functionReduction (list initial first second body : Datum) : Datum :=
  .list none [.symbol "reduce", list, initial,
    .list none [.symbol "lambda", .list none [first, second], body]]

end Datum

namespace Eval

/-- What a fold begins with. -/
structure FoldStart where
  items : List Datum
  value : Datum
  valueName : String
  itemName : String

/-- What is evaluated before the first step of a fold over two names. -/
def foldStart (recur : Datum → Eval Datum) (list initial first second : Datum) :
    Eval FoldStart := do
  let items ← expectList "reduce" (← recur list)
  let value ← recur initial
  let valueName ← bindingName first
  let itemName ← bindingName second
  return ⟨items, value, valueName, itemName⟩

/-- The steps of a fold: a body in copies of one scope, with the two names bound. -/
def foldIn (recur : Datum → Eval Datum) (outer : Scope) (body : Datum) (start : FoldStart) :
    Eval Datum :=
  fold (fun value item =>
      inScope (Table.putAll outer [(start.valueName, value), (start.itemName, item)]) (recur body))
    start.value start.items

section Runs

variable {recur : Datum → Eval Datum} {around : Surroundings} {list initial first second body : Datum}

/-- Each step of an expression over two names leaves the scope as it is, so the copies are copies of
the scope before the first step. -/
theorem fold_inlineStep (valueName itemName : String) (items : List Datum) (value : Datum)
    (world : World) :
    fold (inlineStep recur valueName itemName body) value items around world =
      foldIn recur world.scope body ⟨items, value, valueName, itemName⟩ around world := by
  unfold foldIn
  generalize outer : world.scope = scope
  induction items generalizing value world with
  | nil => rfl
  | cons item rest ih =>
    have step : inlineStep recur valueName itemName body value item around world =
        inScope (Table.putAll scope [(valueName, value), (itemName, item)]) (recur body) around
          world := by
      rw [← outer]
      rfl
    rw [fold, fold]
    exact bind_congr_run step fun next => ih next _ outer

/-- The inline form folds from its start in the scope that is there then. -/
theorem reduce_inline (world : World) :
    reduce recur [list, initial, .list none [first, second], body] around world =
      (foldStart recur list initial first second >>= fun start =>
        scope >>= fun outer => foldIn recur outer body start) around world := by
  have parts : reduce recur [list, initial, .list none [first, second], body] =
      foldStart recur list initial first second >>= fun start =>
        fold (inlineStep recur start.valueName start.itemName body) start.value start.items := by
    rw [reduce, foldStart]
    simp only [bind_assoc, pure_bind]
  rw [parts]
  exact bind_congr_run rfl fun start => fold_inlineStep _ _ _ _ _

/-- The function form does so, too, but a mark is drawn before. -/
theorem reduce_function (registry : Registry) (levels : Nat) (world : World) :
    reduce (evaluateFor registry (levels + 1))
        [list, initial, .list none [.symbol "lambda", .list none [first, second], body]] around
          world =
      (foldStart (evaluateFor registry (levels + 1)) list initial first second >>= fun start =>
        freshMark >>= fun _ => scope >>= fun outer =>
          foldIn (evaluateFor registry (levels + 1)) outer body start) around world := by
  have made : evaluateFor registry (levels + 1)
      (.list none [.symbol "lambda", .list none [first, second], body]) = (do
        let valueName ← bindingName first
        let itemName ← bindingName second
        closure [valueName, itemName] body none) := by
    rw [evaluateFor, step, Eval.list]
    simp only [show Form.ofName? "lambda" = some .lambda from rfl, form, lambda, parameterNames,
      List.mapM_cons, List.mapM_nil, bind_assoc, pure_bind, Datum.ofBody]
  rw [reduce, foldStart]
  simp only [made, bind_assoc, pure_bind, closure]
  rfl

end Runs

theorem keepsScope_foldIn (recur : Datum → Eval Datum) (outer : Scope) (body : Datum)
    (start : FoldStart) : KeepsScope (foldIn recur outer body start) :=
  .fold (fun _ _ _ _ => rfl) start.items start.value

/-! ### Folding in parallel worlds -/

/-- Starts of folds over the same names, with like items and like values. -/
structure StartsAlike (pairing : Pairing) (start start' : FoldStart) : Prop where
  items : ItemsAlike .whole pairing start.items start'.items
  value : Alike .whole pairing start.value start'.value
  valueName : start.valueName = start'.valueName
  itemName : start.itemName = start'.itemName

section Parallels

variable {pairing : Pairing} {world world' : World} {levels : Nat}
  {list initial first second body : Datum}

theorem foldStart_alike (fit : Fit .whole pairing list) (fitInitial : Fit .whole pairing initial) :
    RunAlike .whole pairing (fun _ => True) StartsAlike
      (foldStart (evaluateFor .default levels) list initial first second)
      (foldStart (evaluateFor .default levels) list initial first second) := by
  apply (simulates_default levels).items "reduce" ⟨fit, fun _ => trivial⟩
  intro later grows items items' parts
  apply ((simulates_default levels).part ⟨fitInitial.mono grows, fun _ => trivial⟩).bind
  intro last further value value' alike
  apply RunAlike.bindSame (.plain (plain_bindingName first))
  intro valueName
  apply RunAlike.mapSame (.plain (plain_bindingName second))
  intro final beyond itemName
  exact ⟨parts.mono (further.trans beyond), alike.mono beyond, rfl, rfl⟩

/-- Copies of like scopes fold alike. -/
theorem foldIn_alike {outer : Scope} (fit : Fit .whole pairing body) {start : FoldStart}
    (starts : StartsAlike pairing start start)
    (scopes : ∀ name, BindingsAlike .whole pairing (Table.get? outer name) (Table.get? outer name)) :
    RunAlike .whole pairing (fun _ => True) (Alike .whole)
      (foldIn (evaluateFor .default levels) outer body start)
      (foldIn (evaluateFor .default levels) outer body start) := by
  apply fold_alike starts.items _ starts.value
  intro later grows value value' item item' valueAlike itemAlike
  have copied : ScopesAlike .whole later (fun _ => True) outer outer :=
    fun name _ => (scopes name).mono grows
  have bound := (copied.put start.valueName valueAlike).put start.itemName itemAlike
  exact .inScope bound ((simulates_default levels).part ⟨fit.mono grows, fun _ => trivial⟩)

end Parallels

/-- Both forms of a fold end alike, at every depth and limit: in like values or in one failure, with
the same lines logged and with one scope.  That is so whatever the list and the first value bind on
the way, whatever the body binds or wherever it fails, and also if both names are one. -/
theorem reduce_forms_agree (around : Surroundings) (depth : Nat) {world : World}
    (sound : world.Sound) {list initial body : Datum} (first second : Datum)
    (made : list.MadeBy world.nextMark) (madeInitial : initial.MadeBy world.nextMark)
    (madeBody : body.MadeBy world.nextMark) :
    let inline := evaluateAt .default around depth
      (.inlineReduction list initial first second body) around world
    let applied := evaluateAt .default around depth
      (.functionReduction list initial first second body) around world
    EndParallel (.below world.nextMark) inline applied ∧ inline.2.scope = applied.2.scope := by
  have tooDeep : EndParallel (.below world.nextMark) (.error around.tooDeep, world)
      (.error around.tooDeep, world) := ⟨_, le_refl _, .error trivial, sound.parallel⟩
  unfold evaluateAt
  match Evaluator.levels around - depth with
  | 0 => exact ⟨tooDeep, rfl⟩
  -- The list is too deep then, which is evaluated first in both forms.
  | 1 => exact ⟨tooDeep, rfl⟩
  | levels + 2 =>
    intro inline applied
    have inlineRun : inline = _ := reduce_inline world
    have appliedRun : applied = _ := reduce_function .default levels world
    rw [inlineRun, appliedRun, bind_apply, bind_apply]
    have starts := @foldStart_alike (.below world.nextMark) (levels + 1) list initial first second
      (.literal made) (.literal madeInitial)
    obtain ⟨last, grows, drawn, outcome, after⟩ :=
      starts around _ (le_refl _) world world sound.parallel.worlds
    generalize foldStart (evaluateFor .default (levels + 1)) list initial first second around world =
      started at drawn outcome after ⊢
    obtain ⟨result, reached⟩ := started
    have parallel : Parallel last reached reached :=
      ⟨fun name => after.scope name (.inr trivial), rfl, rfl, drawn sound.parallel.drawn⟩
    cases outcome with
    | error arises => exact ⟨⟨last, grows, .error arises, parallel⟩, rfl⟩
    | @ok start _ alike =>
      have moved : Parallel last reached { reached with nextMark := reached.nextMark + 1 } :=
        ⟨parallel.scope, rfl, rfl, fun mark other paired =>
          (parallel.drawn mark other paired).imp_right Nat.lt_succ_of_lt⟩
      have fit : Fit .whole last body := (Fit.literal madeBody).mono grows
      have folds := @foldIn_alike _ (levels + 1) _ _ fit _ alike parallel.scope
      obtain ⟨final, further, outcome, ends⟩ := folds.parallel around moved
      have kept (world : World) := keepsScope_foldIn (evaluateFor .default (levels + 1))
        reached.scope body start around world
      refine ⟨⟨final, grows.trans further, outcome, ends⟩, ?_⟩
      exact (kept reached).trans (kept { reached with nextMark := reached.nextMark + 1 }).symm

/-- `(begin (define k 10) (list 1 2))` -/
def definingList : Datum :=
  .list none [.symbol "begin", .list none [.symbol "define", .symbol "k", .int 10],
    .list none [.symbol "list", .int 1, .int 2]]

/-- `(begin (define k (+ a k)) k)` -/
def definingBody : Datum :=
  .list none [.symbol "begin", .list none [.symbol "define", .symbol "k",
    .list none [.symbol "+", .symbol "a", .symbol "k"]], .symbol "k"]

/-- The list binds a name, which the body binds anew in each step without effect on the next one; of
the value and the item, which have one name here, the item counts. -/
theorem reduce_forms_agree_defining :
    let around : Surroundings := .limited (.int 0) 5
    let world := World.ofScope [("k", .int 1)] 0
    let inline := evaluateAt .default around 0
      (.inlineReduction definingList (.int 0) (.symbol "a") (.symbol "a") definingBody) around world
    let applied := evaluateAt .default around 0
      (.functionReduction definingList (.int 0) (.symbol "a") (.symbol "a") definingBody) around
        world
    inline.1 = .ok (.int 12) ∧ applied.1 = .ok (.int 12) ∧ inline.2.scope = [("k", .int 10)] ∧
      EndParallel (.below 0) inline applied ∧ inline.2.scope = applied.2.scope := by
  have sound : (World.ofScope [("k", .int 1)] 0).Sound := by
    apply World.sound_of_mem
    intro entry among
    cases List.mem_singleton.mp among
    exact .int 1
  have madeList : definingList.MadeBy 0 := by
    repeat' first | exact trivial | constructor
  have madeBody : definingBody.MadeBy 0 := by
    repeat' first | exact trivial | constructor
  exact ⟨rfl, rfl, rfl, reduce_forms_agree (.limited (.int 0) 5) 0 sound (.symbol "a") (.symbol "a")
    madeList (.int 0) madeBody⟩

end Eval

end SandboxLisp
