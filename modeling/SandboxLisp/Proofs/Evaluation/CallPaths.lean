import Mathlib.Data.List.Forall2
import SandboxLisp.Evaluator
import SandboxLisp.Proofs.Evaluation.Steady

/-!
# The ways to call a function

A function is called by its name at the head of a list, by `apply`, and once an item by `map` and
`reduce`.  All of these run its body one level below the form, in a scope that only the function and
its arguments determine, so each of them is made up of plain calls.
-/

namespace SandboxLisp

/-- The entry written last counts, and a name that is not written keeps its entry. -/
theorem Table.get?_putAll {α : Type} (table entries : List (String × α)) (name : String) :
    get? (putAll table entries) name = (entries.reverse.lookup name).or (get? table name) := by
  induction entries generalizing table with
  | nil => rfl
  | cons entry rest ih =>
    obtain ⟨key, value⟩ := entry
    have later := ih (put table key value)
    rw [putAll, List.foldl_cons, ← putAll, later, List.reverse_cons, List.lookup_append,
      Option.or_assoc]
    congr 1
    by_cases same : key = name
    · subst same
      simp
    · have different : (name == key) = false := beq_eq_false_iff_ne.mpr fun equal => same equal.symm
      rw [get?_put_of_ne table value same, List.lookup_cons, different]
      rfl

namespace Eval

/-! ### Running sequences -/

section Runs

variable {α β : Type} {around : Surroundings}

/-- A sequence whose first part ends in a value goes on with it. -/
theorem bind_of_ok {first : Eval α} {next : α → Eval β} {value : α} {world after : World}
    (ran : first around world = (.ok value, after)) :
    (first >>= next) around world = next value around after := by
  rw [bind_apply, ran]

/-- A sequence whose first part fails ends there. -/
theorem bind_of_error {first : Eval α} {next : α → Eval β} {error : EvalError}
    {world after : World} (ran : first around world = (.error error, after)) :
    (first >>= next) around world = (.error error, after) := by
  rw [bind_apply, ran]

/-- A sequence that ends in a value went on with a value of its first part. -/
theorem exists_of_bind_ok {first : Eval α} {next : α → Eval β} {result : β} {world last : World}
    (ran : (first >>= next) around world = (.ok result, last)) :
    ∃ value after, first around world = (.ok value, after) ∧
      next value around after = (.ok result, last) := by
  rw [bind_apply] at ran
  cases start : first around world with
  | mk outcome after =>
    rw [start] at ran
    cases outcome with
    | ok value => exact ⟨value, after, rfl, ran⟩
    | error error => cases ran

/-- Sequences run alike if their parts do, the second ones in the worlds that the first leave. -/
theorem bind_congr_run {first first' : Eval α} {next next' : α → Eval β} {world : World}
    (one : first around world = first' around world)
    (other : ∀ value, next value around (first' around world).2 =
      next' value around (first' around world).2) :
    (first >>= next) around world = (first' >>= next') around world := by
  rw [bind_apply, bind_apply, one]
  cases result : first' around world with
  | mk outcome after =>
    rw [result] at other
    cases outcome with
    | ok value => exact other value
    | error error => rfl

/-- A computation that leaves the scope as it is, however it ends. -/
def KeepsScope (computation : Eval α) : Prop :=
  ∀ around world, (computation around world).2.scope = world.scope

theorem KeepsScope.bind {first : Eval α} {next : α → Eval β} (one : KeepsScope first)
    (other : ∀ value, KeepsScope (next value)) : KeepsScope (first >>= next) := by
  intro around world
  have kept := one around world
  rw [bind_apply]
  cases result : first around world with
  | mk outcome after =>
    rw [result] at kept
    cases outcome with
    | ok value => exact (other value around after).trans kept
    | error error => exact kept

theorem KeepsScope.mapM {function : α → Eval β} (kept : ∀ value, KeepsScope (function value))
    (values : List α) : KeepsScope (values.mapM function) := by
  induction values with
  | nil => exact fun _ _ => rfl
  | cons value rest ih =>
    rw [List.mapM_cons]
    exact (kept value).bind fun first => ih.bind fun others _ _ => rfl

theorem KeepsScope.fold {step : Datum → Datum → Eval Datum}
    (kept : ∀ value item, KeepsScope (step value item)) (values : List Datum) (value : Datum) :
    KeepsScope (fold step value values) := by
  induction values generalizing value with
  | nil => exact fun _ _ => rfl
  | cons item rest ih => exact (kept value item).bind fun next => ih next

theorem fold_congr_run {step step' : Datum → Datum → Eval Datum}
    (same : ∀ value item world, step value item around world = step' value item around world)
    (values : List Datum) (value : Datum) (world : World) :
    fold step value values around world = fold step' value values around world := by
  induction values generalizing value world with
  | nil => rfl
  | cons item rest ih => exact bind_congr_run (same value item world) fun next => ih next _

end Runs

/-! ### Depth -/

/-- Evaluation at a depth below the outermost expression, which has depth zero. -/
def evaluateAt (registry : Registry) (around : Surroundings) (depth : Nat) : Datum → Eval Datum :=
  evaluateFor registry (Evaluator.levels around - depth)

/-- A whole evaluation starts at depth zero. -/
example (registry : Registry) (around : Surroundings) (expression : Datum) :
    Evaluator.evaluateIn registry around expression =
      evaluateAt registry around 0 expression around := rfl

/-- The call that a form at a depth makes: the body of the function is one level deeper. -/
def callAt (registry : Registry) (around : Surroundings) (depth : Nat) (function : Closure)
    (arguments : List Datum) : Eval Datum :=
  applyClosure (evaluateAt registry around (depth + 1)) function arguments

/-- A list that consists of names, as a call is written. -/
def namedCall (head : String) (names : List String) : Datum :=
  .list none (.symbol head :: names.map .symbol)

/-- Names that are bound to values, one by one. -/
def BoundTo (scope : Scope) : List String → List Datum → Prop :=
  List.Forall₂ fun name value => Table.get? scope name = some value

section Depth

variable {registry : Registry} {around : Surroundings} {depth : Nat}

/-- At a depth that is not too deep an expression is evaluated by its rule, and its parts one level
deeper. -/
theorem evaluateAt_eq_step (reached : depth < Evaluator.levels around) (expression : Datum) :
    evaluateAt registry around depth expression =
      step registry (evaluateAt registry around (depth + 1)) expression := by
  obtain ⟨rest, remaining⟩ := Nat.exists_eq_add_of_lt reached
  have here : Evaluator.levels around - depth = rest + 1 := by omega
  have below : Evaluator.levels around - (depth + 1) = rest := by omega
  rw [evaluateAt, evaluateAt, here, below, evaluateFor]

/-- Beyond the limit evaluation fails and changes nothing. -/
theorem evaluateAt_eq_tooDeep (beyond : Evaluator.levels around ≤ depth) (expression : Datum)
    (world : World) :
    evaluateAt registry around depth expression around world =
      (.error around.tooDeep, world) := by
  rw [evaluateAt, Nat.sub_eq_zero_of_le beyond]
  rfl

theorem evaluateAt_symbol {world : World} {name : String} {value : Datum}
    (reached : depth < Evaluator.levels around) (bound : Table.get? world.scope name = some value) :
    evaluateAt registry around depth (.symbol name) around world = (.ok value, world) := by
  rw [evaluateAt_eq_step reached]
  simp [step, bind_apply, scope, bound]

theorem mapM_evaluateAt_symbols {world : World} {names : List String} {values : List Datum}
    (reached : depth < Evaluator.levels around) (bound : BoundTo world.scope names values) :
    (names.map Datum.symbol).mapM (evaluateAt registry around depth) around world =
      (.ok values, world) := by
  induction bound with
  | nil => rfl
  | cons first _ ih =>
    rw [List.map_cons, List.mapM_cons, bind_of_ok (evaluateAt_symbol reached first), bind_of_ok ih]
    rfl

end Depth

/-! ### Calls by name and through forms -/

section Calls

variable (registry : Registry) {around : Surroundings} {depth : Nat} {f xs : String}
  {function : Closure} {mark : Option Mark} {values : List Datum}

/-- Every call gives the scope of its caller back. -/
theorem keepsScope_callAt (arguments : List Datum) :
    KeepsScope (callAt registry around depth function arguments) :=
  fun _ _ => rfl

/-- A call does not depend on the scope in which it is made. -/
theorem inScope_callAt (inner : Scope) (arguments : List Datum) :
    inScope inner (callAt registry around depth function arguments) =
      callAt registry around depth function arguments :=
  rfl

/-- A call by name is the call of the function that is bound to it. -/
theorem evaluateAt_namedCall {world : World} {names : List String}
    (within : depth + 1 < Evaluator.levels around) (notForm : Form.ofName? f = none)
    (callee : Table.get? world.scope f = some function.toDatum)
    (bound : BoundTo world.scope names values) :
    evaluateAt registry around depth (namedCall f names) around world =
      callAt registry around depth function values around world := by
  rw [evaluateAt_eq_step (Nat.lt_of_succ_lt within), namedCall, step, list, notForm]
  dsimp only
  rw [callName, bind_apply]
  simp only [scope, callee, Option.bind_some, Datum.closure?_toDatum]
  exact bind_of_ok (mapM_evaluateAt_symbols within bound)

/-- A form that is headed by its name is evaluated by its rule. -/
theorem evaluateAt_form (within : depth + 1 < Evaluator.levels around) (found : Form)
    (names : List String) :
    evaluateAt registry around depth (namedCall found.name names) =
      form (evaluateAt registry around (depth + 1)) found (names.map .symbol) := by
  rw [evaluateAt_eq_step (Nat.lt_of_succ_lt within), namedCall, step, list, Form.ofName?_name]

theorem evaluateAt_apply {world : World} (within : depth + 1 < Evaluator.levels around)
    (callee : Table.get? world.scope f = some function.toDatum)
    (listed : Table.get? world.scope xs = some (.list mark values)) :
    evaluateAt registry around depth (namedCall "apply" [f, xs]) around world =
      callAt registry around depth function values around world := by
  have rule := evaluateAt_form registry within .apply [f, xs]
  rw [show "apply" = Form.apply.name from rfl, rule]
  exact (bind_of_ok (evaluateAt_symbol within callee)).trans
    (bind_of_ok (evaluateAt_symbol within listed))

theorem evaluateAt_map {world : World} (within : depth + 1 < Evaluator.levels around)
    (callee : Table.get? world.scope f = some function.toDatum)
    (listed : Table.get? world.scope xs = some (.list mark values)) :
    evaluateAt registry around depth (namedCall "map" [f, xs]) around world =
      (values.mapM (fun item => callAt registry around depth function [item]) >>= newList)
        around world := by
  have rule := evaluateAt_form registry within .map [f, xs]
  have made : itemFunction (evaluateAt registry around (depth + 1)) (.symbol f) around world =
      (.ok fun item => callAt registry around depth function [item], world) :=
    bind_of_ok (evaluateAt_symbol within callee)
  rw [show "map" = Form.map.name from rfl, rule]
  exact (bind_of_ok made).trans (bind_of_ok (evaluateAt_symbol within listed))

theorem evaluateAt_reduce {world : World} {init : String} {value : Datum}
    (within : depth + 1 < Evaluator.levels around)
    (callee : Table.get? world.scope f = some function.toDatum)
    (listed : Table.get? world.scope xs = some (.list mark values))
    (initial : Table.get? world.scope init = some value) :
    evaluateAt registry around depth (namedCall "reduce" [xs, init, f]) around world =
      fold (fun result item => callAt registry around depth function [result, item]) value values
        around world := by
  have rule := evaluateAt_form registry within .reduce [xs, init, f]
  rw [show "reduce" = Form.reduce.name from rfl, rule]
  exact (bind_of_ok (evaluateAt_symbol within listed)).trans
    ((bind_of_ok (evaluateAt_symbol within initial)).trans
      (bind_of_ok (evaluateAt_symbol within callee)))

/-- Calls leave the scope as it is, so the names are bound alike before each call of a sequence. -/
theorem mapM_namedCall {scope : Scope} {names : List String}
    (within : depth + 1 < Evaluator.levels around) (notForm : Form.ofName? f = none)
    (callee : Table.get? scope f = some function.toDatum) (bound : BoundTo scope names values)
    {world : World} (here : world.scope = scope) :
    names.mapM (fun name => evaluateAt registry around depth (namedCall f [name])) around world =
      values.mapM (fun item => callAt registry around depth function [item]) around world := by
  induction bound generalizing world with
  | nil => rfl
  | @cons name value names values first rest ih =>
    have argument : BoundTo world.scope [name] [value] := .cons (here ▸ first) .nil
    rw [List.mapM_cons, List.mapM_cons]
    apply bind_congr_run (evaluateAt_namedCall registry within notForm (here ▸ callee) argument)
    intro shown
    apply bind_congr_run
    · exact ih ((keepsScope_callAt registry [value] around world).trans here)
    · exact fun others => rfl

/-- A step of a fold is a call by name in a scope in which two further names are bound. -/
theorem inScope_namedCall {scope : Scope} {p q : String} (result item : Datum)
    (within : depth + 1 < Evaluator.levels around) (notForm : Form.ofName? f = none)
    (callee : Table.get? scope f = some function.toDatum) (distinct : p ≠ q) (notP : p ≠ f)
    (notQ : q ≠ f) (world : World) :
    inScope (Table.putAll scope [(p, result), (q, item)])
        (evaluateAt registry around depth (namedCall f [p, q])) around world =
      callAt registry around depth function [result, item] around world := by
  have found : Table.get? (Table.putAll scope [(p, result), (q, item)]) f =
      some function.toDatum := by
    rw [← callee, ← Table.get?_put_of_ne scope result notP]
    exact Table.get?_put_of_ne (Table.put scope p result) item notQ
  have first : Table.get? (Table.putAll scope [(p, result), (q, item)]) p = some result := by
    rw [← Table.get?_put_self scope p result]
    exact Table.get?_put_of_ne (Table.put scope p result) item distinct.symm
  have second : Table.get? (Table.putAll scope [(p, result), (q, item)]) q = some item :=
    Table.get?_put_self (Table.put scope p result) q item
  rw [← inScope_callAt registry (Table.putAll scope [(p, result), (q, item)])]
  unfold inScope
  dsimp only
  rw [evaluateAt_namedCall registry within notForm found (.cons first (.cons second .nil))]

end Calls

/-- At every depth below the limit, each form that calls a function runs it in the same way: `apply`
is the call with the items, `map` makes the list of the calls with one item each, `reduce` folds the
call with the value so far and the item, and none of them changes the scope.  Arguments are bound by
position: of the places of a parameter the last one that has an argument counts, a parameter without
argument keeps what the function has captured, and surplus arguments are dropped. -/
theorem function_calls (registry : Registry) (around : Surroundings) (depth : Nat) (world : World)
    {f xs : String} {function : Closure} {mark : Option Mark} {values : List Datum}
    {names : List String} (within : depth + 1 < Evaluator.levels around)
    (notForm : Form.ofName? f = none) (callee : Table.get? world.scope f = some function.toDatum)
    (listed : Table.get? world.scope xs = some (.list mark values))
    (bound : BoundTo world.scope names values) :
    evaluateAt registry around depth (namedCall f names) around world =
        inScope (function.bind values) (evaluateAt registry around (depth + 1) function.body)
          around world ∧
      evaluateAt registry around depth (namedCall "apply" [f, xs]) around world =
        evaluateAt registry around depth (namedCall f names) around world ∧
      evaluateAt registry around depth (namedCall "map" [f, xs]) around world =
        (names.mapM (fun name => evaluateAt registry around depth (namedCall f [name])) >>= newList)
          around world ∧
      (∀ init value, Table.get? world.scope init = some value →
        ∀ p q, p ≠ q → p ≠ f → q ≠ f →
          evaluateAt registry around depth (namedCall "reduce" [xs, init, f]) around world =
            fold (fun result item =>
                inScope (Table.putAll world.scope [(p, result), (q, item)])
                  (evaluateAt registry around depth (namedCall f [p, q])))
              value values around world) ∧
      (∀ init, Table.has world.scope init = true →
        ∀ expression ∈ [namedCall f names, namedCall "apply" [f, xs], namedCall "map" [f, xs],
          namedCall "reduce" [xs, init, f]],
          (evaluateAt registry around depth expression around world).2.scope = world.scope) ∧
      ∀ arguments name, Table.get? (function.bind arguments) name =
        ((function.params.zip arguments).reverse.lookup name).or
          (Table.get? function.scope name) := by
  have called := evaluateAt_namedCall registry within notForm callee bound
  have applied := evaluateAt_apply registry within callee listed
  have mapped := evaluateAt_map registry within callee listed
  refine ⟨called, applied.trans called.symm, ?_, ?_, ?_, fun arguments name => ?_⟩
  · rw [mapped]
    exact bind_congr_run (mapM_namedCall registry within notForm callee bound rfl).symm fun _ => rfl
  · intro init value initial p q distinct notP notQ
    rw [evaluateAt_reduce registry within callee listed initial]
    apply fold_congr_run
    intro result item later
    rw [inScope_namedCall registry result item within notForm callee distinct notP notQ later]
  · intro init isBound expression listedIn
    obtain ⟨value, initial⟩ := Option.isSome_iff_exists.mp isBound
    have reduced := evaluateAt_reduce registry within callee listed initial
    simp only [List.mem_cons, List.not_mem_nil, or_false] at listedIn
    rcases listedIn with rfl | rfl | rfl | rfl
    · rw [called]
      exact keepsScope_callAt registry values around world
    · rw [applied]
      exact keepsScope_callAt registry values around world
    · rw [mapped]
      exact (KeepsScope.mapM (fun item => keepsScope_callAt registry [item]) values).bind
        (fun items => (Steady.newList items).scope_eq) around world
    · rw [reduced]
      exact KeepsScope.fold (fun result item => keepsScope_callAt registry [result, item])
        values value around world
  · exact Table.get?_putAll function.scope (function.params.zip arguments) name

/-- The function `(lambda (a a) a)`, whose second argument hides the first. -/
def lastOfTwo : Closure :=
  ⟨0, ["a", "a"], .symbol "a", [], none⟩

/-- A world that binds a function, a list and the items of the list. -/
def callingWorld : World :=
  .ofScope [("f", lastOfTwo.toDatum), ("xs", .list (some 1) [.int 1, .int 2]), ("x", .int 1),
    ("y", .int 2)] 2

/-- One level below the form suffices for a call, and the parameter has the last argument. -/
theorem function_calls_repeated :
    evaluateAt .default (.limited (.int 0) 1) 0 (namedCall "apply" ["f", "xs"])
        (.limited (.int 0) 1) callingWorld =
      evaluateAt .default (.limited (.int 0) 1) 0 (namedCall "f" ["x", "y"])
        (.limited (.int 0) 1) callingWorld ∧
    Table.get? (lastOfTwo.bind [.int 1, .int 2]) "a" = some (.int 2) := by
  have bound : BoundTo callingWorld.scope ["x", "y"] [.int 1, .int 2] := .cons rfl (.cons rfl .nil)
  obtain ⟨-, applied, -, -, -, binding⟩ := function_calls .default
    (.limited (.int 0) 1) 0 callingWorld (by decide) (by decide : Form.ofName? "f" = none) rfl
    (rfl : Table.get? callingWorld.scope "xs" = some (.list (some 1) [.int 1, .int 2])) bound
  exact ⟨applied, binding [.int 1, .int 2] "a"⟩

end Eval

end SandboxLisp
