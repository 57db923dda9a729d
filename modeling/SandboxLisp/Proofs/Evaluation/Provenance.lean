import SandboxLisp.Proofs.Evaluation.Failures

/-!
# Marks that have been drawn

Marks are drawn one after another, so the data that exist at some moment carry marks that were drawn
before.  A world is sound if that is so for everything that is bound in it.  Evaluation keeps worlds
sound: what it gives, and what it binds, was either there before or is made with marks of its own.

That is read off two runs.  A datum is made by a moment if it is like itself when only the marks
drawn by then are paired, and two worlds are parallel if they bind everything alike and only drawn
marks are paired.  Evaluation leads from parallel worlds to parallel worlds.
-/

namespace SandboxLisp

/-- The marks below a bound, each paired with itself. -/
def Pairing.below (bound : Mark) : Pairing where
  Paired mark other := mark = other ∧ mark < bound
  right one another := one.1.symm.trans another.1
  left one another := one.1.trans another.1.symm

theorem Pairing.below_le_below {bound larger : Mark} (atMost : bound ≤ larger) :
    below bound ≤ below larger :=
  fun _ _ paired => ⟨paired.1, Nat.lt_of_lt_of_le paired.2 atMost⟩

/-- The datum carries no other marks than those below a bound, and its functions have captured no
others. -/
def Datum.MadeBy (bound : Mark) (datum : Datum) : Prop :=
  Alike .whole (.below bound) datum datum

/-- Everything that is bound in the world was made with marks that have been drawn. -/
def World.Sound (world : World) : Prop :=
  ∀ name value, Table.get? world.scope name = some value → value.MadeBy world.nextMark

theorem Datum.MadeBy.mono {bound larger : Mark} {datum : Datum} (made : datum.MadeBy bound)
    (atMost : bound ≤ larger) : datum.MadeBy larger :=
  Alike.mono (Pairing.below_le_below atMost) made

/-! ### One of two runs -/

section Left

variable {view : View} {pairing later : Pairing}

theorem MarksAlike.left (covers : ∀ mark other, pairing.Paired mark other → later.Paired mark mark)
    {mark mark' : Option Mark} (marks : MarksAlike pairing mark mark') :
    MarksAlike later mark mark := by
  cases marks with
  | none => exact .none
  | some paired => exact .some (covers _ _ paired)

mutual

/-- What is alike in two runs is like itself if the marks of the first run are paired with
themselves. -/
theorem Alike.left (covers : ∀ mark other, pairing.Paired mark other → later.Paired mark mark) :
    {datum datum' : Datum} → Alike view pairing datum datum' → Alike view later datum datum
  | _, _, .nil => .nil
  | _, _, .bool value => .bool value
  | _, _, .int value => .int value
  | _, _, .double value => .double value
  | _, _, .nan paired => .nan (covers _ _ paired)
  | _, _, .string text => .string text
  | _, _, .symbol allowed name => .symbol allowed name
  | _, _, .list marks parts => .list (marks.left covers) (parts.left covers)
  | _, _, .object paired parts => .object (covers _ _ paired) (parts.left covers)
  | _, _, .closure paired fit bindings =>
      .closure (covers _ _ paired) (fit.left covers) fun name needed =>
        (bindings name needed).left covers

theorem ItemsAlike.left
    (covers : ∀ mark other, pairing.Paired mark other → later.Paired mark mark) :
    {items items' : List Datum} → ItemsAlike view pairing items items' →
      ItemsAlike view later items items
  | _, _, .nil => .nil
  | _, _, .cons first others => .cons (first.left covers) (others.left covers)

theorem FieldsAlike.left
    (covers : ∀ mark other, pairing.Paired mark other → later.Paired mark mark) :
    {fields fields' : List (String × Datum)} → FieldsAlike view pairing fields fields' →
      FieldsAlike view later fields fields
  | _, _, .nil => .nil
  | _, _, .cons name first others => .cons name (first.left covers) (others.left covers)

theorem BindingsAlike.left
    (covers : ∀ mark other, pairing.Paired mark other → later.Paired mark mark) :
    {binding binding' : Option Datum} → BindingsAlike view pairing binding binding' →
      BindingsAlike view later binding binding
  | _, _, .none => .none
  | _, _, .some alike => .some (alike.left covers)

theorem Fit.left (covers : ∀ mark other, pairing.Paired mark other → later.Paired mark mark) :
    {expression : Datum} → Fit view pairing expression → Fit view later expression
  | _, .symbol name => .symbol name
  | _, .list mark parts => .list mark fun item mem => (parts item mem).left covers
  | _, .literal alike => .literal (alike.left covers)

end

end Left

/-! ### Parallel worlds -/

/-- Two worlds that bind everything alike, with no marks paired but drawn ones. -/
structure Parallel (pairing : Pairing) (world world' : World) : Prop where
  scope (name : String) :
    BindingsAlike .whole pairing (Table.get? world.scope name) (Table.get? world'.scope name)
  log : world.log = world'.log
  seed : world.seed = world'.seed
  drawn : pairing.Drawn world world'

namespace Parallel

variable {pairing : Pairing} {world world' : World}

/-- Marks that are drawn from now on can be paired, since none of them is. -/
theorem worlds (parallel : Parallel pairing world world') :
    WorldsAlike .whole pairing (fun _ => True) world world' := by
  refine ⟨fun name _ => parallel.scope name, parallel.log, parallel.seed, fun more => ?_⟩
  constructor
  · intro third paired
    exact absurd (parallel.drawn _ _ paired).1 (Nat.not_lt.mpr (Nat.le_add_right _ more))
  · intro third paired
    exact absurd (parallel.drawn _ _ paired).2 (Nat.not_lt.mpr (Nat.le_add_right _ more))

/-- Parallel worlds stay parallel in other scopes that are alike. -/
theorem enter (parallel : Parallel pairing world world') {inner inner' : Scope}
    (scopes : ∀ name,
      BindingsAlike .whole pairing (Table.get? inner name) (Table.get? inner' name)) :
    Parallel pairing { world with scope := inner } { world' with scope := inner' } :=
  ⟨scopes, parallel.log, parallel.seed, parallel.drawn⟩

theorem mono {later : Pairing} (grows : pairing ≤ later) (drawn : later.Drawn world world')
    (parallel : Parallel pairing world world') : Parallel later world world' :=
  ⟨fun name => (parallel.scope name).mono grows, parallel.log, parallel.seed, drawn⟩

/-- What is alike in parallel worlds is made by the moment of the first. -/
theorem madeBy (parallel : Parallel pairing world world') {datum datum' : Datum}
    (alike : Alike .whole pairing datum datum') : datum.MadeBy world.nextMark := by
  apply Alike.left _ alike
  intro mark other paired
  exact ⟨rfl, (parallel.drawn mark other paired).1⟩

theorem sound (parallel : Parallel pairing world world') : world.Sound := by
  intro name value bound
  have binding := parallel.scope name
  rw [bound] at binding
  generalize Table.get? world'.scope name = other at binding
  cases binding with
  | some alike => exact parallel.madeBy alike

end Parallel

/-- A sound world is parallel to itself. -/
theorem World.Sound.parallel {world : World} (sound : world.Sound) :
    Parallel (.below world.nextMark) world world := by
  refine ⟨fun name => ?_, rfl, rfl, fun mark other paired => ⟨paired.2, paired.1 ▸ paired.2⟩⟩
  cases bound : Table.get? world.scope name with
  | none => exact .none
  | some value => exact .some (sound name value bound)

/-- A world is sound if all values in its scope were made with marks that have been drawn. -/
theorem World.sound_of_mem {world : World}
    (made : ∀ entry ∈ world.scope, entry.2.MadeBy world.nextMark) : world.Sound :=
  fun _ _ bound => made _ (Table.mem_of_get? bound)

namespace Eval

/-- Two ends in parallel worlds, with like values or with one failure; marks are paired beyond a
pairing. -/
def EndParallel (pairing : Pairing) (ended ended' : Except EvalError Datum × World) : Prop :=
  ∃ last, pairing ≤ last ∧ OutcomesAlike (Alike .whole last) ended.1 ended'.1 ∧
    Parallel last ended.2 ended'.2

variable {pairing : Pairing} {world world' : World}

/-- Runs that are alike end in parallel worlds if they start in parallel worlds. -/
theorem RunAlike.parallel {one other : Eval Datum}
    (alike : RunAlike .whole pairing (fun _ => True) (Alike .whole) one other)
    (around : Surroundings) (worlds : Parallel pairing world world') :
    EndParallel pairing (one around world) (other around world') := by
  obtain ⟨last, grows, drawn, outcome, after⟩ :=
    alike around pairing (le_refl pairing) world world' worlds.worlds
  exact ⟨last, grows, outcome, fun name => after.scope name (.inr trivial), after.log, after.seed,
    drawn worlds.drawn⟩

/-- Evaluation through any number of levels, with the default primitives. -/
theorem simulates_default (levels : Nat) :
    Simulates .whole (evaluateFor .default levels) (evaluateFor .default levels) :=
  evaluateFor_simulates (fun _ _ => Registry.parametric_of_get?) levels

/-- One expression, evaluated in parallel worlds, ends alike in parallel worlds. -/
theorem evaluateFor_parallel (levels : Nat) {expression : Datum}
    (fit : Fit .whole pairing expression) (around : Surroundings)
    (worlds : Parallel pairing world world') :
    EndParallel pairing (evaluateFor .default levels expression around world)
      (evaluateFor .default levels expression around world') :=
  (simulates_default levels pairing (fun _ => True) expression fit fun _ _ => trivial).parallel
    around worlds

/-- No mark is given back: the marks of parallel worlds that were drawn before are drawn after. -/
theorem nextMark_le_of_parallel {bound : Mark} (grows : .below bound ≤ pairing)
    (worlds : Parallel pairing world world') : bound ≤ world.nextMark := by
  by_contra above
  have paired : pairing.Paired world.nextMark world.nextMark :=
    grows _ _ ⟨rfl, Nat.lt_of_not_le above⟩
  exact Nat.lt_irrefl _ (worlds.drawn _ _ paired).1

/-- Evaluation keeps a world sound, and its value is made by the end. -/
theorem evaluateFor_made (levels : Nat) (around : Surroundings) {expression : Datum}
    (sound : world.Sound) (made : expression.MadeBy world.nextMark) :
    world.nextMark ≤ (evaluateFor .default levels expression around world).2.nextMark ∧
      (evaluateFor .default levels expression around world).2.Sound ∧
      ∀ value, (evaluateFor .default levels expression around world).1 = .ok value →
        value.MadeBy (evaluateFor .default levels expression around world).2.nextMark := by
  obtain ⟨last, grows, outcome, after⟩ :=
    evaluateFor_parallel levels (.literal made) around sound.parallel
  refine ⟨nextMark_le_of_parallel grows after, after.sound, fun value ended => ?_⟩
  rw [ended] at outcome
  cases outcome with
  | ok alike => exact after.madeBy alike

end Eval

end SandboxLisp
