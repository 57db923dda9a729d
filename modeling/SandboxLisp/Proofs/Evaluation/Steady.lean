import SandboxLisp.Eval.Monad
import SandboxLisp.Proofs.Data.Nesting

/-!
# Steady computations

A computation is steady if it neither looks at the bindings of its place nor changes them, if it only
adds to the log, and if the depth limit makes no difference to it as long as data may be nested at
will.  Everything is steady that is put together from steady parts; so are the texts of data and
their equality, since the limit only shows in the failure of a walk that goes too deep, and without a
bound no walk does.
-/

namespace SandboxLisp

/-- Surroundings with a depth limit and no bound on the nesting of data. -/
def Surroundings.limited (clock : Number) (limit : Nat) : Surroundings :=
  ⟨limit, none, clock⟩

/-- Without a bound on levels the limit does not show in a text. -/
theorem Surroundings.text_limited (clock : Number) (limit other : Nat) (form : TextForm)
    (datum : Datum) :
    (limited clock limit).text form datum = (limited clock other).text form datum := by
  unfold text limited
  cases written : datum.textWithin form none with
  | ok shown => rfl
  | error fault =>
      cases fault with
      | tooDeep => exact absurd written (datum.textWithin_none_ne_tooDeep form)
      | integerTooLong => rfl

/-- The world if some lines had been logged before all others. -/
def World.logAfter (earlier : List String) (world : World) : World :=
  { world with log := earlier ++ world.log }

namespace Eval

/-- A computation that has nothing to do with the bindings of its place, with what is logged already
and with the limit. -/
structure Steady {α : Type} (computation : Eval α) : Prop where
  /-- Other bindings change nothing and are left as they are. -/
  unscoped (around : Surroundings) (world : World) (scope : Scope) :
    computation around { world with scope } =
      ((computation around world).1, { (computation around world).2 with scope })
  /-- Lines that were logged before change nothing and stay in front. -/
  unlogged (around : Surroundings) (earlier : List String) (world : World) :
    computation around (world.logAfter earlier) =
      ((computation around world).1, (computation around world).2.logAfter earlier)
  /-- Another limit changes nothing if data may be nested at will. -/
  unlimited (clock : Number) (limit other : Nat) (world : World) :
    computation (.limited clock limit) world = computation (.limited clock other) world

namespace Steady

variable {α β : Type}

/-- A steady computation leaves the bindings as they are. -/
theorem scope_eq {computation : Eval α} (steady : Steady computation) (around : Surroundings)
    (world : World) : (computation around world).2.scope = world.scope := by
  have same := steady.unscoped around world world.scope
  exact congrArg (fun result => result.2.scope) same

theorem pure (value : α) : Steady (pure value : Eval α) :=
  ⟨fun _ _ _ => rfl, fun _ _ _ => rfl, fun _ _ _ _ => rfl⟩

theorem fail (error : EvalError) : Steady (fail error : Eval α) :=
  ⟨fun _ _ _ => rfl, fun _ _ _ => rfl, fun _ _ _ _ => rfl⟩

theorem bind {first : Eval α} {next : α → Eval β} (one : Steady first)
    (other : ∀ value, Steady (next value)) : Steady (first >>= next) := by
  constructor
  · intro around world scope
    rw [bind_apply, bind_apply, one.unscoped]
    cases first around world with
    | mk outcome after =>
        cases outcome with
        | ok value => exact (other value).unscoped around after scope
        | error error => rfl
  · intro around earlier world
    rw [bind_apply, bind_apply, one.unlogged]
    cases first around world with
    | mk outcome after =>
        cases outcome with
        | ok value => exact (other value).unlogged around earlier after
        | error error => rfl
  · intro clock limit limit' world
    rw [bind_apply, bind_apply, one.unlimited clock limit limit']
    cases first (.limited clock limit') world with
    | mk outcome after =>
        cases outcome with
        | ok value => exact (other value).unlimited clock limit limit' after
        | error error => rfl

theorem map {computation : Eval α} (function : α → β) (steady : Steady computation) :
    Steady (function <$> computation) :=
  steady.bind fun value => pure (function value)

/-- Looking at the surroundings is steady if the limit is not used. -/
theorem ask {next : Surroundings → Eval α} (steady : ∀ around, Steady (next around))
    (same : ∀ clock limit other, next (.limited clock limit) = next (.limited clock other)) :
    Steady (surroundings >>= next) := by
  constructor
  · intro around world scope
    exact (steady around).unscoped around world scope
  · intro around earlier world
    exact (steady around).unlogged around earlier world
  · intro clock limit other world
    rw [bind_apply, bind_apply]
    simp only [surroundings, same clock limit other]
    exact (steady (.limited clock other)).unlimited clock limit other world

theorem mapM {function : α → Eval β} (steady : ∀ value, Steady (function value)) :
    (values : List α) → Steady (values.mapM function)
  | [] => by
      rw [List.mapM_nil]
      exact pure []
  | value :: rest => by
      rw [List.mapM_cons]
      exact (steady value).bind fun first => (mapM steady rest).bind fun others =>
        pure (first :: others)

theorem foldlM {step : β → α → Eval β} (steady : ∀ result value, Steady (step result value)) :
    (values : List α) → (start : β) → Steady (values.foldlM step start)
  | [], start => by
      rw [List.foldlM_nil]
      exact pure start
  | value :: rest, start => by
      rw [List.foldlM_cons]
      exact (steady start value).bind fun result => foldlM steady rest result

theorem ofExcept (outcome : Except EvalError α) : Steady (ofExcept outcome) := by
  cases outcome with
  | ok value => exact pure value
  | error error => exact fail error

theorem ofNumber (outcome : Except NumberError α) : Steady (ofNumber outcome) := by
  cases outcome with
  | ok value => exact pure value
  | error error => exact fail (.number error)

theorem freshMark : Steady freshMark :=
  ⟨fun _ _ _ => rfl, fun _ _ _ => rfl, fun _ _ _ _ => rfl⟩

theorem nextSeed : Steady nextSeed := by
  refine ⟨fun _ _ _ => rfl, fun _ _ world => ?_, fun _ _ _ _ => rfl⟩
  obtain ⟨scope, log, mark, seed⟩ := world
  rfl

theorem logLine (line : String) : Steady (logLine line) := by
  refine ⟨fun _ _ _ => rfl, fun _ earlier world => ?_, fun _ _ _ _ => rfl⟩
  have logged : (earlier ++ world.log) ++ [line] = earlier ++ (world.log ++ [line]) :=
    List.append_assoc ..
  simp only [Eval.logLine, World.logAfter, logged]

theorem number (value : Number) : Steady (number value) := by
  cases value with
  | int value => exact pure _
  | double value => exact pure _
  | nan => exact freshMark.bind fun _ => pure _

theorem newList (items : List Datum) : Steady (newList items) :=
  freshMark.bind fun _ => pure _

theorem newObject (fields : List (String × Datum)) : Steady (newObject fields) :=
  freshMark.bind fun _ => pure _

theorem text (form : TextForm) (datum : Datum) : Steady (text form datum) := by
  apply ask
  · intro around
    exact ofExcept (around.text form datum)
  · intro clock limit other
    rw [Surroundings.text_limited clock limit other]

theorem equal (first second : Datum) : Steady (equal first second) := by
  apply ask
  · intro around
    exact ofExcept (around.equal .strict first second)
  · intro clock limit other
    rfl

end Steady

end Eval

end SandboxLisp
