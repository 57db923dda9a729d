import SandboxLisp.Proofs.Settings.Resolution
import SandboxLisp.SharedEvaluator

/-!
# The shared evaluator is never stale

What is kept under a key is what is made for that key (`Coherent`).  This holds before the first use
and is kept by every use, since both readings of the variable find the same value.  So the answers
to all uses are those of a program that keeps nothing and makes an evaluator for every use
(`answers_eq`).

The main statement is about one use among others: it is answered by an evaluator with the limit that
the value of the variable resolves to at that moment, or with the failure that it resolves to, and
what comes later is answered as if the program had started with that value (`answers_current`).
-/

namespace SandboxLisp

/-- Without offers the registry has the default primitives. -/
theorem Registry.ofOffers_nil : ofOffers [] = .ok .default := by
  have checked (entries : List (String × Primitive)) :
      (entries.map fun entry => (⟨.string entry.1, some entry.2⟩ : Offer)).mapM Offer.check =
        .ok entries := by
    induction entries with
    | nil => rfl
    | cons entry rest ih =>
      rw [List.map_cons, List.mapM_cons, ih]
      rfl
  calc
    ofOffers [] = (do
        let entries ← (defaultPrimitives.map fun entry =>
          (⟨.string entry.1, some entry.2⟩ : Offer)).mapM Offer.check
        return ⟨entries, []⟩) := rfl
    _ = .ok .default := by
      rw [checked]
      rfl

/-- A new evaluator that is left to the variable has the limit that its value gives. -/
theorem Evaluator.create_of_variable (setting : Option String) :
    create .nil [] setting = (Settings.ofVariable setting).map (⟨·, .default⟩) := by
  rw [create, Settings.maxDepth, Registry.ofOffers_nil]
  cases Settings.ofVariable setting <;> rfl

namespace SharedEvaluator

/-- What is kept under a key is what is made for a variable with the key as its value. -/
def Coherent (shared : SharedEvaluator) : Prop :=
  ∀ key evaluator, shared.kept = some (key, evaluator) → make key = .ok evaluator

theorem coherent_empty : empty.Coherent :=
  nofun

variable {shared : SharedEvaluator} {key setting : Option String}

theorem renew_coherent (coherent : shared.Coherent) (same : make setting = make key) :
    (getUnder.renew shared key setting).1 = make setting ∧
      (getUnder.renew shared key setting).2.Coherent := by
  rw [getUnder.renew]
  cases made : make setting with
  | error error => exact ⟨rfl, coherent⟩
  | ok evaluator =>
    refine ⟨rfl, fun known other kept => ?_⟩
    cases kept
    exact same.symm.trans made

/-- A use gets what is made for the value of the variable, if the same is made for the key, and what
is kept stays coherent. -/
theorem getUnder_coherent (coherent : shared.Coherent) (same : make setting = make key) :
    (shared.getUnder key setting).1 = make setting ∧
      (shared.getUnder key setting).2.Coherent := by
  rw [getUnder]
  split
  · next known evaluator kept =>
    split
    · next found =>
      subst found
      exact ⟨(same.trans (coherent known evaluator kept)).symm, coherent⟩
    · exact renew_coherent coherent same
  · exact renew_coherent coherent same

/-- If the variable changed between the two readings, an evaluator would be kept under a value that
it does not fit, and served for it later. -/
example :
    ((empty.getUnder (some "3") (some "4")).2.get (some "3")).1.toOption.map Evaluator.maxDepth =
      some 4 := by
  decide +kernel

/-- A use gets what a new evaluator gives for the value of the variable, or the failure to make one,
and what is kept stays coherent. -/
theorem serve_coherent (coherent : shared.Coherent) (setting : Option String) (use : Use) :
    (shared.serve setting use).1 = (make setting).map (use.answer ·) ∧
      (shared.serve setting use).2.Coherent := by
  obtain ⟨found, kept⟩ := getUnder_coherent coherent (rfl : make setting = make setting)
  exact ⟨congrArg (Except.map (use.answer ·)) found, kept⟩

end SharedEvaluator

namespace Program

open SharedEvaluator (Answer Use)

/-- The value that an act gives to the variable, if it changes it. -/
def Act.change? : Act → Option (Option String)
  | .set value => some (some value)
  | .unset => some none
  | .use _ => none

/-- The value of the variable after acts: the one of the last change, or else the initial one. -/
def settingAfter (initial : Option String) (acts : List Act) : Option String :=
  (acts.filterMap Act.change?).getLast?.getD initial

/-- What comes of the uses among acts, one after another. -/
def answers : Program → List Act → List (Except SettingsError Answer)
  | _, [] => []
  | program, act :: rest =>
      (program.perform act).1.toList ++ answers (program.perform act).2 rest

/-- What comes of the uses among acts if an evaluator is made for each of them. -/
def answersAnew : Option String → List Act → List (Except SettingsError Answer)
  | _, [] => []
  | _, .set value :: rest => answersAnew (some value) rest
  | _, .unset :: rest => answersAnew none rest
  | setting, .use use :: rest =>
      (SharedEvaluator.make setting).map (use.answer ·) :: answersAnew setting rest

/-- Keeping an evaluator makes no difference to what comes of the uses. -/
theorem answers_eq {program : Program} (coherent : program.shared.Coherent) (acts : List Act) :
    program.answers acts = answersAnew program.setting acts := by
  induction acts generalizing program with
  | nil => rfl
  | cons act rest ih =>
    cases act with
    | set value => exact @ih { program with setting := some value } coherent
    | unset => exact @ih { program with setting := none } coherent
    | use use =>
      obtain ⟨answer, kept⟩ := SharedEvaluator.serve_coherent coherent program.setting use
      have later := @ih (program.perform (.use use)).2 kept
      rw [answers, later, answersAnew, ← answer]
      rfl

theorem answers_start (initial : Option String) (acts : List Act) :
    (start initial).answers acts = answersAnew initial acts :=
  answers_eq SharedEvaluator.coherent_empty acts

theorem settingAfter_cons (initial : Option String) (act : Act) (rest : List Act) :
    settingAfter initial (act :: rest) = settingAfter (act.change?.getD initial) rest := by
  cases act <;> simp [settingAfter, Act.change?, List.getLast?_cons]

/-- Acts go on from the value that the variable has. -/
theorem answersAnew_append (initial : Option String) (earlier later : List Act) :
    answersAnew initial (earlier ++ later) =
      answersAnew initial earlier ++ answersAnew (settingAfter initial earlier) later := by
  induction earlier generalizing initial with
  | nil => rfl
  | cons act rest ih =>
    rw [settingAfter_cons]
    cases act with
    | set value => exact ih (some value)
    | unset => exact ih none
    | use use => exact congrArg (_ :: ·) (ih initial)

/-- A use among other acts depends on the value that the variable has at that moment, and on nothing
else of what came before.  The value resolves to one thing only, a limit or a failure: a new
evaluator gets the limit, or the failure comes of making it, and the same comes of the use.  In
either case what comes of later uses is what would come of them in a program that starts with that
value. -/
theorem answers_current (initial : Option String) (earlier later : List Act) (use : Use) :
    let setting := settingAfter initial earlier
    ∃ result : Except SettingsError Nat,
      (∀ other, Settings.Resolves setting other ↔ other = result) ∧
      Evaluator.create .nil [] setting = result.map (⟨·, .default⟩) ∧
      (start initial).answers (earlier ++ .use use :: later) =
        (start initial).answers earlier ++
          result.map (fun limit => use.answer ⟨limit, .default⟩) ::
            (start setting).answers later := by
  intro setting
  have created := Evaluator.create_of_variable setting
  refine ⟨Settings.ofVariable setting, fun other => ?_, created, ?_⟩
  · rw [Settings.resolves_iff, eq_comm]
  · have made : (SharedEvaluator.make setting).map (use.answer ·) =
        (Settings.ofVariable setting).map fun limit => use.answer ⟨limit, .default⟩ := by
      rw [SharedEvaluator.make, created]
      cases Settings.ofVariable setting <;> rfl
    simp only [answers_start]
    rw [answersAnew_append, answersAnew, made]

/-- A limit, a text without an integer, another text for the same limit, and no value. -/
example :
    ((start none).answers
        [.set "3", .use .evaluator, .set "ten", .use .evaluator, .set "\t+0_3 ", .use .evaluator,
          .unset, .use .evaluator]).map
      (fun answer => answer.toOption.map fun
        | .evaluator evaluator => evaluator.maxDepth
        | .ended .. => 0) = [some 3, none, some 3, some 100] := by
  decide +kernel

end Program

end SandboxLisp
