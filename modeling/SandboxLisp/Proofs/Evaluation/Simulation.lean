import SandboxLisp.Eval.Calls
import SandboxLisp.Proofs.Evaluation.Observation
import SandboxLisp.Proofs.Number.Conversion

/-!
# Computations that run alike

Two computations run alike if they end alike in any two worlds that are alike: with values in a given
relation or with one failure, and in worlds that are alike again.  The marks that they draw on the
way are paired, so the pairing grows, and what was alike before stays alike.

A computation is plain if its outcome depends on the surroundings only and it leaves the world as it
is.  A plain computation runs like itself, and most of what is asked of data is plain and the same
for like data.
-/

namespace SandboxLisp

/-- A failure that evaluation can end in without reading anything.  Whatever goes wrong inside an
elementary function is reported under the name of the function, so the domain or the range of one is
never at fault by itself. -/
def EvalError.Arises : EvalError → Prop
  | .number cause => cause.isOfConversion
  | .reading _ => False
  | _ => True

/-- Outcomes with related values, or with one failure. -/
inductive OutcomesAlike {α : Type} (Result : α → α → Prop) :
    Except EvalError α → Except EvalError α → Prop where
  | ok {value value' : α} (alike : Result value value') :
      OutcomesAlike Result (.ok value) (.ok value')
  | error {cause : EvalError} (arises : cause.Arises) :
      OutcomesAlike Result (.error cause) (.error cause)

theorem OutcomesAlike.imp {α : Type} {First Second : α → α → Prop}
    {outcome outcome' : Except EvalError α} (alike : OutcomesAlike First outcome outcome')
    (weaker : ∀ value value', First value value' → Second value value') :
    OutcomesAlike Second outcome outcome' := by
  cases alike with
  | ok related => exact .ok (weaker _ _ related)
  | error arises => exact .error arises

theorem OutcomesAlike.bind {α β : Type} {First : α → α → Prop} {Second : β → β → Prop}
    {outcome outcome' : Except EvalError α} {next next' : α → Except EvalError β}
    (one : OutcomesAlike First outcome outcome')
    (goOn : ∀ value value', First value value' → OutcomesAlike Second (next value) (next' value')) :
    OutcomesAlike Second (outcome >>= next) (outcome' >>= next') := by
  cases one with
  | ok related => exact goOn _ _ related
  | error arises => exact .error arises

/-- Two worlds that are alike as far as the shared names, and some more, are concerned.  Marks that
are drawn from now on can be paired. -/
structure WorldsAlike (view : View) (pairing : Pairing) (names : String → Prop)
    (world world' : World) : Prop where
  scope : ScopesAlike view pairing names world.scope world'.scope
  log : world.log = world'.log
  seed : world.seed = world'.seed
  fresh : ∀ more, pairing.Admits (world.nextMark + more) (world'.nextMark + more)

/-- A world is like itself if symbols may be values. -/
theorem WorldsAlike.refl {view : View} (allowed : view.symbols) (names : String → Prop)
    (world : World) : WorldsAlike view .same names world world := by
  constructor
  · exact fun name _ => BindingsAlike.refl allowed world.scope name
  · rfl
  · rfl
  · exact fun more => Pairing.admits_same _

/-- Only marks that have been drawn in two worlds are paired. -/
def Pairing.Drawn (pairing : Pairing) (world world' : World) : Prop :=
  ∀ mark other, pairing.Paired mark other → mark < world.nextMark ∧ other < world'.nextMark

/-- Two ends of computations that are alike. -/
structure EndsAlike (view : View) (pairing : Pairing) (names : String → Prop) {α : Type}
    (Result : α → α → Prop) (ended ended' : Except EvalError α × World) : Prop where
  outcome : OutcomesAlike Result ended.1 ended'.1
  world : WorldsAlike view pairing names ended.2 ended'.2

namespace Eval

variable {α β γ : Type}

/-- Two computations end alike in any two worlds that are alike, and pair no marks but those that
they draw. -/
def RunAlike (view : View) (pairing : Pairing) (names : String → Prop)
    (Result : Pairing → α → α → Prop) (one other : Eval α) : Prop :=
  ∀ around later, pairing ≤ later → ∀ world world', WorldsAlike view later names world world' →
    ∃ last, later ≤ last ∧
      (later.Drawn world world' → last.Drawn (one around world).2 (other around world').2) ∧
      EndsAlike view last names (Result last) (one around world) (other around world')

/-- The relation of equal values, whatever marks are paired. -/
def Same : Pairing → α → α → Prop :=
  fun _ => Eq

/-- A relation of values that stay related when more marks are paired. -/
def Grows (Result : Pairing → α → α → Prop) : Prop :=
  ∀ pairing later, pairing ≤ later → ∀ value value', Result pairing value value' →
    Result later value value'

/-! ### Plain computations -/

/-- A computation whose outcome depends on its surroundings only and that changes nothing. -/
def Plain (computation : Eval α) : Prop :=
  ∀ around, ∃ outcome, OutcomesAlike Eq outcome outcome ∧
    ∀ world, computation around world = (outcome, world)

namespace Plain

theorem pure (value : α) : Plain (pure value : Eval α) :=
  fun _ => ⟨.ok value, .ok rfl, fun _ => rfl⟩

theorem fail {cause : EvalError} (arises : cause.Arises) : Plain (fail cause : Eval α) :=
  fun _ => ⟨.error cause, .error arises, fun _ => rfl⟩

theorem bind {first : Eval α} {next : α → Eval β} (one : Plain first)
    (other : ∀ value, Plain (next value)) : Plain (first >>= next) := by
  intro around
  obtain ⟨outcome, arises, first_eq⟩ := one around
  cases arises with
  | @ok value _ same =>
    obtain ⟨last, arises, next_eq⟩ := other value around
    constructor
    constructor
    · exact arises
    · intro world
      rw [bind_apply, first_eq]
      exact next_eq world
  | @error cause arises =>
    constructor
    constructor
    · exact .error arises
    · intro world
      rw [bind_apply, first_eq]

theorem mapM {function : α → Eval β} (plain : ∀ value, Plain (function value))
    (values : List α) : Plain (values.mapM function) := by
  induction values with
  | nil =>
    rw [List.mapM_nil]
    exact pure []
  | cons value rest ih =>
    rw [List.mapM_cons]
    exact (plain value).bind fun first => ih.bind fun others => pure (first :: others)

theorem foldlM {step : β → α → Eval β} (plain : ∀ state value, Plain (step state value))
    (values : List α) (start : β) : Plain (values.foldlM step start) := by
  induction values generalizing start with
  | nil =>
    rw [List.foldlM_nil]
    exact pure start
  | cons value rest ih =>
    rw [List.foldlM_cons]
    exact (plain start value).bind fun state => ih state

theorem ask {next : Surroundings → Eval α} (plain : ∀ around, Plain (next around)) :
    Plain (surroundings >>= next) :=
  fun around => plain around around

theorem ofExcept {outcome : Except EvalError α} (arises : OutcomesAlike Eq outcome outcome) :
    Plain (ofExcept outcome) := by
  cases arises with
  | ok _ => exact pure _
  | error arises => exact fail arises

theorem ofNumber {outcome : Except NumberError α} (converts : Converts outcome) :
    Plain (ofNumber outcome) := by
  cases outcome with
  | ok value => exact pure value
  | error cause => exact fail converts

theorem text (form : TextForm) (datum : Datum) : Plain (text form datum) := by
  apply ask
  intro around
  apply ofExcept
  unfold Surroundings.text
  cases datum.textWithin form around.levels with
  | ok shown => exact .ok rfl
  | error fault =>
    cases fault with
    | tooDeep => exact .error trivial
    | integerTooLong => exact .error rfl

theorem checkNesting (datum : Datum) : Plain (checkNesting datum) := by
  apply ask
  intro around
  split
  · exact fail trivial
  · exact pure ()

end Plain

/-! ### Computations in two worlds -/

namespace RunAlike

variable {view : View} {pairing : Pairing} {names : String → Prop}
  {Result First Second : Pairing → α → α → Prop}

theorem mono {one other : Eval α} {later : Pairing}
    (alike : RunAlike view pairing names Result one other) (grows : pairing ≤ later) :
    RunAlike view later names Result one other :=
  fun around further beyond => alike around further (grows.trans beyond)

/-- Values that are related at the end may be known to be related in a weaker way. -/
theorem weaken {one other : Eval α} (alike : RunAlike view pairing names First one other)
    (weaker : ∀ later, pairing ≤ later → ∀ value value', First later value value' →
      Second later value value') :
    RunAlike view pairing names Second one other := by
  intro around later grows world world' worlds
  obtain ⟨last, further, drawn, outcome, after⟩ := alike around later grows world world' worlds
  exact ⟨last, further, drawn, outcome.imp (weaker last (grows.trans further)), after⟩

theorem pure {value value' : α}
    (related : ∀ later, pairing ≤ later → Result later value value') :
    RunAlike view pairing names Result (pure value) (Pure.pure value') :=
  fun _ later grows _ _ worlds =>
    ⟨later, le_refl later, fun drawn => drawn, .ok (related later grows), worlds⟩

theorem fail {cause : EvalError} (arises : cause.Arises) :
    RunAlike view pairing names Result (fail cause) (Eval.fail cause) :=
  fun _ later _ _ _ worlds =>
    ⟨later, le_refl later, fun drawn => drawn, .error arises, worlds⟩

/-- Sequences run alike if what goes on runs alike from values that are related. -/
theorem bind {First : Pairing → β → β → Prop} {first first' : Eval β} {next next' : β → Eval α}
    (one : RunAlike view pairing names First first first')
    (goOn : ∀ later, pairing ≤ later → ∀ value value', First later value value' →
      RunAlike view later names Result (next value) (next' value')) :
    RunAlike view pairing names Result (first >>= next) (first' >>= next') := by
  intro around later grows world world' worlds
  obtain ⟨middle, further, drawn, outcome, after⟩ := one around later grows world world' worlds
  rw [bind_apply, bind_apply]
  generalize first around world = ended, first' around world' = ended' at drawn outcome after ⊢
  obtain ⟨result, reached⟩ := ended
  obtain ⟨result', reached'⟩ := ended'
  cases outcome with
  | ok related =>
    obtain ⟨last, beyond, drawnLast, ends⟩ := goOn middle (grows.trans further) _ _ related around
      middle (le_refl middle) reached reached' after
    exact ⟨last, further.trans beyond, fun before => drawnLast (drawn before), ends⟩
  | error arises => exact ⟨middle, further, drawn, .error arises, after⟩

theorem map {First : Pairing → β → β → Prop} {one other : Eval β} {function function' : β → α}
    (alike : RunAlike view pairing names First one other)
    (related : ∀ later, pairing ≤ later → ∀ value value', First later value value' →
      ∀ last, later ≤ last → Result last (function value) (function' value')) :
    RunAlike view pairing names Result (function <$> one) (function' <$> other) :=
  alike.bind fun later grows value value' same => pure (related later grows value value' same)

/-- A plain computation runs like itself. -/
theorem plain {computation : Eval α} (plain : Plain computation) :
    RunAlike view pairing names Same computation computation := by
  intro around later _ world world' worlds
  obtain ⟨outcome, arises, ends⟩ := plain around
  rw [ends, ends]
  exact ⟨later, le_refl later, fun drawn => drawn, arises, worlds⟩

/-- What goes on from one value has to run alike for each value only. -/
theorem bindSame {first first' : Eval β} {next next' : β → Eval α}
    (one : RunAlike view pairing names Same first first')
    (goOn : ∀ value, RunAlike view pairing names Result (next value) (next' value)) :
    RunAlike view pairing names Result (first >>= next) (first' >>= next') := by
  apply one.bind
  rintro later grows value _ rfl
  exact (goOn value).mono grows

theorem mapSame {one other : Eval β} {function function' : β → α}
    (alike : RunAlike view pairing names Same one other)
    (related : ∀ later, pairing ≤ later → ∀ value,
      Result later (function value) (function' value)) :
    RunAlike view pairing names Result (function <$> one) (function' <$> other) :=
  alike.bindSame fun value => pure fun later grows => related later grows value

theorem ask {next next' : Surroundings → Eval α}
    (alike : ∀ around, RunAlike view pairing names Result (next around) (next' around)) :
    RunAlike view pairing names Result (surroundings >>= next) (surroundings >>= next') :=
  fun around => alike around around

theorem ofExcept {outcome outcome' : Except EvalError α}
    (alike : ∀ later, pairing ≤ later → OutcomesAlike (Result later) outcome outcome') :
    RunAlike view pairing names Result (ofExcept outcome) (Eval.ofExcept outcome') := by
  cases alike pairing (le_refl pairing) with
  | ok related =>
    apply pure
    intro later grows
    cases alike later grows with
    | ok related => exact related
  | error arises => exact fail arises

/-! ### Lists of computations -/

/-- A function runs alike for values of two lists that are related one by one. -/
theorem mapM {δ : Type} {Given : δ → δ → Prop} {function function' : δ → Eval α}
    {values values' : List δ} (given : List.Forall₂ Given values values')
    (grows : Grows Result)
    (alike : ∀ later, pairing ≤ later → ∀ value value', Given value value' →
      RunAlike view later names Result (function value) (function' value')) :
    RunAlike view pairing names (fun last => List.Forall₂ (Result last)) (values.mapM function)
      (values'.mapM function') := by
  induction given generalizing pairing with
  | nil =>
    rw [List.mapM_nil, List.mapM_nil]
    exact pure fun _ _ => .nil
  | cons first _ ih =>
    rw [List.mapM_cons, List.mapM_cons]
    apply (alike pairing (le_refl pairing) _ _ first).bind
    intro later beyond value value' related
    apply (ih fun last further => alike last (beyond.trans further)).bind
    intro last further others others' relatedOthers
    apply pure
    intro final later_le
    have growsOthers : List.Forall₂ (Result final) others others' :=
      relatedOthers.imp fun _ _ same => grows last final later_le _ _ same
    exact .cons (grows later final (further.trans later_le) _ _ related) growsOthers

/-- A fold runs alike from states that are related. -/
theorem foldlM {δ : Type} {Given : δ → δ → Prop} {step step' : α → δ → Eval α}
    {values values' : List δ} (given : List.Forall₂ Given values values')
    (alike : ∀ later, pairing ≤ later → ∀ state state', Result later state state' →
      ∀ value value', Given value value' →
        RunAlike view later names Result (step state value) (step' state' value'))
    (grows : Grows Result) {start start' : α} (related : Result pairing start start') :
    RunAlike view pairing names Result (values.foldlM step start)
      (values'.foldlM step' start') := by
  induction given generalizing pairing start start' with
  | nil =>
    rw [List.foldlM_nil, List.foldlM_nil]
    exact pure fun later beyond => grows pairing later beyond _ _ related
  | cons first _ ih =>
    rw [List.foldlM_cons, List.foldlM_cons]
    apply (alike pairing (le_refl pairing) _ _ related _ _ first).bind
    intro later beyond state state' relatedStates
    exact ih (fun last further => alike last (beyond.trans further)) relatedStates

/-! ### What changes the world -/

theorem scope : RunAlike view pairing names
    (fun last => ScopesAlike view last names) Eval.scope Eval.scope :=
  fun _ later _ _ _ worlds =>
    ⟨later, le_refl later, fun drawn => drawn, .ok worlds.scope, worlds⟩

theorem define (name : String) {value value' : Datum} (alike : Alike view pairing value value') :
    RunAlike view pairing names Same (define name value) (Eval.define name value') := by
  intro around later grows world world' worlds
  have written := worlds.scope.put name (alike.mono grows)
  exact ⟨later, le_refl later, fun drawn => drawn, .ok rfl, written, worlds.log, worlds.seed,
    worlds.fresh⟩

/-- Computations in scopes of their own run alike if these are alike, whatever is known of the
scopes outside. -/
theorem inScope {inside : String → Prop} {inner inner' : Scope} {one other : Eval α}
    (scopes : ScopesAlike view pairing inside inner inner')
    (alike : RunAlike view pairing inside Result one other) :
    RunAlike view pairing names Result (inScope inner one) (Eval.inScope inner' other) := by
  intro around later grows world world' worlds
  have entered : WorldsAlike view later inside { world with scope := inner }
      { world' with scope := inner' } :=
    ⟨scopes.mono grows, worlds.log, worlds.seed, worlds.fresh⟩
  obtain ⟨last, further, drawn, outcome, after⟩ := alike around later grows _ _ entered
  exact ⟨last, further, drawn, outcome, worlds.scope.mono further, after.log, after.seed,
    after.fresh⟩

theorem logLine (line : String) :
    RunAlike view pairing names Same (logLine line) (Eval.logLine line) := by
  intro around later _ world world' worlds
  have logged : world.log ++ [line] = world'.log ++ [line] := congrArg (· ++ [line]) worlds.log
  exact ⟨later, le_refl later, fun drawn => drawn, .ok rfl, worlds.scope, logged, worlds.seed,
    worlds.fresh⟩

theorem nextSeed : RunAlike view pairing names Same nextSeed Eval.nextSeed := by
  rintro around later _ ⟨scope, log, mark, seed⟩ ⟨scope', log', mark', seed'⟩
    ⟨scopes, rfl, rfl, fresh⟩
  exact ⟨later, le_refl later, fun drawn mark other paired => drawn mark other paired, .ok rfl,
    scopes, rfl, rfl, fresh⟩

/-- The marks that two runs draw are paired from then on. -/
theorem freshMark : RunAlike view pairing names Pairing.Paired freshMark Eval.freshMark := by
  intro around later _ world world' worlds
  have admits := worlds.fresh 0
  have grows : later ≤ later.add _ _ admits := fun _ _ paired => .inl paired
  have drawn (before : later.Drawn world world') : (later.add _ _ admits).Drawn
      { world with nextMark := world.nextMark + 1 }
      { world' with nextMark := world'.nextMark + 1 } := by
    rintro mark other (paired | ⟨rfl, rfl⟩)
    · exact (before mark other paired).imp Nat.lt_succ_of_lt Nat.lt_succ_of_lt
    · exact ⟨Nat.lt_succ_self _, Nat.lt_succ_self _⟩
  refine ⟨later.add _ _ admits, grows, drawn, .ok (.inr ⟨rfl, rfl⟩), worlds.scope.mono grows,
    worlds.log, worlds.seed, ?_⟩
  intro more
  have next := worlds.fresh (1 + more)
  rw [← Nat.add_assoc, ← Nat.add_assoc] at next
  have moved (mark : Nat) : mark + 1 + more ≠ mark := by omega
  constructor
  · rintro third (paired | ⟨same, _⟩)
    · exact next.1 third paired
    · exact absurd same (moved _)
  · rintro third (paired | ⟨_, same⟩)
    · exact next.2 third paired
    · exact absurd same (moved _)

/-! ### Data made now -/

theorem number (value : Number) :
    RunAlike view pairing names (Alike view) (number value) (Eval.number value) := by
  cases value with
  | int value => exact pure fun _ _ => .int value
  | double value => exact pure fun _ _ => .double value
  | nan => exact freshMark.map fun later _ _ _ paired last grows => .nan (grows _ _ paired)

theorem newList {items items' : List Datum} (alike : ItemsAlike view pairing items items') :
    RunAlike view pairing names (Alike view) (newList items) (Eval.newList items') := by
  apply freshMark.map
  intro later grows mark mark' paired last further
  exact .list (.some (further _ _ paired)) (alike.mono (grows.trans further))

theorem newObject {fields fields' : List (String × Datum)}
    (alike : FieldsAlike view pairing fields fields') :
    RunAlike view pairing names (Alike view) (newObject fields) (Eval.newObject fields') := by
  apply freshMark.map
  intro later grows mark mark' paired last further
  exact .object (further _ _ paired) (alike.mono (grows.trans further))

theorem closure (params : List String) {body : Datum} (self : Option String)
    (fit : Fit view pairing body) (needed : ∀ name, body.Needs name → names name) :
    RunAlike view pairing names (Alike view) (closure params body self)
      (Eval.closure params body self) := by
  apply freshMark.bind
  intro later grows mark mark' paired
  apply scope.map
  intro last further captured captured' scopes final beyond
  have whole := further.trans beyond
  apply Alike.closure (whole _ _ paired) (fit.mono (grows.trans whole))
  intro name looked
  exact (scopes name (looked.imp_right (needed name))).mono beyond

end RunAlike

theorem grows_alike (view : View) : Grows (Alike view) :=
  fun _ _ grows _ _ alike => alike.mono grows

/-! ### What is asked of data -/

/-- A question about a datum: it is plain, and its answer is the same for like data. -/
structure Asks (view : View) (question : Datum → Eval α) : Prop where
  plain (datum : Datum) : Plain (question datum)
  same {pairing : Pairing} {datum datum' : Datum} (alike : Alike view pairing datum datum') :
    question datum = question datum'

namespace Asks

variable {view : View} {pairing : Pairing} {names : String → Prop} {question : Datum → Eval α}

theorem runAlike (asks : Asks view question) {datum datum' : Datum}
    (alike : Alike view pairing datum datum') :
    RunAlike view pairing names Same (question datum) (question datum') := by
  rw [asks.same alike]
  exact .plain (asks.plain datum')

theorem mapM (asks : Asks view question) {items items' : List Datum}
    (alike : ItemsAlike view pairing items items') :
    RunAlike view pairing names Same (items.mapM question) (items'.mapM question) := by
  have same : items.mapM question = items'.mapM question := by
    induction items generalizing items' with
    | nil =>
      cases alike
      rfl
    | cons item rest ih =>
      cases alike with
      | cons first others => rw [List.mapM_cons, List.mapM_cons, asks.same first, ih others]
  rw [same]
  exact .plain (.mapM asks.plain items')

end Asks

section Questions

variable {view : View} {pairing : Pairing} {names : String → Prop} {datum datum' : Datum}

theorem asks_text (view : View) (form : TextForm) : Asks view (text form) := by
  constructor
  · exact Plain.text form
  · intro pairing datum datum' alike
    unfold text Surroundings.text
    simp only [alike.textWithin_eq]

/-- Like data are equal alike, or nested too deep alike. -/
theorem equal_alike (around : Surroundings) (matching : Datum.Matching)
    {first first' second second' : Datum} (one : Alike view pairing first first')
    (another : Alike view pairing second second') :
    OutcomesAlike Eq (around.equal matching first second)
      (around.equal matching first' second') := by
  unfold Surroundings.equal
  split
  · next bound _ =>
    rw [one.equalWithin_eq matching bound another]
    cases first'.equalWithin matching bound second' with
    | some answer => exact .ok rfl
    | none => exact .error trivial
  · exact .ok (one.equalBy_eq matching another)

theorem RunAlike.equal {first first' second second' : Datum}
    (one : Alike view pairing first first') (another : Alike view pairing second second') :
    RunAlike view pairing names Same (equal first second) (Eval.equal first' second') :=
  .ask fun around => .ofExcept fun _ _ => equal_alike around .strict one another

/-- Comparisons of like data have one answer or show the same names of types. -/
theorem relate_alike (around : Surroundings) (relation : Relation)
    {first first' second second' : Datum} (one : Alike view pairing first first')
    (another : Alike view pairing second second') :
    OutcomesAlike (fun answer answer' => Datum.blame answer = Datum.blame answer')
      (around.relate relation first second) (around.relate relation first' second') := by
  unfold Surroundings.relate
  split
  · next bound _ =>
    have same := one.relateWithin_eq relation bound another
    generalize first.relateWithin relation bound second = answer,
      first'.relateWithin relation bound second' = answer' at same
    cases answer with
    | none =>
      cases answer' with
      | none => exact .error trivial
      | some _ => cases same
    | some _ =>
      cases answer' with
      | none => cases same
      | some _ => exact .ok (Option.some.inj same)
  · exact .ok (one.relate_eq relation another)

theorem expectedError_eq (alike : Alike view pairing datum datum') (name : String)
    (what : Expectation) : expectedError name what datum = expectedError name what datum' := by
  unfold expectedError
  rw [alike.typeName_eq]

theorem RunAlike.expectList (name : String) (alike : Alike view pairing datum datum') :
    RunAlike view pairing names (ItemsAlike view) (expectList name datum)
      (Eval.expectList name datum') := by
  have reported := expectedError_eq alike name .list
  cases alike with
  | list _ parts => exact .pure fun _ grows => parts.mono grows
  | _ =>
    unfold Eval.expectList
    dsimp only
    rw [reported]
    exact .fail trivial

end Questions

end Eval

end SandboxLisp
