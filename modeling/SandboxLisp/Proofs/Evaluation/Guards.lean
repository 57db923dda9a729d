import SandboxLisp.Proofs.Data.Symbols
import SandboxLisp.Proofs.Data.Tables
import SandboxLisp.Proofs.Evaluation.CallPaths
import SandboxLisp.Proofs.Evaluation.Congruence
import SandboxLisp.Proofs.Evaluation.Failures

/-!
# No symbol becomes a value

Guards are set up in the evaluator.  Every evaluation of an expression or of a part of one is
stopped by an alarm if the scope in which it starts binds a symbol, and at its end if its value holds
a symbol or the scope that it leaves binds one, be it after a failure; a primitive is not called with
a symbol in its arguments.  The main statement is that guarded evaluation is evaluation: in a session
that starts without symbols in its bindings, no guard ever raises the alarm.

Two facts make up the proof.  Guarded evaluation either ends as evaluation does or in the alarm,
whatever the expression and the world are.  And it runs alike with evaluation in the view without
symbols, so it ends in no other failures than evaluation, and an alarm that evaluation cannot raise
is not among them.
-/

namespace SandboxLisp

/-- An evaluation ended with a symbol in its value or in the bindings that it leaves. -/
def LeavesSymbol (ended : Except EvalError Datum × World) : Prop :=
  (∃ value ∈ ended.1.toOption, value.HoldsSymbol) ∨ BindsSymbol ended.2.scope

instance (ended : Except EvalError Datum × World) : Decidable (LeavesSymbol ended) :=
  inferInstanceAs (Decidable (_ ∨ _))

/-- A primitive that raises an alarm instead of looking at an argument with a symbol. -/
def Primitive.guarded (alarm : EvalError) (primitive : Primitive) : Primitive :=
  fun recur arguments =>
    if ∃ argument ∈ arguments, argument.HoldsSymbol then Eval.fail alarm
    else primitive recur arguments

/-- The registry with every primitive guarded. -/
def Registry.guarded (alarm : EvalError) (registry : Registry) : Registry :=
  ⟨registry.entries.map fun entry => (entry.1, entry.2.guarded alarm), registry.offered⟩

theorem Registry.get?_guarded (alarm : EvalError) (registry : Registry) (name : String) :
    (registry.guarded alarm).get? name = (registry.get? name).map (Primitive.guarded alarm) :=
  Table.get?_map (Primitive.guarded alarm) registry.entries name

namespace Eval

/-- A computation that ends in an alarm if there is a symbol in the scope before it, in the scope
behind it or in its value. -/
def guarded (alarm : EvalError) (computation : Eval Datum) : Eval Datum :=
  fun around world =>
    if BindsSymbol world.scope then (.error alarm, world)
    else
      let ended := computation around world
      if LeavesSymbol ended then (.error alarm, ended.2) else ended

/-- Evaluation through a number of levels with guards at every step and every primitive. -/
def guardedFor (alarm : EvalError) (registry : Registry) : Nat → Datum → Eval Datum
  | 0, _ => guarded alarm tooDeep
  | levels + 1, expression =>
      guarded alarm (step (registry.guarded alarm) (guardedFor alarm registry levels) expression)

variable {alarm : EvalError} {α β : Type}

/-! ### Guarded values -/

/-- An evaluation whose values hold no symbols. -/
def GivesNoSymbol (recur : Datum → Eval Datum) : Prop :=
  ∀ expression around world value after,
    recur expression around world = (.ok value, after) → ¬ value.HoldsSymbol

theorem not_holdsSymbol_of_guarded {computation : Eval Datum} {around : Surroundings}
    {world after : World} {value : Datum}
    (ended : guarded alarm computation around world = (.ok value, after)) :
    ¬ value.HoldsSymbol := by
  unfold guarded at ended
  split at ended
  · cases ended
  · dsimp only at ended
    split at ended
    · cases ended
    · next leavesNone =>
      intro holds
      refine leavesNone (.inl ⟨value, ?_, holds⟩)
      rw [ended]
      rfl

theorem givesNoSymbol_guardedFor (registry : Registry) (levels : Nat) :
    GivesNoSymbol (guardedFor alarm registry levels) := by
  intro expression around world value after ended
  cases levels <;> exact not_holdsSymbol_of_guarded ended

/-- The values of operands hold no symbols. -/
theorem GivesNoSymbol.mapM {recur : Datum → Eval Datum} (none : GivesNoSymbol recur)
    {operands values : List Datum} {around : Surroundings} {world after : World}
    (ended : operands.mapM recur around world = (.ok values, after)) :
    ∀ value ∈ values, ¬ value.HoldsSymbol := by
  induction operands generalizing world values with
  | nil =>
    cases ended
    nofun
  | cons operand rest ih =>
    rw [List.mapM_cons] at ended
    obtain ⟨first, middle, one, ended⟩ := exists_of_bind_ok ended
    obtain ⟨others, last, more, ended⟩ := exists_of_bind_ok ended
    cases ended
    exact List.forall_mem_cons.mpr ⟨none _ _ _ _ _ one, ih more⟩

theorem bind_congr_reached {first : Eval α} {next next' : α → Eval β}
    (same : ∀ around world value after, first around world = (.ok value, after) →
      next value = next' value) : first >>= next = first >>= next' := by
  funext around world
  rw [bind_apply, bind_apply]
  cases result : first around world with
  | mk outcome after =>
    cases outcome with
    | ok value => exact congrFun (congrFun (same around world value after result) around) after
    | error error => rfl

/-- The arguments of a primitive are values of operands, so guards on the values guard it. -/
theorem GivesNoSymbol.callName {recur : Datum → Eval Datum} (none : GivesNoSymbol recur)
    (registry : Registry) (name : String) (operands : List Datum) :
    callName (registry.guarded alarm) recur name operands =
      callName registry recur name operands := by
  unfold Eval.callName
  congr 1
  funext scope
  rw [Registry.get?_guarded]
  cases (Table.get? scope name).bind Datum.closure? with
  | some function => rfl
  | none =>
    cases registry.get? name with
    | none => rfl
    | some primitive =>
      apply bind_congr_reached
      intro around world arguments after ended
      apply if_neg
      rintro ⟨argument, among, holds⟩
      exact none.mapM ended argument among holds

/-- Guarded primitives make no difference to a step whose parts are guarded. -/
theorem GivesNoSymbol.step {recur : Datum → Eval Datum} (none : GivesNoSymbol recur)
    (registry : Registry) (expression : Datum) :
    step (registry.guarded alarm) recur expression = step registry recur expression := by
  unfold Eval.step
  split
  · rfl
  · rfl
  · unfold Eval.list
    split
    · split
      · rfl
      · exact none.callName registry _ _
    · rfl
  · rfl
  · rfl

theorem guardedFor_succ (registry : Registry) (levels : Nat) (expression : Datum) :
    guardedFor alarm registry (levels + 1) expression =
      guarded alarm (step registry (guardedFor alarm registry levels) expression) := by
  rw [guardedFor, (givesNoSymbol_guardedFor registry levels).step]

/-! ### The same or the alarm -/

/-- The second of two computations ends in an alarm or as the first one does. -/
def AgreeUnless (alarm : EvalError) {α : Type} (one other : Eval α) : Prop :=
  ∀ around world,
    (other around world).1 = .error alarm ∨ other around world = one around world

namespace AgreeUnless

theorem bind {first first' : Eval α} {next next' : α → Eval β}
    (one : AgreeUnless alarm first first')
    (other : ∀ value, (∃ around world, (first around world).1 = .ok value) →
      AgreeUnless alarm (next value) (next' value)) :
    AgreeUnless alarm (first >>= next) (first' >>= next') := by
  intro around world
  rw [bind_apply, bind_apply]
  rcases one around world with raised | same
  · left
    cases result : first' around world with
    | mk outcome after =>
      rw [result] at raised
      cases raised
      rfl
  · rw [same]
    cases result : first around world with
    | mk outcome after =>
      cases outcome with
      | ok value => exact other value ⟨around, world, by rw [result]⟩ around after
      | error error => exact .inr rfl

theorem inScope (inner : Scope) {one other : Eval α} (agree : AgreeUnless alarm one other) :
    AgreeUnless alarm (inScope inner one) (Eval.inScope inner other) := by
  intro around world
  rcases agree around { world with scope := inner } with raised | same
  · exact .inl raised
  · right
    simp only [Eval.inScope, same]

theorem congruence (alarm : EvalError) : Congruence (fun _ => True) (AgreeUnless alarm) where
  steady _ _ _ := .inr rfl
  scope _ _ := .inr rfl
  define _ _ _ _ := .inr rfl
  bindReached := .bind

theorem guarded {one other : Eval Datum} (agree : AgreeUnless alarm one other) :
    AgreeUnless alarm one (guarded alarm other) := by
  intro around world
  unfold Eval.guarded
  split
  · exact .inl rfl
  · dsimp only
    split
    · exact .inl rfl
    · exact agree around world

end AgreeUnless

/-- Guarded evaluation ends as evaluation does, or in the alarm. -/
theorem evaluateFor_agreeUnless (alarm : EvalError) (levels : Nat) (expression : Datum) :
    AgreeUnless alarm (evaluateFor .default levels expression)
      (guardedFor alarm .default levels expression) := by
  induction levels generalizing expression with
  | zero => exact AgreeUnless.guarded fun _ _ => .inr rfl
  | succ levels ih =>
    rw [guardedFor_succ]
    have congruence := AgreeUnless.congruence alarm
    have inside : RelatedInside (AgreeUnless alarm) (evaluateFor .default levels)
        (guardedFor alarm .default levels) :=
      .of_parts congruence ih AgreeUnless.inScope
    exact (congruence.step inside expression (fun part _ => ih part) fun _ _ => trivial).guarded

/-! ### Alike without symbols -/

/-- Outcomes that are alike in the view without symbols have values without them. -/
theorem not_holdsSymbol_of_outcomesAlike {pairing : Pairing}
    {outcome outcome' : Except EvalError Datum}
    (alike : OutcomesAlike (Alike .symbolFree pairing) outcome outcome') :
    ∀ value ∈ outcome'.toOption, ¬ value.HoldsSymbol := by
  rintro value isValue
  cases alike with
  | ok same =>
    cases isValue
    exact same.not_holdsSymbol
  | error arises => cases isValue

/-- Ends that are alike in the view without symbols leave none. -/
theorem not_leavesSymbol_of_endsAlike {pairing : Pairing} {names : String → Prop}
    {ended ended' : Except EvalError Datum × World}
    (ends : EndsAlike .symbolFree pairing names (Alike .symbolFree pairing) ended ended') :
    ¬ LeavesSymbol ended' := by
  rintro (⟨value, isValue, holds⟩ | binds)
  · exact not_holdsSymbol_of_outcomesAlike ends.outcome value isValue holds
  · exact ends.world.scope.not_bindsSymbol binds

/-- A failure in one of two outcomes that are alike can arise. -/
theorem arises_of_outcomesAlike {Result : α → α → Prop} {outcome outcome' : Except EvalError α}
    (alike : OutcomesAlike Result outcome outcome') {cause : EvalError}
    (failed : outcome' = .error cause) : cause.Arises := by
  subst failed
  cases alike with
  | error arises => exact arises

/-- What runs alike in the view without symbols does so when it is guarded. -/
theorem RunAlike.guarded {pairing : Pairing} {names : String → Prop} {one other : Eval Datum}
    (alike : RunAlike .symbolFree pairing names (Alike .symbolFree) one other) :
    RunAlike .symbolFree pairing names (Alike .symbolFree) one (guarded alarm other) := by
  intro around later grows world world' worlds
  obtain ⟨last, further, drawn, ends⟩ := alike around later grows world world' worlds
  have passes : Eval.guarded alarm other around world' = other around world' := by
    simp only [Eval.guarded, if_neg worlds.scope.not_bindsSymbol,
      if_neg (not_leavesSymbol_of_endsAlike ends)]
  rw [passes]
  exact ⟨last, further, drawn, ends⟩

/-- Guarded evaluation runs alike with evaluation in the view without symbols. -/
theorem guardedFor_simulates (alarm : EvalError) (levels : Nat) :
    Simulates .symbolFree (evaluateFor .default levels) (guardedFor alarm .default levels) := by
  induction levels with
  | zero => exact fun pairing names expression _ _ => .guarded (.ask fun around => .fail trivial)
  | succ levels ih =>
    intro pairing names expression fit needed
    rw [guardedFor_succ]
    exact (ih.step (fun _ _ => Registry.parametric_of_get?) pairing names expression fit
      needed).guarded

end Eval

/-! ### Sessions -/

/-- A world that is like itself in the view without symbols. -/
def World.SymbolFree (world : World) : Prop :=
  WorldsAlike .symbolFree .same (fun _ => True) world world

theorem World.symbolFree_of_trees {world : World}
    (trees : ∀ name value, Table.get? world.scope name = some value →
      value.Every Datum.InTree) : world.SymbolFree := by
  refine ⟨fun name _ => ?_, rfl, rfl, fun more => Pairing.admits_same _⟩
  cases bound : Table.get? world.scope name with
  | none => exact .none
  | some value => exact .some (.same_of_tree (trees name value bound))

namespace Evaluator

open Eval

/-- Guarded evaluation of an expression in surroundings. -/
def guardedIn (alarm : EvalError) (around : Surroundings) (expression : Datum) (world : World) :
    Except EvalError Datum × World :=
  guardedFor alarm .default (levels around) expression around world

/-- Guarded evaluation that starts without symbols in values is evaluation and ends without them, if
evaluation does not raise the alarm by itself. -/
theorem guardedIn_eq {alarm : EvalError} (strange : ¬ alarm.Arises) (around : Surroundings)
    {expression : Datum} {world : World} (read : IsRead expression) (free : world.SymbolFree) :
    guardedIn alarm around expression world = evaluateIn .default around expression world ∧
      (evaluateIn .default around expression world).2.SymbolFree ∧
      ¬ LeavesSymbol (evaluateIn .default around expression world) := by
  obtain ⟨last, beyond, -, ends⟩ := guardedFor_simulates alarm (levels around) .same
    (fun _ => True) expression read.fit (fun _ _ => trivial) around .same (le_refl _) world world
    free
  obtain rfl := Pairing.eq_same_of_le beyond
  have quiet : (guardedFor alarm .default (levels around) expression around world).1 ≠
      .error alarm := fun raised => strange (arises_of_outcomesAlike ends.outcome raised)
  have same : guardedFor alarm .default (levels around) expression around world =
      evaluateFor .default (levels around) expression around world :=
    (evaluateFor_agreeUnless alarm (levels around) expression around world).resolve_left quiet
  rw [same] at ends
  exact ⟨same, ends.world, not_leavesSymbol_of_endsAlike ends⟩

end Evaluator

/-- An expression that is evaluated in surroundings of its own. -/
structure Turn where
  around : Surroundings
  expression : Datum

/-- A turn that was played, with the world before it and how it ended. -/
structure Played where
  turn : Turn
  world : World
  ended : Except EvalError Datum × World

namespace Evaluator

open Eval

/-- The turns of a session with the default primitives, each played in the world that the one before
it left, however that ended. -/
def play : World → List Turn → List Played
  | _, [] => []
  | world, turn :: rest =>
      let ended := evaluateIn .default turn.around turn.expression world
      ⟨turn, world, ended⟩ :: play ended.2 rest

/-- A failure that only reading a text can end in. -/
def readingAlarm : EvalError :=
  .reading (.number .integerTooLong)

/-- In a session that starts in an environment of data for exchange and evaluates expressions that
are read from texts or from trees for exchange, no symbol becomes a value.  No turn finds a symbol
bound or leaves one in its value or in the environment, even if it fails.  Within the turn, guards
stand at the start of every evaluation of a part, which for the body of a function is when its
parameters have been bound, at the end of every one, and at the arguments of every primitive; they
make no difference, so they never raise their alarm, which evaluation does not raise by itself. -/
theorem play_symbolFree {start : World} {turns : List Turn}
    (trees : ∀ name value, Table.get? start.scope name = some value → value.Every Datum.InTree)
    (read : ∀ turn ∈ turns, IsRead turn.expression) :
    ∀ played ∈ play start turns,
      ¬ BindsSymbol played.world.scope ∧ ¬ LeavesSymbol played.ended ∧
        ∀ alarm : EvalError, ¬ alarm.Arises →
          guardedIn alarm played.turn.around played.turn.expression played.world =
            played.ended := by
  have free := World.symbolFree_of_trees trees
  clear trees
  induction turns generalizing start with
  | nil =>
    intro played among
    cases among
  | cons turn rest ih =>
    obtain ⟨first, others⟩ := List.forall_mem_cons.mp read
    have unraised : ¬ readingAlarm.Arises := id
    obtain ⟨-, after, leavesNone⟩ := guardedIn_eq unraised turn.around first free
    intro played among
    rcases List.mem_cons.mp among with rfl | later
    · have same (alarm : EvalError) (strange : ¬ alarm.Arises) :=
        (guardedIn_eq strange turn.around first free).1
      exact ⟨free.scope.not_bindsSymbol, leavesNone, same⟩
    · exact ih others after played later

/-- A guard does raise the alarm if there is something to be found. -/
example :
    (guardedIn readingAlarm (.limited (.int 0) 3) (.int 1)
      (.ofScope [("x", .list none [.symbol "y"])] 0)).1 = .error readingAlarm := by
  rfl

/-- The text `(quote (a))`. -/
def quotationText : List Char :=
  ['(', 'q', 'u', 'o', 't', 'e', ' ', '(', 'a', ')', ')']

/-- A quotation that is read from a text, the definition of a function that is read from a tree, and
a call of that function. -/
def quotingTurns : List Turn :=
  let around := Surroundings.limited (.int 0) 9
  [⟨around, .list none [.symbol "quote", .list none [.symbol "a"]]⟩,
    ⟨around, (Datum.list none [.string "define", .list none [.string "f", .string "x"],
      .list none [.string "g", .string "x"]]).deserialize⟩,
    ⟨around, (Datum.list none [.string "f", .string "data"]).deserialize⟩]

/-- The first of these turns ends in a list and the second in a function; the third fails, since the
body of the function calls what is no function. -/
theorem play_symbolFree_quoting :
    let start := World.ofScope [("data", .list none [.string "a", .nil])] 0
    (play start quotingTurns).map (fun played => played.ended.1.map Datum.typeName) =
        [.ok "list", .ok "function", .error (.unknownFunction "g")] ∧
      ∀ played ∈ play start quotingTurns,
        ¬ BindsSymbol played.world.scope ∧ ¬ LeavesSymbol played.ended ∧
          ∀ alarm : EvalError, ¬ alarm.Arises →
            guardedIn alarm played.turn.around played.turn.expression played.world =
              played.ended := by
  intro start
  have cut : Token.tokenize quotationText =
      .ok [⟨.leftParen, ⟨1, 1⟩⟩, ⟨.symbol "quote", ⟨1, 2⟩⟩, ⟨.leftParen, ⟨1, 8⟩⟩,
        ⟨.symbol "a", ⟨1, 9⟩⟩, ⟨.rightParen, ⟨1, 10⟩⟩, ⟨.rightParen, ⟨1, 11⟩⟩,
        ⟨.endOfInput, ⟨1, 12⟩⟩] := by
    decide +kernel
  have parsed : Reader.parse quotationText =
      .ok (.list none [.symbol "quote", .list none [.symbol "a"]]) :=
    (Reader.parse_eq_ok_iff cut).mpr rfl
  have text (text : String) : (Datum.string text).Every Datum.InTree := .intro trivial nofun
  have list {items : List Datum} (trees : ∀ item ∈ items, item.Every Datum.InTree) :
      (Datum.list none items).Every Datum.InTree := .intro trivial trees
  have texts (names : List String) : (Datum.list none (names.map .string)).Every Datum.InTree :=
    list (List.forall_mem_map.mpr fun name _ => text name)
  refine ⟨rfl, play_symbolFree ?_ ?_⟩
  · intro name value bound
    cases List.mem_singleton.mp (Table.mem_of_get? bound)
    have nil : Datum.nil.Every Datum.InTree := .intro trivial nofun
    exact list (List.forall_mem_cons.mpr ⟨text "a", List.forall_mem_singleton.mpr nil⟩)
  · intro turn among
    simp only [quotingTurns, List.mem_cons, List.not_mem_nil, or_false] at among
    rcases among with rfl | rfl | rfl
    · exact .text parsed
    · have parts := List.forall_mem_cons.mpr
        ⟨texts ["f", "x"], List.forall_mem_singleton.mpr (texts ["g", "x"])⟩
      exact .tree (list (List.forall_mem_cons.mpr ⟨text "define", parts⟩))
    · exact .tree (texts ["f", "data"])

end Evaluator

end SandboxLisp
