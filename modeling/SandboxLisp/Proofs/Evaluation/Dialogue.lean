import Mathlib.Tactic.Choose
import SandboxLisp.Evaluator
import SandboxLisp.Primitive.Host
import SandboxLisp.Proofs.Evaluation.Primitives

/-!
# The questions of a computation

A rule of the evaluator is given the evaluation of expressions as a function, and what it does with
that function is not visible in its type.  Here a run of a rule is laid out as a dialogue: a finite
row of questions, each of which asks for an expression to be evaluated in a world and goes on with
the answer.  A rule converses if in every world there is one dialogue that it follows whatever the
evaluation is.

All special forms converse, so one step of evaluation does if all primitives do.  That is where it
is used that a form asks for finitely many expressions and for nothing else.
-/

namespace SandboxLisp

namespace Eval

/-- What an evaluation comes to: its outcome and the world behind it. -/
abbrev Ended (α : Type) : Type := Except EvalError α × World

/-- A run that may ask for the evaluation of an expression in a world, and goes on with how that
ended. -/
inductive Dialogue (α : Type) where
  | ends (ended : Ended α)
  | asks (expression : Datum) (world : World) (goOn : Ended Datum → Dialogue α)

namespace Dialogue

variable {α β : Type}

/-- How a dialogue ends if its questions are answered by a function. -/
def outcome (answer : Datum → World → Ended Datum) : Dialogue α → Ended α
  | ends ended => ended
  | asks expression world goOn => (goOn (answer expression world)).outcome answer

/-- One dialogue after another; a failure of the first ends both. -/
def andThen (next : α → World → Dialogue β) : Dialogue α → Dialogue β
  | ends (.ok value, world) => next value world
  | ends (.error error, world) => ends (.error error, world)
  | asks expression world goOn => asks expression world fun ended => (goOn ended).andThen next

/-- A dialogue behind which the bindings are others. -/
def leaving (scope : Scope) : Dialogue α → Dialogue α
  | ends (outcome, world) => ends (outcome, { world with scope })
  | asks expression world goOn => asks expression world fun ended => (goOn ended).leaving scope

theorem outcome_andThen (answer : Datum → World → Ended Datum) (next : α → World → Dialogue β)
    (dialogue : Dialogue α) :
    (dialogue.andThen next).outcome answer =
      match dialogue.outcome answer with
      | (.ok value, world) => (next value world).outcome answer
      | (.error error, world) => (.error error, world) := by
  induction dialogue with
  | ends ended =>
    obtain ⟨result, world⟩ := ended
    cases result <;> rfl
  | asks expression world goOn ih => exact ih _

theorem outcome_leaving (answer : Datum → World → Ended Datum) (scope : Scope)
    (dialogue : Dialogue α) :
    (dialogue.leaving scope).outcome answer =
      ((dialogue.outcome answer).1, { (dialogue.outcome answer).2 with scope }) := by
  induction dialogue with
  | ends ended => rfl
  | asks expression world goOn ih => exact ih _

end Dialogue

/-- A computation follows a dialogue in a world, whatever the evaluation of expressions is. -/
def Dialogue.IsFollowed {α : Type} (dialogue : Dialogue α)
    (computation : (Datum → Eval Datum) → Eval α) (around : Surroundings) (world : World) : Prop :=
  ∀ recur, computation recur around world =
    dialogue.outcome fun expression world => recur expression around world

/-- A computation that makes use of the evaluation of expressions only by asking for finitely many
of them, one after another. -/
def Converses {α : Type} (computation : (Datum → Eval Datum) → Eval α) : Prop :=
  ∀ around world, ∃ dialogue : Dialogue α, dialogue.IsFollowed computation around world

namespace Converses

variable {α β : Type}

/-- A computation that does not evaluate anything. -/
theorem fixed (computation : Eval α) : Converses fun _ => computation :=
  fun around world => ⟨.ends (computation around world), fun _ => rfl⟩

/-- The evaluation of one expression. -/
theorem part (expression : Datum) : Converses fun recur => recur expression :=
  fun _ world => ⟨.asks expression world .ends, fun _ => rfl⟩

theorem bind {first : (Datum → Eval Datum) → Eval α}
    {next : (Datum → Eval Datum) → α → Eval β} (one : Converses first)
    (other : ∀ value, Converses fun recur => next recur value) :
    Converses fun recur => first recur >>= next recur := by
  intro around world
  obtain ⟨dialogue, follows⟩ := one around world
  choose later followsLater using fun value world => other value around world
  refine ⟨dialogue.andThen later, fun recur => ?_⟩
  rw [Dialogue.outcome_andThen, ← follows recur]
  refine (bind_apply _ _ _ _).trans ?_
  split
  · next ran =>
    rw [ran]
    exact followsLater _ _ recur
  · next ran => rw [ran]

theorem inScope (inner : Scope) {computation : (Datum → Eval Datum) → Eval α}
    (converses : Converses computation) :
    Converses fun recur => Eval.inScope inner (computation recur) := by
  intro around world
  obtain ⟨dialogue, follows⟩ := converses around { world with scope := inner }
  refine ⟨dialogue.leaving world.scope, fun recur => ?_⟩
  rw [Dialogue.outcome_leaving, ← follows recur]
  rfl

theorem applyClosure (function : Closure) (arguments : List Datum) :
    Converses fun recur => applyClosure recur function arguments :=
  (part function.body).inScope _

theorem mapM {function : (Datum → Eval Datum) → α → Eval β}
    (each : ∀ value, Converses fun recur => function recur value) (values : List α) :
    Converses fun recur => values.mapM (function recur) := by
  induction values with
  | nil => exact fixed (pure [])
  | cons value rest ih =>
    simp only [List.mapM_cons]
    exact (each value).bind fun first => ih.bind fun others => fixed _

/-! ### Items of a list -/

theorem fold {step : (Datum → Eval Datum) → Datum → Datum → Eval Datum}
    (each : ∀ value item, Converses fun recur => step recur value item) (items : List Datum)
    (value : Datum) : Converses fun recur => Eval.fold (step recur) value items := by
  induction items generalizing value with
  | nil => exact fixed _
  | cons item rest ih => exact (each value item).bind ih

section Items

variable {function : (Datum → Eval Datum) → Datum → Eval Datum}
  (each : ∀ item, Converses fun recur => function recur item)

include each

theorem keep (items : List Datum) : Converses fun recur => Eval.keep (function recur) items := by
  induction items with
  | nil => exact fixed _
  | cons item rest ih => exact (each item).bind fun value => ih.bind fun kept => fixed _

theorem search (items : List Datum) (index : Nat) :
    Converses fun recur => Eval.search (function recur) index items := by
  induction items generalizing index with
  | nil => exact fixed _
  | cons item rest ih =>
    refine (each item).bind fun value => ?_
    cases value.isTruthy with
    | true => exact fixed _
    | false => exact ih (index + 1)

theorem keyed (items : List Datum) (place : Nat) :
    Converses fun recur => Eval.keyed (function recur) place items := by
  induction items generalizing place with
  | nil => exact fixed _
  | cons item rest ih =>
    exact (each item).bind fun key => (ih (place + 1)).bind fun others => fixed _

end Items

theorem inlineItem (expression item : Datum) :
    Converses fun recur => inlineItem recur expression item := by
  refine (fixed Eval.scope).bind fun scope => ?_
  refine ((part expression).inScope _).bind fun value => ?_
  cases value.closure? with
  | none => exact fixed _
  | some closure => exact applyClosure closure [item]

/-- What goes on with the function for the items only has to converse for functions that do. -/
theorem itemFunction (expression : Datum)
    {next : (Datum → Eval Datum) → (Datum → Eval Datum) → Eval β}
    (other : ∀ function : (Datum → Eval Datum) → Datum → Eval Datum,
      (∀ item, Converses fun recur => function recur item) →
        Converses fun recur => next recur (function recur)) :
    Converses fun recur => itemFunction recur expression >>= next recur := by
  have inline := other (fun recur => Eval.inlineItem recur expression) (inlineItem expression)
  unfold Eval.itemFunction
  cases isFunctionPlace expression with
  | false => exact inline
  | true =>
    simp only [if_true, bind_assoc]
    refine (part expression).bind fun value => ?_
    cases value.closure? with
    | none => exact inline
    | some closure =>
      exact other (fun recur item => Eval.applyClosure recur closure [item])
        fun item => applyClosure closure [item]

/-- What goes on with the items of a list only has to converse for each list. -/
theorem items (name : String) (expression : Datum)
    {next : (Datum → Eval Datum) → List Datum → Eval β}
    (other : ∀ items, Converses fun recur => next recur items) :
    Converses fun recur =>
      recur expression >>= fun value => expectList name value >>= next recur :=
  (part expression).bind fun value => (fixed (expectList name value)).bind other

/-! ### Special forms -/

theorem sequence (expressions : List Datum) (result : Datum) :
    Converses fun recur => sequence recur result expressions := by
  induction expressions generalizing result with
  | nil => exact fixed _
  | cons expression rest ih => exact (part expression).bind ih

theorem conditional (operands : List Datum) :
    Converses fun recur => conditional recur operands := by
  rcases operands with _ | ⟨test, _ | ⟨consequent, _ | ⟨alternative, _ | _⟩⟩⟩
  · exact fixed _
  · exact fixed _
  · refine (part test).bind fun value => ?_
    cases value.isTruthy with
    | true => exact part consequent
    | false => exact fixed _
  · refine (part test).bind fun value => ?_
    cases value.isTruthy with
    | true => exact part consequent
    | false => exact part alternative
  · exact fixed _

theorem cond (clauses : List Datum) : Converses fun recur => cond recur clauses := by
  induction clauses with
  | nil => exact fixed _
  | cons clause rest ih =>
    cases clause with
    | list mark items =>
      cases items with
      | nil => exact fixed _
      | cons test body =>
        simp only [Eval.cond]
        cases isElse test with
        | true => exact sequence body .nil
        | false =>
          refine (part test).bind fun value => ?_
          cases value.isTruthy with
          | true => exact sequence body value
          | false => exact ih
    | _ => exact fixed _

theorem definition (operands : List Datum) : Converses fun recur => definition recur operands := by
  have value (target expression : Datum) : Converses fun recur => do
      let value ← recur expression
      define (← bindingName target) value
      return value :=
    (part expression).bind fun value => fixed _
  rcases operands with _ | ⟨target, body⟩
  · exact fixed _
  · cases target with
    | list mark items => cases items <;> exact fixed _
    | _ =>
      rcases body with _ | ⟨expression, _ | _⟩
      · exact fixed _
      · exact value _ expression
      · exact fixed _

theorem bindLocals (bindings : List Datum) : Converses fun recur => bindLocals recur bindings := by
  induction bindings with
  | nil => exact fixed _
  | cons binding rest ih =>
    unfold Eval.bindLocals
    split
    · next impossible => cases impossible
    · next mark target expression others same =>
      cases same
      refine (part expression).bind fun value => ?_
      refine (fixed (bindingName target)).bind fun name => ?_
      exact (fixed (define name value)).bind fun _ => ih
    · exact fixed _

theorem letIn (operands : List Datum) : Converses fun recur => letIn recur operands := by
  rcases operands with _ | ⟨bindings, body⟩
  · exact fixed _
  · cases bindings with
    | list mark bindings =>
      refine (fixed Eval.scope).bind fun scope => ?_
      exact inScope scope ((bindLocals bindings).bind fun _ => part (.ofBody body))
    | _ => exact fixed _

theorem apply (operands : List Datum) : Converses fun recur => apply recur operands := by
  rcases operands with _ | ⟨function, _ | ⟨arguments, _ | _⟩⟩
  · exact fixed _
  · exact fixed _
  · refine (part function).bind fun callee => (part arguments).bind fun given => ?_
    cases callee.closure? with
    | none => exact fixed _
    | some closure =>
      cases given with
      | list mark items => exact applyClosure closure items
      | _ => exact fixed _
  · exact fixed _

theorem inlineStep (valueName itemName : String) (body value item : Datum) :
    Converses fun recur => inlineStep recur valueName itemName body value item :=
  (fixed Eval.scope).bind fun _ => (part body).inScope _

theorem reduce (operands : List Datum) : Converses fun recur => reduce recur operands := by
  unfold Eval.reduce
  split
  · next list initial params body =>
    refine items "reduce" list fun items => (part initial).bind fun value => ?_
    split
    · next mark valueTarget itemTarget =>
      refine (fixed (bindingName valueTarget)).bind fun valueName => ?_
      refine (fixed (bindingName itemTarget)).bind fun itemName => ?_
      exact fold (inlineStep valueName itemName body) items value
    · exact fixed _
  · next list initial function =>
    refine items "reduce" list fun items => (part initial).bind fun value => ?_
    refine (part function).bind fun callee => ?_
    cases callee.closure? with
    | none => exact fixed _
    | some closure =>
      exact fold (fun value item => applyClosure closure [value, item]) items value
  · exact fixed _

theorem filter (operands : List Datum) : Converses fun recur => filter recur operands := by
  unfold Eval.filter
  split
  · next expression list =>
    refine itemFunction expression fun function each => ?_
    refine items "filter" list fun items => ?_
    exact (keep each items).bind fun kept => fixed _
  · exact fixed _

theorem map (operands : List Datum) : Converses fun recur => map recur operands := by
  unfold Eval.map
  split
  · next expression list =>
    refine itemFunction expression fun function each => ?_
    refine items "map" list fun items => ?_
    exact (mapM each items).bind fun values => fixed _
  · exact fixed _

theorem find (operands : List Datum) : Converses fun recur => find recur operands := by
  unfold Eval.find
  split
  · next list expression =>
    refine items "find" list fun items => ?_
    refine itemFunction expression fun function each => ?_
    exact (search each items 0).bind fun found => fixed _
  · exact fixed _

theorem findIndex (operands : List Datum) : Converses fun recur => findIndex recur operands := by
  unfold Eval.findIndex
  split
  · next list expression =>
    refine items "find-index" list fun items => ?_
    refine itemFunction expression fun function each => ?_
    exact (search each items 0).bind fun found => fixed _
  · exact fixed _

theorem count (operands : List Datum) : Converses fun recur => count recur operands := by
  unfold Eval.count
  split
  · next list => exact items "count" list fun items => fixed _
  · next list expression =>
    refine items "count" list fun items => ?_
    refine itemFunction expression fun function each => ?_
    exact (keep each items).bind fun kept => fixed _
  · exact fixed _

theorem sortBy (operands : List Datum) : Converses fun recur => sortBy recur operands := by
  unfold Eval.sortBy
  split
  · next list expression =>
    refine items "sort-by" list fun items => ?_
    refine itemFunction expression fun function each => ?_
    exact (keyed each items 0).bind fun keys => fixed _
  · exact fixed _

/-- Every special form converses. -/
theorem form (form : Form) (operands : List Datum) :
    Converses fun recur => Eval.form recur form operands := by
  cases form with
  | conditional => exact conditional operands
  | letIn => exact letIn operands
  | cond => exact cond operands
  | begin => exact sequence operands .nil
  | quote => exact fixed (quote operands)
  | lambda => exact fixed (lambda operands)
  | define => exact definition operands
  | apply => exact apply operands
  | filter => exact filter operands
  | map => exact map operands
  | find => exact find operands
  | findIndex => exact findIndex operands
  | sortBy => exact sortBy operands
  | count => exact count operands
  | reduce => exact reduce operands

end Converses

/-! ### One step of evaluation -/

end Eval

/-- The primitive makes use of the evaluation of expressions only by asking for finitely many of
them, whatever its arguments are. -/
def Primitive.Converses (primitive : Primitive) : Prop :=
  ∀ arguments, Eval.Converses fun recur => primitive recur arguments

/-- Every primitive of the registry converses. -/
def Registry.Converses (registry : Registry) : Prop :=
  ∀ name primitive, registry.get? name = some primitive → primitive.Converses

namespace Eval

namespace Converses

theorem callValue (head : Datum) (operands : List Datum) :
    Converses fun recur => callValue recur head operands := by
  refine (part head).bind fun value => ?_
  cases value.closure? with
  | none => exact fixed _
  | some function =>
    exact (mapM part operands).bind fun arguments => applyClosure function arguments

theorem callName {registry : Registry} (primitives : registry.Converses) (name : String)
    (operands : List Datum) : Converses fun recur => callName registry recur name operands := by
  refine (fixed Eval.scope).bind fun scope => ?_
  cases (Table.get? scope name).bind Datum.closure? with
  | some function =>
    exact (mapM part operands).bind fun arguments => applyClosure function arguments
  | none =>
    cases found : registry.get? name with
    | some primitive => exact (mapM part operands).bind (primitives name primitive found)
    | none => exact callValue (.symbol name) operands

theorem list {registry : Registry} (primitives : registry.Converses) (head : Datum)
    (operands : List Datum) : Converses fun recur => list registry recur head operands := by
  cases head with
  | symbol name =>
    simp only [Eval.list]
    cases Form.ofName? name with
    | some found => exact form found operands
    | none => exact callName primitives name operands
  | _ => exact callValue _ operands

/-- The rule for one expression converses if the primitives do. -/
theorem step {registry : Registry} (primitives : registry.Converses) (expression : Datum) :
    Converses fun recur => step registry recur expression := by
  cases expression with
  | list mark items =>
    cases items with
    | nil => exact fixed _
    | cons head operands => exact list primitives head operands
  | _ => exact fixed _

end Converses

end Eval

/-! ### Registries that converse -/

namespace Primitive

/-- A primitive that does not evaluate anything converses. -/
theorem IsSteady.converses {primitive : Primitive} (steady : primitive.IsSteady) :
    primitive.Converses := by
  intro arguments around world
  exact ⟨.ends (primitive (fun _ => pure .nil) arguments around world), fun recur =>
    congrArg (fun computation : Eval Datum => computation around world) (steady.ignores _ _ _)⟩

/-- What evaluates its argument converses. -/
theorem evaluateArgument_converses : evaluateArgument.Converses :=
  fun arguments => .part (arguments.head?.getD .nil)

theorem evaluateTree_converses : evaluateTree.Converses :=
  fun _ => (Eval.Converses.fixed Eval.surroundings).bind
    fun _ => (Eval.Converses.fixed (Eval.ofExcept _)).bind .part

theorem evaluateSource_converses : evaluateSource.Converses := by
  intro arguments
  refine (Eval.Converses.fixed (expectString "eval-text" (arguments.head?.getD .nil))).bind
    fun source => ?_
  cases Reader.parse source with
  | ok expression => exact .part expression
  | error error => exact .fixed _

end Primitive

namespace Registry

theorem default_converses : default.Converses :=
  fun _ _ found => (isSteady_of_get? found).converses

/-- An offer that is written into a list stands in it, and nothing else is new. -/
theorem mem_of_mem_write {offers : List Offer} {offer other : Offer}
    (among : other ∈ Offer.write offers offer) : other = offer ∨ other ∈ offers := by
  have added (among : other ∈ offers ++ [offer]) : other = offer ∨ other ∈ offers := by
    rcases List.mem_append.mp among with known | new
    · exact .inr known
    · exact .inl (List.mem_singleton.mp new)
  unfold Offer.write at among
  split at among
  · next name _ =>
    split at among
    · obtain ⟨before, known, rfl⟩ := List.mem_map.mp among
      by_cases replaced : before.isNamed name = true
      · exact .inl (if_pos replaced)
      · exact .inr (by rwa [if_neg replaced])
    · exact added among
  · exact added among

theorem mem_of_mem_foldl_write {offers known : List Offer} {offer : Offer}
    (among : offer ∈ offers.foldl Offer.write known) : offer ∈ known ∨ offer ∈ offers := by
  induction offers generalizing known with
  | nil => exact .inl among
  | cons first rest ih =>
    rcases ih among with written | later
    · rcases mem_of_mem_write written with rfl | before
      · exact .inr (.head _)
      · exact .inl before
    · exact .inr (.tail _ later)

/-- Every entry of a checked list comes from an offer of the list. -/
theorem exists_of_mem_checked {offers : List Offer} {entries : List (String × Primitive)}
    (checked : offers.mapM Offer.check = .ok entries) {entry : String × Primitive}
    (among : entry ∈ entries) : ∃ offer ∈ offers, offer.primitive = some entry.2 := by
  induction offers generalizing entries with
  | nil =>
    cases checked
    cases among
  | cons offer rest ih =>
    rw [List.mapM_cons] at checked
    cases first : offer.check with
    | error error =>
      rw [first] at checked
      cases checked
    | ok own =>
      cases later : rest.mapM Offer.check with
      | error error =>
        rw [first, later] at checked
        cases checked
      | ok others =>
        rw [first, later] at checked
        cases checked
        rcases List.mem_cons.mp among with rfl | behind
        · refine ⟨offer, .head _, ?_⟩
          unfold Offer.check at first
          split at first
          · next known =>
            cases first
            exact known
          · cases first
          · cases first
        · obtain ⟨found, known, same⟩ := ih later behind
          exact ⟨found, .tail _ known, same⟩

/-- Whatever a host offers, the registry converses if the offered primitives do. -/
theorem converses_of_ofOffers {offers : List Offer} {registry : Registry}
    (made : ofOffers offers = .ok registry)
    (each : ∀ offer ∈ offers, ∀ primitive, offer.primitive = some primitive → primitive.Converses) :
    registry.Converses := by
  unfold ofOffers at made
  dsimp only at made
  cases checked : (offers.foldl Offer.write (defaultPrimitives.map fun entry =>
      ⟨.string entry.1, some entry.2⟩)).mapM Offer.check with
  | error error =>
    rw [checked] at made
    cases made
  | ok entries =>
    rw [checked] at made
    cases made
    intro name primitive found
    obtain ⟨offer, among, same⟩ := exists_of_mem_checked checked (Table.mem_of_get? found)
    rcases mem_of_mem_foldl_write among with known | offered
    · obtain ⟨entry, listed, rfl⟩ := List.mem_map.mp known
      cases same
      exact (isSteady_of_mem_defaultPrimitives listed).converses
    · exact each offer offered primitive same

end Registry

end SandboxLisp
