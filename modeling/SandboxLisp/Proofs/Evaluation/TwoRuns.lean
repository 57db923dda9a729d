import SandboxLisp.Evaluator
import SandboxLisp.Proofs.Evaluation.Items
import SandboxLisp.Proofs.Parametric.Collections

/-!
# Evaluation runs alike

One expression is evaluated in two worlds.  Wherever the names that it mentions are bound alike, both
evaluations end alike: each form, call and primitive only looks up names that are mentioned, and what
it looks up is alike.  A function keeps the bindings that its body mentions, so a call of it needs
nothing from the scope of its caller.

The rules of the evaluator take the evaluation of the parts as an argument.  `Simulates` says what is
known of it, `Simulates.step` keeps that for one level, and `evaluateFor_simulates` is the induction.
What follows for whole runs is `evaluateIn_alike`.
-/

namespace SandboxLisp.Eval

/-- Two evaluations run alike on an expression wherever the names that it needs are bound alike. -/
def Simulates (view : View) (recur recur' : Datum → Eval Datum) : Prop :=
  ∀ pairing names expression, Fit view pairing expression →
    (∀ name, expression.Needs name → names name) →
      RunAlike view pairing names (Alike view) (recur expression) (recur' expression)

/-- A part of an expression whose literals and whose names are alike. -/
structure Covered (view : View) (pairing : Pairing) (names : String → Prop) (part : Datum) :
    Prop where
  fit : Fit view pairing part
  names {name : String} (mentions : part.Mentions name) : names name

section Covers

variable {view : View} {pairing later : Pairing} {names : String → Prop} {part : Datum}

theorem Covered.mono (grows : pairing ≤ later) (covered : Covered view pairing names part) :
    Covered view later names part :=
  ⟨covered.fit.mono grows, covered.names⟩

/-- The items of a part are covered with it. -/
theorem Covered.item {mark : Option Mark} {items : List Datum}
    (covered : Covered view pairing names (.list mark items)) {item : Datum} (mem : item ∈ items) :
    Covered view pairing names item :=
  ⟨covered.fit.item mem, fun mentions => covered.names (.item mem mentions)⟩

/-- All parts of a list are covered. -/
def AllCovered (view : View) (pairing : Pairing) (names : String → Prop) (parts : List Datum) :
    Prop :=
  ∀ part ∈ parts, Covered view pairing names part

theorem AllCovered.mono {parts : List Datum} (grows : pairing ≤ later)
    (covered : AllCovered view pairing names parts) : AllCovered view later names parts :=
  fun part mem => (covered part mem).mono grows

theorem AllCovered.head {parts : List Datum}
    (covered : AllCovered view pairing names (part :: parts)) :
    Covered view pairing names part :=
  covered part (.head parts)

theorem AllCovered.tail {parts : List Datum}
    (covered : AllCovered view pairing names (part :: parts)) :
    AllCovered view pairing names parts :=
  fun other mem => covered other (.tail part mem)

theorem Covered.items {mark : Option Mark} {items : List Datum}
    (covered : Covered view pairing names (.list mark items)) :
    AllCovered view pairing names items :=
  fun _ mem => covered.item mem

/-- The body that forms make up needs no other names than they mention. -/
theorem AllCovered.body {body : List Datum} (covered : AllCovered view pairing names body)
    {name : String} (needs : (Datum.ofBody body).Needs name) : names name := by
  obtain ⟨form, mem, mentions⟩ := Datum.exists_of_needs_ofBody needs
  exact (covered form mem).names mentions

theorem AllCovered.fit {parts : List Datum} (covered : AllCovered view pairing names parts) :
    ∀ part ∈ parts, Fit view pairing part :=
  fun part mem => (covered part mem).fit

end Covers

/-! ### Names of places -/

theorem plain_bindingName (target : Datum) : Plain (bindingName target) := by
  unfold bindingName
  split
  · exact .pure _
  · exact .text _ _

theorem plain_parameterNames (form : String) (params : Datum) :
    Plain (parameterNames form params) := by
  unfold parameterNames
  split
  · exact .mapM plain_bindingName _
  · exact (Plain.text _ _).bind fun shown => .fail trivial

theorem plain_headName (head : Datum) : Plain (headName head) := by
  unfold headName
  split
  · exact .pure _
  · exact .text _ _

namespace Simulates

variable {view : View} {recur recur' : Datum → Eval Datum} (simulates : Simulates view recur recur')
  {pairing : Pairing} {names : String → Prop}

include simulates

theorem part {part : Datum} (covered : Covered view pairing names part) :
    RunAlike view pairing names (Alike view) (recur part) (recur' part) :=
  simulates pairing names part covered.fit fun _ needs => covered.names needs.mentions

theorem body {body : List Datum} (covered : AllCovered view pairing names body) :
    RunAlike view pairing names (Alike view) (recur (.ofBody body)) (recur' (.ofBody body)) :=
  simulates pairing names _ (Fit.ofBody covered.fit) fun _ needs => covered.body needs

/-! ### Control -/

theorem sequence {expressions : List Datum} (covered : AllCovered view pairing names expressions)
    {result result' : Datum} (alike : Alike view pairing result result') :
    RunAlike view pairing names (Alike view) (sequence recur result expressions)
      (Eval.sequence recur' result' expressions) := by
  induction expressions generalizing pairing result result' with
  | nil => exact .pure fun _ grows => alike.mono grows
  | cons expression rest ih =>
    apply (simulates.part covered.head).bind
    intro later grows value value' alike
    exact ih (covered.tail.mono grows) alike

theorem conditional {operands : List Datum} (covered : AllCovered view pairing names operands) :
    RunAlike view pairing names (Alike view) (conditional recur operands)
      (Eval.conditional recur' operands) := by
  rcases operands with _ | ⟨test, _ | ⟨consequent, _ | ⟨alternative, _ | ⟨surplus, rest⟩⟩⟩⟩
  · exact .fail trivial
  · exact .fail trivial
  · apply (simulates.part covered.head).bind
    intro later grows value value' alike
    rw [alike.isTruthy_eq]
    split
    · exact simulates.part (covered.tail.head.mono grows)
    · exact .pure fun _ _ => .nil
  · apply (simulates.part covered.head).bind
    intro later grows value value' alike
    rw [alike.isTruthy_eq]
    split
    · exact simulates.part (covered.tail.head.mono grows)
    · exact simulates.part (covered.tail.tail.head.mono grows)
  · exact .fail trivial

theorem cond {clauses : List Datum} (covered : AllCovered view pairing names clauses) :
    RunAlike view pairing names (Alike view) (cond recur clauses) (Eval.cond recur' clauses) := by
  induction clauses generalizing pairing with
  | nil => exact .pure fun _ _ => .nil
  | cons clause rest ih =>
    unfold Eval.cond
    split
    · contradiction
    · next mark test body others same =>
      cases same
      split
      · exact simulates.sequence covered.head.items.tail .nil
      · apply (simulates.part covered.head.items.head).bind
        intro later grows value value' alike
        rw [alike.isTruthy_eq]
        split
        · exact simulates.sequence (covered.head.items.tail.mono grows) alike
        · exact ih (covered.tail.mono grows)
    · next same =>
      cases same
      exact RunAlike.bindSame (.plain (.text _ _)) fun shown => .fail trivial

/-! ### Binding -/

omit simulates in
theorem quote {operands : List Datum} (covered : AllCovered view pairing names operands) :
    RunAlike view pairing names (Alike view) (quote operands) (Eval.quote operands) := by
  rcases operands with _ | ⟨expression, _ | ⟨surplus, rest⟩⟩
  · exact .fail trivial
  · apply RunAlike.bindSame (.plain (.checkNesting expression))
    intro _
    have alike := covered.head.fit.quotation
    generalize expression.quotation = value at alike ⊢
    cases value with
    | list mark items =>
      cases alike with
      | list _ parts => exact .newList parts
    | _ => exact .pure fun _ grows => alike.mono grows
  · exact .fail trivial

omit simulates in
theorem lambda {operands : List Datum} (covered : AllCovered view pairing names operands) :
    RunAlike view pairing names (Alike view) (lambda operands) (Eval.lambda operands) := by
  rcases operands with _ | ⟨params, body⟩
  · exact .fail trivial
  · apply RunAlike.bindSame (.plain (plain_parameterNames "lambda" params))
    intro parameters
    exact .closure parameters none (Fit.ofBody covered.tail.fit) fun _ needs =>
      covered.tail.body needs

/-- What goes on after a name is bound runs alike if the values are alike. -/
theorem definition {operands : List Datum} (covered : AllCovered view pairing names operands) :
    RunAlike view pairing names (Alike view) (definition recur operands)
      (Eval.definition recur' operands) := by
  unfold Eval.definition
  split
  · exact .fail trivial
  · exact .fail trivial
  · next mark target params body =>
    apply RunAlike.bindSame (.plain (plain_bindingName target))
    intro name
    apply RunAlike.bindSame (.plain (plain_parameterNames "define" _))
    intro parameters
    apply (RunAlike.closure parameters (some name) (Fit.ofBody covered.tail.fit) fun _ needs =>
      covered.tail.body needs).bind
    intro later grows function function' alike
    exact (RunAlike.define name alike).mapSame fun _ further _ => alike.mono further
  · next target expression notEmpty notFunction =>
    apply (simulates.part covered.tail.head).bind
    intro later grows value value' alike
    apply RunAlike.bindSame (.plain (plain_bindingName target))
    intro name
    exact (RunAlike.define name alike).mapSame fun _ further _ => alike.mono further
  · exact .fail trivial

theorem bindLocals {bindings : List Datum} (covered : AllCovered view pairing names bindings) :
    RunAlike view pairing names Same (bindLocals recur bindings)
      (Eval.bindLocals recur' bindings) := by
  induction bindings generalizing pairing with
  | nil => exact .pure fun _ _ => rfl
  | cons binding rest ih =>
    unfold Eval.bindLocals
    split
    · contradiction
    · next mark target expression others same =>
      cases same
      apply (simulates.part covered.head.items.tail.head).bind
      intro later grows value value' alike
      apply RunAlike.bindSame (.plain (plain_bindingName target))
      intro name
      exact (RunAlike.define name alike).bindSame fun _ => ih (covered.tail.mono grows)
    · next same =>
      cases same
      exact RunAlike.bindSame (.plain (.text _ _)) fun shown => .fail trivial

theorem letIn {operands : List Datum} (covered : AllCovered view pairing names operands) :
    RunAlike view pairing names (Alike view) (letIn recur operands)
      (Eval.letIn recur' operands) := by
  unfold Eval.letIn
  split
  · exact .fail trivial
  · next mark bindings body =>
    apply RunAlike.scope.bind
    intro later grows inner inner' scopes
    apply RunAlike.inScope scopes
    apply (simulates.bindLocals (covered.head.items.mono grows)).bindSame
    intro _
    exact simulates.body (covered.tail.mono grows)
  · exact .fail trivial

/-! ### Calls -/

theorem applyClosure {function function' : Closure}
    (alike : Alike view pairing function.toDatum function'.toDatum)
    {arguments arguments' : List Datum} (given : ItemsAlike view pairing arguments arguments') :
    RunAlike view pairing names (Alike view) (applyClosure recur function arguments)
      (Eval.applyClosure recur' function' arguments') := by
  apply RunAlike.inScope (alike.bind given)
  rw [← alike.body_eq]
  exact simulates pairing function.body.Needs function.body alike.fit_body fun _ needs => needs

theorem apply {operands : List Datum} (covered : AllCovered view pairing names operands) :
    RunAlike view pairing names (Alike view) (apply recur operands)
      (Eval.apply recur' operands) := by
  rcases operands with _ | ⟨function, _ | ⟨arguments, _ | ⟨surplus, rest⟩⟩⟩
  · exact .fail trivial
  · exact .fail trivial
  · apply (simulates.part covered.head).bind
    intro later grows callee callee' alike
    apply (simulates.part (covered.tail.head.mono grows)).bind
    intro last further given given' givenAlike
    have callees := (alike.mono further).closure?
    generalize callee.closure? = function, callee'.closure? = function' at callees ⊢
    cases callees with
    | none =>
      apply ((asks_text view .debug).runAlike (alike.mono further)).bindSame
      intro shown
      exact .fail trivial
    | some function =>
      have reported := givenAlike.typeName_eq
      cases givenAlike with
      | list _ parts => exact simulates.applyClosure function parts
      | _ => exact .fail trivial
  · exact .fail trivial

/-- What goes on with the items of a list has to run alike for like items. -/
theorem items (name : String) {expression : Datum}
    (covered : Covered view pairing names expression) {α : Type} {Result : Pairing → α → α → Prop}
    {next next' : List Datum → Eval α}
    (goOn : ∀ later, pairing ≤ later → ∀ items items', ItemsAlike view later items items' →
      RunAlike view later names Result (next items) (next' items')) :
    RunAlike view pairing names Result
      (recur expression >>= fun value => expectList name value >>= next)
      (recur' expression >>= fun value => expectList name value >>= next') := by
  apply (simulates.part covered).bind
  intro later grows value value' alike
  apply (RunAlike.expectList name alike).bind
  intro last further
  exact goOn last (grows.trans further)

theorem reduce {operands : List Datum} (covered : AllCovered view pairing names operands) :
    RunAlike view pairing names (Alike view) (reduce recur operands)
      (Eval.reduce recur' operands) := by
  unfold Eval.reduce
  split
  · next list initial params body =>
    apply simulates.items "reduce" covered.head
    intro later grows items items' parts
    apply (simulates.part (covered.tail.head.mono grows)).bind
    intro last further value value' alike
    have covers := (covered.tail.tail.tail.head.mono grows).mono further
    split
    · next mark valueTarget itemTarget =>
      apply RunAlike.bindSame (.plain (plain_bindingName valueTarget))
      intro valueName
      apply RunAlike.bindSame (.plain (plain_bindingName itemTarget))
      intro itemName
      apply fold_alike (parts.mono further) _ alike
      intro final beyond value value' item item' valueAlike itemAlike
      apply RunAlike.scope.bind
      intro inside grows scope scope' scopes
      have bound :=
        (scopes.put valueName (valueAlike.mono grows)).put itemName (itemAlike.mono grows)
      exact .inScope bound (simulates.part ((covers.mono beyond).mono grows))
    · exact .fail trivial
  · next list initial function =>
    apply simulates.items "reduce" covered.head
    intro later grows items items' parts
    apply (simulates.part (covered.tail.head.mono grows)).bind
    intro last further value value' alike
    apply (simulates.part ((covered.tail.tail.head.mono grows).mono further)).bind
    intro final beyond callee callee' calleeAlike
    have callees := calleeAlike.closure?
    generalize callee.closure? = function, callee'.closure? = function' at callees ⊢
    cases callees with
    | none =>
      apply ((asks_text view .debug).runAlike calleeAlike).bindSame
      intro shown
      exact .fail trivial
    | some functionAlike =>
      apply fold_alike (parts.mono (further.trans beyond)) _ (alike.mono beyond)
      intro inside grows value value' item item' valueAlike itemAlike
      exact simulates.applyClosure (functionAlike.mono grows)
        (.cons valueAlike (.cons itemAlike .nil))
  · exact .fail trivial

/-! ### A function for each item -/

theorem inlineItem {expression : Datum} (covered : Covered view pairing names expression) :
    FunctionsAlike view names pairing (inlineItem recur expression)
      (Eval.inlineItem recur' expression) := by
  intro later grows item item' alike
  apply RunAlike.scope.bind
  intro last further scope scope' scopes
  have bound := (scopes.put "@" (alike.mono further)).put "it" (alike.mono further)
  apply (RunAlike.inScope bound (simulates.part (covered.mono (grows.trans further)))).bind
  intro final beyond value value' valueAlike
  have callees := valueAlike.closure?
  generalize value.closure? = function, value'.closure? = function' at callees ⊢
  cases callees with
  | none => exact .pure fun _ grows => valueAlike.mono grows
  | some functionAlike =>
    exact simulates.applyClosure functionAlike (.cons (alike.mono (further.trans beyond)) .nil)

theorem itemFunction {expression : Datum} (covered : Covered view pairing names expression) :
    RunAlike view pairing names (FunctionsAlike view names) (itemFunction recur expression)
      (Eval.itemFunction recur' expression) := by
  have inline := simulates.inlineItem covered
  unfold Eval.itemFunction
  split
  · apply (simulates.part covered).bind
    intro later grows callee callee' alike
    have callees := alike.closure?
    generalize callee.closure? = function, callee'.closure? = function' at callees ⊢
    cases callees with
    | none => exact .pure fun _ further => inline.mono (grows.trans further)
    | some functionAlike =>
      apply RunAlike.pure
      intro last further final beyond item item' itemAlike
      exact simulates.applyClosure (functionAlike.mono (further.trans beyond)) (.cons itemAlike .nil)
  · exact .pure fun _ grows => inline.mono grows

theorem filter {operands : List Datum} (covered : AllCovered view pairing names operands) :
    RunAlike view pairing names (Alike view) (filter recur operands)
      (Eval.filter recur' operands) := by
  rcases operands with _ | ⟨expression, _ | ⟨list, _ | ⟨surplus, rest⟩⟩⟩
  · exact .fail trivial
  · exact .fail trivial
  · apply (simulates.itemFunction covered.head).bind
    intro later grows function function' functions
    apply simulates.items "filter" (covered.tail.head.mono grows)
    intro last further items items' parts
    apply (keep_alike (functions.mono further) parts).bind
    intro final beyond kept kept' alike
    exact .newList alike
  · exact .fail trivial

theorem map {operands : List Datum} (covered : AllCovered view pairing names operands) :
    RunAlike view pairing names (Alike view) (map recur operands) (Eval.map recur' operands) := by
  rcases operands with _ | ⟨expression, _ | ⟨list, _ | ⟨surplus, rest⟩⟩⟩
  · exact .fail trivial
  · exact .fail trivial
  · apply (simulates.itemFunction covered.head).bind
    intro later grows function function' functions
    apply simulates.items "map" (covered.tail.head.mono grows)
    intro last further items items' parts
    have values : RunAlike view last names (fun final => List.Forall₂ (Alike view final))
        (items.mapM function) (items'.mapM function') := by
      apply RunAlike.mapM (itemsAlike_iff.mp parts) (grows_alike view)
      intro final beyond item item' alike
      exact functions final (further.trans beyond) item item' (alike.mono beyond)
    apply values.bind
    intro final beyond values values' alike
    exact .newList (itemsAlike_iff.mpr alike)
  · exact .fail trivial

theorem find {operands : List Datum} (covered : AllCovered view pairing names operands) :
    RunAlike view pairing names (Alike view) (find recur operands) (Eval.find recur' operands) := by
  rcases operands with _ | ⟨list, _ | ⟨expression, _ | ⟨surplus, rest⟩⟩⟩
  · exact .fail trivial
  · exact .fail trivial
  · apply simulates.items "find" covered.head
    intro later grows items items' parts
    apply (simulates.itemFunction (covered.tail.head.mono grows)).bind
    intro last further function function' functions
    apply (search_alike functions (parts.mono further) 0).bind
    intro final beyond found found' alike
    match found, found', alike with
    | none, none, _ => exact .pure fun _ _ => .nil
    | some (_, _), some (_, _), ⟨_, item⟩ => exact .pure fun _ grows => item.mono grows
  · exact .fail trivial

theorem findIndex {operands : List Datum} (covered : AllCovered view pairing names operands) :
    RunAlike view pairing names (Alike view) (findIndex recur operands)
      (Eval.findIndex recur' operands) := by
  rcases operands with _ | ⟨list, _ | ⟨expression, _ | ⟨surplus, rest⟩⟩⟩
  · exact .fail trivial
  · exact .fail trivial
  · apply simulates.items "find-index" covered.head
    intro later grows items items' parts
    apply (simulates.itemFunction (covered.tail.head.mono grows)).bind
    intro last further function function' functions
    apply (search_alike functions (parts.mono further) 0).bind
    intro final beyond found found' alike
    match found, found', alike with
    | none, none, _ => exact .pure fun _ _ => .int (-1)
    | some (place, _), some (_, _), ⟨rfl, _⟩ => exact .pure fun _ _ => .int place
  · exact .fail trivial

theorem count {operands : List Datum} (covered : AllCovered view pairing names operands) :
    RunAlike view pairing names (Alike view) (count recur operands)
      (Eval.count recur' operands) := by
  rcases operands with _ | ⟨list, _ | ⟨expression, _ | ⟨surplus, rest⟩⟩⟩
  · exact .fail trivial
  · apply simulates.items "count" covered.head
    intro later grows items items' parts
    rw [parts.length_eq]
    exact .pure fun _ _ => .int _
  · apply simulates.items "count" covered.head
    intro later grows items items' parts
    apply (simulates.itemFunction (covered.tail.head.mono grows)).bind
    intro last further function function' functions
    apply (keep_alike functions (parts.mono further)).map
    intro final beyond kept kept' alike _ _
    rw [alike.length_eq]
    exact .int _
  · exact .fail trivial

theorem sortBy {operands : List Datum} (covered : AllCovered view pairing names operands) :
    RunAlike view pairing names (Alike view) (sortBy recur operands)
      (Eval.sortBy recur' operands) := by
  rcases operands with _ | ⟨list, _ | ⟨expression, _ | ⟨surplus, rest⟩⟩⟩
  · exact .fail trivial
  · exact .fail trivial
  · apply simulates.items "sort-by" covered.head
    intro later grows items items' parts
    apply (simulates.itemFunction (covered.tail.head.mono grows)).bind
    intro last further function function' functions
    apply (keyed_alike functions (parts.mono further) 0).bind
    intro final beyond keys keys' alike
    apply RunAlike.ask
    intro around
    have sorts : RunAlike view final names (fun last => List.Forall₂ (KeyedAlike view last))
        (ofExcept (Sorting.sort (goesBefore around) keys))
        (ofExcept (Sorting.sort (goesBefore around) keys')) := by
      apply RunAlike.ofExcept
      intro end' grows
      exact sort_alike around (alike.imp fun _ _ keyed => keyed.mono grows)
    apply sorts.bind
    intro end' grows sorted sorted' order
    apply RunAlike.newList
    rw [itemsAlike_iff, List.forall₂_map_left_iff, List.forall₂_map_right_iff]
    exact order.imp fun _ _ keyed => keyed.item
  · exact .fail trivial

/-! ### Expressions -/

/-- Every special form runs alike. -/
theorem form (form : Form) {operands : List Datum}
    (covered : AllCovered view pairing names operands) :
    RunAlike view pairing names (Alike view) (Eval.form recur form operands)
      (Eval.form recur' form operands) := by
  cases form with
  | conditional => exact simulates.conditional covered
  | letIn => exact simulates.letIn covered
  | cond => exact simulates.cond covered
  | begin => exact simulates.sequence covered .nil
  | quote => exact quote covered
  | lambda => exact lambda covered
  | define => exact simulates.definition covered
  | apply => exact simulates.apply covered
  | filter => exact simulates.filter covered
  | map => exact simulates.map covered
  | find => exact simulates.find covered
  | findIndex => exact simulates.findIndex covered
  | sortBy => exact simulates.sortBy covered
  | count => exact simulates.count covered
  | reduce => exact simulates.reduce covered

/-- The values of operands are alike. -/
theorem operands {operands : List Datum} (covered : AllCovered view pairing names operands) :
    RunAlike view pairing names (ItemsAlike view) (operands.mapM recur) (operands.mapM recur') := by
  have values : RunAlike view pairing names (fun last => List.Forall₂ (Alike view last))
      (operands.mapM recur) (operands.mapM recur') := by
    have given : List.Forall₂ (fun one other => one = other ∧ one ∈ operands) operands operands :=
      List.forall₂_same.mpr fun operand mem => ⟨rfl, mem⟩
    apply RunAlike.mapM given (grows_alike view)
    rintro later grows operand _ ⟨rfl, mem⟩
    exact simulates.part ((covered operand mem).mono grows)
  exact values.weaken fun _ _ _ _ alike => itemsAlike_iff.mpr alike

/-- Functions that are alike are called with the values of operands. -/
theorem callFunction {function function' : Closure}
    (alike : Alike view pairing function.toDatum function'.toDatum) {operands : List Datum}
    (covered : AllCovered view pairing names operands) :
    RunAlike view pairing names (Alike view)
      (operands.mapM recur >>= Eval.applyClosure recur function)
      (operands.mapM recur' >>= Eval.applyClosure recur' function') := by
  apply (simulates.operands covered).bind
  intro later grows arguments arguments' given
  exact simulates.applyClosure (alike.mono grows) given

theorem callValue {head : Datum} {operands : List Datum}
    (covered : AllCovered view pairing names (head :: operands)) :
    RunAlike view pairing names (Alike view) (callValue recur head operands)
      (Eval.callValue recur' head operands) := by
  apply (simulates.part covered.head).bind
  intro later grows callee callee' alike
  have callees := alike.closure?
  generalize callee.closure? = function, callee'.closure? = function' at callees ⊢
  cases callees with
  | none => exact RunAlike.bindSame (.plain (plain_headName head)) fun name => .fail trivial
  | some functionAlike => exact simulates.callFunction functionAlike (covered.tail.mono grows)

theorem callName {registry : Registry}
    (parametric : ∀ name primitive, registry.get? name = some primitive → primitive.Parametric view)
    {name : String} {operands : List Datum}
    (covered : AllCovered view pairing names (.symbol name :: operands)) :
    RunAlike view pairing names (Alike view) (callName registry recur name operands)
      (Eval.callName registry recur' name operands) := by
  apply RunAlike.scope.bind
  intro later grows scope scope' scopes
  have callees := (scopes name (.inr (covered.head.names .symbol))).closure?
  generalize (Table.get? scope name).bind Datum.closure? = function,
    (Table.get? scope' name).bind Datum.closure? = function' at callees ⊢
  cases callees with
  | some functionAlike => exact simulates.callFunction functionAlike (covered.tail.mono grows)
  | none =>
    cases found : registry.get? name with
    | some primitive =>
      apply (simulates.operands (covered.tail.mono grows)).bind
      intro last further arguments arguments' given
      exact parametric name primitive found last names recur recur' arguments arguments' given
    | none => exact simulates.callValue (covered.mono grows)

theorem list {registry : Registry}
    (parametric : ∀ name primitive, registry.get? name = some primitive → primitive.Parametric view)
    {mark : Option Mark} {head : Datum} {operands : List Datum}
    (fit : Fit view pairing (.list mark (head :: operands)))
    (needed : ∀ name, (Datum.list mark (head :: operands)).Needs name → names name) :
    RunAlike view pairing names (Alike view) (list registry recur head operands)
      (Eval.list registry recur' head operands) := by
  have covered : AllCovered view pairing names operands := fun operand mem =>
    ⟨fit.item (.tail head mem), fun mentions => needed _ (Datum.needs_of_operand mem mentions)⟩
  -- The name of a form need not be bound alike, but any other head is looked up or evaluated.
  have whole (notBegin : head ≠ Datum.beginSymbol) :
      AllCovered view pairing names (head :: operands) := by
    intro part mem
    cases mem with
    | head =>
      exact ⟨fit.item (.head _), fun mentions => needed _ (Datum.needs_of_head notBegin mentions)⟩
    | tail _ mem => exact covered part mem
  unfold Eval.list
  split
  · next name =>
    cases found : Form.ofName? name with
    | some form => exact simulates.form form covered
    | none =>
      apply simulates.callName parametric
      apply whole
      rintro ⟨⟩
      cases found
  · next notSymbol =>
    apply simulates.callValue
    apply whole
    rintro rfl
    exact notSymbol "begin" rfl

/-- One level of evaluation runs alike if the levels below do. -/
theorem step {registry : Registry}
    (parametric : ∀ name primitive, registry.get? name = some primitive →
      primitive.Parametric view) :
    Simulates view (step registry recur) (Eval.step registry recur') := by
  intro pairing names expression fit needed
  unfold Eval.step
  split
  · next name =>
    apply RunAlike.scope.map
    intro later grows scope scope' scopes last further
    have bound := (scopes name (.inr (needed name (Datum.needs_symbol name)))).mono further
    generalize Table.get? scope name = binding, Table.get? scope' name = binding' at bound ⊢
    cases bound with
    | none => exact .string name
    | some alike => exact alike
  · exact .pure fun _ _ => .list .none .nil
  · exact simulates.list parametric fit needed
  · exact RunAlike.bindSame (.plain (.text _ _)) fun shown => .fail trivial
  · next notSymbol notEmpty notList notObject =>
    cases fit with
    | symbol name => exact (notSymbol name rfl).elim
    | @list mark items parts =>
      cases items with
      | nil => exact (notEmpty mark rfl).elim
      | cons head operands => exact (notList mark head operands rfl).elim
    | literal alike => exact .pure fun _ grows => alike.mono grows

end Simulates

/-- Evaluation through any number of levels runs alike with primitives that are parametric. -/
theorem evaluateFor_simulates {view : View} {registry : Registry}
    (parametric : ∀ name primitive, registry.get? name = some primitive → primitive.Parametric view)
    (levels : Nat) :
    Simulates view (evaluateFor registry levels) (evaluateFor registry levels) := by
  induction levels with
  | zero => exact fun pairing names expression _ _ => .ask fun around => .fail trivial
  | succ levels ih => exact ih.step parametric

end SandboxLisp.Eval

namespace SandboxLisp.Evaluator

/-- Evaluating an expression with the default primitives ends alike in two worlds that bind the names
it needs alike.  Both draw the same marks, so no marks are paired but with themselves. -/
theorem evaluateIn_alike {view : View} (allowed : view.symbols) {names : String → Prop}
    (around : Surroundings) {expression : Datum}
    (needed : ∀ name, expression.Needs name → names name) {world world' : World}
    (worlds : WorldsAlike view .same names world world') :
    EndsAlike view .same names (Alike view .same) (evaluateIn .default around expression world)
      (evaluateIn .default around expression world') := by
  have simulated : Eval.Simulates view (Eval.evaluateFor .default (levels around))
      (Eval.evaluateFor .default (levels around)) :=
    Eval.evaluateFor_simulates (fun _ _ => Registry.parametric_of_get?) _
  have fit : Fit view .same expression := .literal (.refl allowed expression)
  obtain ⟨last, beyond, -, ends⟩ :=
    simulated .same names expression fit needed around .same (le_refl _) world world' worlds
  obtain rfl := Pairing.eq_same_of_le beyond
  exact ends

end SandboxLisp.Evaluator
