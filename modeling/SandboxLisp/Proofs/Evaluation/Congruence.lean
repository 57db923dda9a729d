import SandboxLisp.Evaluator
import SandboxLisp.Proofs.Evaluation.Exposure
import SandboxLisp.Proofs.Evaluation.Primitives

/-!
# Congruences of computations

A relation between computations is a congruence if steady computations are related to themselves
and sequences keep it.  The rules of the evaluator take the evaluation of the parts as an argument,
so if two evaluations are related on the parts of an expression that are evaluated in its own scope,
and on all that runs in other scopes, they are related on the whole: `Congruence.step` says so once
for every form, call and primitive.
-/

namespace SandboxLisp.Eval

/-- A relation that sequences keep, with the names that may be bound where it holds. -/
structure Congruence (mayBind : String → Prop)
    (Related : {α : Type} → Eval α → Eval α → Prop) : Prop where
  steady {α : Type} {computation : Eval α} (steady : Steady computation) :
    Related computation computation
  scope : Related scope scope
  define {name : String} (binds : mayBind name) (value : Datum) :
    Related (define name value) (define name value)
  /-- What goes on only has to be related for the values that can come out. -/
  bindReached {α β : Type} {first first' : Eval α} {next next' : α → Eval β}
    (one : Related first first')
    (other : ∀ value, (∃ around world, (first around world).1 = .ok value) →
      Related (next value) (next' value)) :
    Related (first >>= next) (first' >>= next')

/-- Two evaluations of parts that are related in every scope of its own, and on functions that are
looked up or made before a list is gone through. -/
structure RelatedInside (Related : {α : Type} → Eval α → Eval α → Prop)
    (recur recur' : Datum → Eval Datum) : Prop where
  expression (inner : Scope) (expression : Datum) :
    Related (inScope inner (recur expression)) (inScope inner (recur' expression))
  locals (inner : Scope) (bindings : List Datum) (body : Datum) :
    Related (inScope inner (bindLocals recur bindings >>= fun _ => recur body))
      (inScope inner (bindLocals recur' bindings >>= fun _ => recur' body))
  place {expression : Datum} (isPlace : isFunctionPlace expression = true) :
    Related (recur expression) (recur' expression)

theorem RelatedInside.applyClosure {Related : {α : Type} → Eval α → Eval α → Prop}
    {recur recur' : Datum → Eval Datum} (inside : RelatedInside @Related recur recur')
    (function : Closure) (arguments : List Datum) :
    Related (applyClosure recur function arguments) (Eval.applyClosure recur' function arguments) :=
  inside.expression _ function.body

theorem steady_checkNesting (datum : Datum) : Steady (checkNesting datum) := by
  apply Steady.ask
  · intro around
    split
    · exact .fail _
    · exact .pure _
  · intro clock limit other
    rfl

theorem steady_bindingName (target : Datum) : Steady (bindingName target) := by
  unfold bindingName
  split
  · exact .pure _
  · exact .text _ _

theorem steady_parameterNames (form : String) (params : Datum) :
    Steady (parameterNames form params) := by
  unfold parameterNames
  split
  · exact .mapM steady_bindingName _
  · exact (Steady.text _ _).bind fun shown => .fail _

theorem steady_quote (operands : List Datum) : Steady (quote operands) := by
  unfold quote
  split
  · refine (steady_checkNesting _).bind fun _ => ?_
    split
    · exact .newList _
    · exact .pure _
  · exact .fail _

theorem steady_expectList (name : String) (datum : Datum) : Steady (expectList name datum) := by
  unfold expectList
  split
  · exact .pure _
  · exact .fail _

theorem steady_headName (head : Datum) : Steady (headName head) := by
  unfold headName
  split
  · exact .pure _
  · exact .text _ _

theorem steady_sort (keys : List Keyed) :
    Steady (surroundings >>= fun around => ofExcept (Sorting.sort (goesBefore around) keys)) := by
  apply Steady.ask
  · intro around
    exact .ofExcept _
  · intro clock limit other
    rfl

namespace Congruence

variable {mayBind : String → Prop} {Related : {α : Type} → Eval α → Eval α → Prop}
  (congruence : Congruence mayBind @Related)

include congruence

theorem bind {α β : Type} {first first' : Eval α} {next next' : α → Eval β}
    (one : Related first first') (other : ∀ value, Related (next value) (next' value)) :
    Related (first >>= next) (first' >>= next') :=
  congruence.bindReached one fun value _ => other value

theorem pure {α : Type} (value : α) : Related (pure value : Eval α) (Pure.pure value) :=
  congruence.steady (.pure value)

theorem fail {α : Type} (error : EvalError) : Related (fail error : Eval α) (Eval.fail error) :=
  congruence.steady (.fail error)

/-- What goes on with the name of a place only has to be related for that name. -/
theorem bindingName (target : Datum) {β : Type} {next next' : String → Eval β}
    (other : Related (next target.bindingText) (next' target.bindingText)) :
    Related (bindingName target >>= next) (Eval.bindingName target >>= next') := by
  refine congruence.bindReached (congruence.steady (steady_bindingName target)) ?_
  rintro name ⟨around, world, named⟩
  rw [eq_bindingText named]
  exact other

theorem closure (params : List String) (body : Datum) (self : Option String) :
    Related (closure params body self) (Eval.closure params body self) := by
  refine congruence.bind (congruence.steady .freshMark) fun mark => ?_
  exact congruence.bind congruence.scope fun scope => congruence.pure _

theorem lambda (operands : List Datum) :
    Related (lambda operands) (Eval.lambda operands) := by
  unfold Eval.lambda
  split
  · exact congruence.fail _
  · refine congruence.bind (congruence.steady (steady_parameterNames _ _)) fun names => ?_
    exact congruence.closure _ _ _

/-! ### Items of a list -/

theorem mapM {α β : Type} {function function' : α → Eval β} (values : List α)
    (same : ∀ value ∈ values, Related (function value) (function' value)) :
    Related (values.mapM function) (values.mapM function') := by
  induction values with
  | nil =>
      simp only [List.mapM_nil]
      exact congruence.pure _
  | cons value rest ih =>
      simp only [List.mapM_cons]
      refine congruence.bind (same value (.head _)) fun first => ?_
      refine congruence.bind (ih ?_) fun others => congruence.pure _
      exact fun other among => same other (.tail _ among)

theorem fold {step step' : Datum → Datum → Eval Datum}
    (same : ∀ value item, Related (step value item) (step' value item)) (items : List Datum)
    (value : Datum) : Related (fold step value items) (Eval.fold step' value items) := by
  induction items generalizing value with
  | nil => exact congruence.pure _
  | cons item rest ih => exact congruence.bind (same value item) ih

section Items

variable {function function' : Datum → Eval Datum}
  (same : ∀ item, Related (function item) (function' item))

include same

theorem keep (items : List Datum) : Related (keep function items) (Eval.keep function' items) := by
  induction items with
  | nil => exact congruence.pure _
  | cons item rest ih =>
      refine congruence.bind (same item) fun value => ?_
      exact congruence.bind ih fun kept => congruence.pure _

theorem search (items : List Datum) (index : Nat) :
    Related (search function index items) (Eval.search function' index items) := by
  induction items generalizing index with
  | nil => exact congruence.pure _
  | cons item rest ih =>
      refine congruence.bind (same item) fun value => ?_
      split
      · exact congruence.pure _
      · exact ih (index + 1)

theorem keyed (items : List Datum) (place : Nat) :
    Related (keyed function place items) (Eval.keyed function' place items) := by
  induction items generalizing place with
  | nil => exact congruence.pure _
  | cons item rest ih =>
      refine congruence.bind (same item) fun key => ?_
      exact congruence.bind (ih (place + 1)) fun others => congruence.pure _

end Items

/-! ### Control and binding -/

section Forms

variable {recur recur' : Datum → Eval Datum}

theorem sequence (expressions : List Datum)
    (own : ∀ part ∈ expressions, Related (recur part) (recur' part)) (result : Datum) :
    Related (sequence recur result expressions) (Eval.sequence recur' result expressions) := by
  induction expressions generalizing result with
  | nil => exact congruence.pure _
  | cons expression rest ih =>
      refine congruence.bind (own expression (.head _)) fun value => ?_
      exact ih (fun part among => own part (.tail _ among)) value

theorem conditional (operands : List Datum)
    (own : ∀ part ∈ operands, Related (recur part) (recur' part)) :
    Related (conditional recur operands) (Eval.conditional recur' operands) := by
  unfold Eval.conditional
  split
  · refine congruence.bind (own _ (by simp)) fun value => ?_
    split
    · exact own _ (by simp)
    · exact congruence.pure _
  · refine congruence.bind (own _ (by simp)) fun value => ?_
    split
    · exact own _ (by simp)
    · exact own _ (by simp)
  · exact congruence.fail _

theorem cond (clauses : List Datum)
    (own : ∀ part ∈ clauses.flatMap Datum.clauseParts, Related (recur part) (recur' part)) :
    Related (cond recur clauses) (Eval.cond recur' clauses) := by
  fun_induction Eval.cond recur clauses with
  | case1 => exact congruence.pure _
  | case2 mark test body rest isElse =>
      rw [Eval.cond, if_pos isElse]
      apply congruence.sequence
      intro part among
      exact own part (by simp [Datum.clauseParts, among])
  | case3 mark test body rest notElse ih =>
      rw [Eval.cond, if_neg notElse]
      refine congruence.bind (own test (by simp [Datum.clauseParts])) fun value => ?_
      split
      · apply congruence.sequence
        intro part among
        exact own part (by simp [Datum.clauseParts, among])
      · exact ih fun part among => own part (by simp [List.mem_flatMap.mp among])
  | case4 clause rest notClause =>
      rw [Eval.cond]
      · exact congruence.steady ((Steady.text _ _).bind fun shown => .fail _)
      · exact notClause

theorem definition (operands : List Datum)
    (own : ∀ part ∈ Form.define.ownParts operands, Related (recur part) (recur' part))
    (targets : ∀ name ∈ Form.define.targets operands, mayBind name) :
    Related (definition recur operands) (Eval.definition recur' operands) := by
  unfold Eval.definition
  split
  · exact congruence.fail _
  · exact congruence.fail _
  · apply congruence.bindingName
    refine congruence.bind (congruence.steady (steady_parameterNames _ _)) fun names => ?_
    refine congruence.bind (congruence.closure _ _ _) fun function => ?_
    refine congruence.bind (congruence.define (targets _ ?_) _) fun _ => congruence.pure _
    simp [Form.targets]
  · next target expression notEmpty notFunction =>
    obtain ⟨parts, names⟩ := Form.ownParts_define notFunction
    rw [parts] at own
    rw [names] at targets
    refine congruence.bind (own _ (.head _)) fun value => ?_
    apply congruence.bindingName
    exact congruence.bind (congruence.define (targets _ (.head _)) _) fun _ => congruence.pure _
  · exact congruence.fail _

/-- What goes on with the items of a list only has to be related for each list. -/
theorem items (name : String) {expression : Datum}
    (one : Related (recur expression) (recur' expression)) {β : Type} {next next' : List Datum → Eval β}
    (other : ∀ items, Related (next items) (next' items)) :
    Related (recur expression >>= fun value => expectList name value >>= next)
      (recur' expression >>= fun value => expectList name value >>= next') :=
  congruence.bind one fun value =>
    congruence.bind (congruence.steady (steady_expectList name value)) other

/-! ### Calls -/

section Inside

variable (inside : RelatedInside @Related recur recur')

include inside

theorem letIn (operands : List Datum) :
    Related (letIn recur operands) (Eval.letIn recur' operands) := by
  unfold Eval.letIn
  split
  · exact congruence.fail _
  · exact congruence.bind congruence.scope fun scope => inside.locals scope _ _
  · exact congruence.fail _

theorem apply (operands : List Datum)
    (own : ∀ part ∈ operands, Related (recur part) (recur' part)) :
    Related (apply recur operands) (Eval.apply recur' operands) := by
  unfold Eval.apply
  split
  · refine congruence.bind (own _ (by simp)) fun callee => ?_
    refine congruence.bind (own _ (by simp)) fun given => ?_
    split
    · exact congruence.steady ((Steady.text _ _).bind fun shown => .fail _)
    · split
      · exact inside.applyClosure _ _
      · exact congruence.fail _
  · exact congruence.fail _

theorem reduce (operands : List Datum)
    (own : ∀ part ∈ Form.reduce.ownParts operands, Related (recur part) (recur' part)) :
    Related (reduce recur operands) (Eval.reduce recur' operands) := by
  unfold Eval.reduce
  split
  · refine congruence.items _ (own _ (by simp [Form.ownParts])) fun items => ?_
    refine congruence.bind (own _ (by simp [Form.ownParts])) fun value => ?_
    split
    · apply congruence.bindingName
      apply congruence.bindingName
      apply congruence.fold
      intro value item
      exact congruence.bind congruence.scope fun scope => inside.expression _ _
    · exact congruence.fail _
  · refine congruence.items _ (own _ (by simp [Form.ownParts])) fun items => ?_
    refine congruence.bind (own _ (by simp [Form.ownParts])) fun value => ?_
    refine congruence.bind (own _ (by simp [Form.ownParts])) fun callee => ?_
    split
    · exact congruence.steady ((Steady.text _ _).bind fun shown => .fail _)
    · exact congruence.fold (fun value item => inside.applyClosure _ _) items value
  · exact congruence.fail _

/-! ### A function for each item -/

theorem inlineItem (expression item : Datum) :
    Related (inlineItem recur expression item) (Eval.inlineItem recur' expression item) := by
  refine congruence.bind congruence.scope fun scope => ?_
  refine congruence.bind (inside.expression _ expression) fun value => ?_
  split
  · exact inside.applyClosure _ _
  · exact congruence.pure _

/-- What goes on with the function for the items only has to be related for related functions. -/
theorem itemFunction (expression : Datum) {β : Type}
    {next next' : (Datum → Eval Datum) → Eval β}
    (other : ∀ function function', (∀ item, Related (function item) (function' item)) →
      Related (next function) (next' function')) :
    Related (itemFunction recur expression >>= next)
      (Eval.itemFunction recur' expression >>= next') := by
  have inline := other _ _ (congruence.inlineItem inside expression)
  unfold Eval.itemFunction
  split
  · next isPlace =>
    rw [bind_assoc, bind_assoc]
    refine congruence.bind (inside.place isPlace) fun value => ?_
    split
    · exact other _ _ fun item => inside.applyClosure _ _
    · exact inline
  · exact inline

theorem filter (operands : List Datum)
    (own : ∀ part ∈ Form.filter.ownParts operands, Related (recur part) (recur' part)) :
    Related (filter recur operands) (Eval.filter recur' operands) := by
  unfold Eval.filter
  split
  · refine congruence.itemFunction inside _ fun function function' same => ?_
    refine congruence.items _ (own _ (.head _)) fun items => ?_
    exact congruence.bind (congruence.keep same items) fun kept => congruence.steady (.newList _)
  · exact congruence.fail _

theorem map (operands : List Datum)
    (own : ∀ part ∈ Form.map.ownParts operands, Related (recur part) (recur' part)) :
    Related (map recur operands) (Eval.map recur' operands) := by
  unfold Eval.map
  split
  · refine congruence.itemFunction inside _ fun function function' same => ?_
    refine congruence.items _ (own _ (.head _)) fun items => ?_
    refine congruence.bind (congruence.mapM items fun item _ => same item) fun values => ?_
    exact congruence.steady (.newList _)
  · exact congruence.fail _

theorem find (operands : List Datum)
    (own : ∀ part ∈ Form.find.ownParts operands, Related (recur part) (recur' part)) :
    Related (find recur operands) (Eval.find recur' operands) := by
  unfold Eval.find
  split
  · refine congruence.items _ (own _ (.head _)) fun items => ?_
    refine congruence.itemFunction inside _ fun function function' same => ?_
    refine congruence.bind (congruence.search same items 0) fun found => ?_
    split
    · exact congruence.pure _
    · exact congruence.pure _
  · exact congruence.fail _

theorem findIndex (operands : List Datum)
    (own : ∀ part ∈ Form.findIndex.ownParts operands, Related (recur part) (recur' part)) :
    Related (findIndex recur operands) (Eval.findIndex recur' operands) := by
  unfold Eval.findIndex
  split
  · refine congruence.items _ (own _ (.head _)) fun items => ?_
    refine congruence.itemFunction inside _ fun function function' same => ?_
    refine congruence.bind (congruence.search same items 0) fun found => ?_
    split
    · exact congruence.pure _
    · exact congruence.pure _
  · exact congruence.fail _

theorem count (operands : List Datum)
    (own : ∀ part ∈ Form.count.ownParts operands, Related (recur part) (recur' part)) :
    Related (count recur operands) (Eval.count recur' operands) := by
  unfold Eval.count
  split
  · exact congruence.items _ (own _ (.head _)) fun items => congruence.pure _
  · refine congruence.items _ (own _ (.head _)) fun items => ?_
    refine congruence.itemFunction inside _ fun function function' same => ?_
    exact congruence.bind (congruence.keep same items) fun kept => congruence.pure _
  · exact congruence.fail _

theorem sortBy (operands : List Datum)
    (own : ∀ part ∈ Form.sortBy.ownParts operands, Related (recur part) (recur' part)) :
    Related (sortBy recur operands) (Eval.sortBy recur' operands) := by
  unfold Eval.sortBy
  split
  · refine congruence.items _ (own _ (.head _)) fun items => ?_
    refine congruence.itemFunction inside _ fun function function' same => ?_
    refine congruence.bind (congruence.keyed same items 0) fun keys => ?_
    rw [← bind_assoc]
    exact congruence.bind (congruence.steady (steady_sort keys)) fun sorted =>
      congruence.steady (.newList _)
  · exact congruence.fail _

/-! ### Expressions -/

/-- Every special form keeps a congruence. -/
theorem form (form : Form) (operands : List Datum)
    (own : ∀ part ∈ form.ownParts operands, Related (recur part) (recur' part))
    (targets : ∀ name ∈ form.targets operands, mayBind name) :
    Related (Eval.form recur form operands) (Eval.form recur' form operands) := by
  cases form with
  | conditional => exact congruence.conditional operands own
  | letIn => exact congruence.letIn inside operands
  | cond => exact congruence.cond operands own
  | begin => exact congruence.sequence operands own .nil
  | quote => exact congruence.steady (steady_quote operands)
  | lambda => exact congruence.lambda operands
  | define => exact congruence.definition operands own targets
  | apply => exact congruence.apply inside operands own
  | filter => exact congruence.filter inside operands own
  | map => exact congruence.map inside operands own
  | find => exact congruence.find inside operands own
  | findIndex => exact congruence.findIndex inside operands own
  | sortBy => exact congruence.sortBy inside operands own
  | count => exact congruence.count inside operands own
  | reduce => exact congruence.reduce inside operands own

theorem callValue (head : Datum) (operands : List Datum)
    (own : ∀ part ∈ head :: operands, Related (recur part) (recur' part)) :
    Related (callValue recur head operands) (Eval.callValue recur' head operands) := by
  refine congruence.bind (own head (.head _)) fun value => ?_
  split
  · have others : ∀ part ∈ operands, Related (recur part) (recur' part) :=
      fun part among => own part (.tail _ among)
    refine congruence.bind (congruence.mapM operands others) fun arguments => ?_
    exact inside.applyClosure _ arguments
  · exact congruence.steady ((steady_headName head).bind fun name => .fail _)

theorem callName (name : String) (operands : List Datum)
    (own : ∀ part ∈ .symbol name :: operands, Related (recur part) (recur' part)) :
    Related (callName .default recur name operands)
      (Eval.callName .default recur' name operands) := by
  have others : ∀ part ∈ operands, Related (recur part) (recur' part) :=
    fun part among => own part (.tail _ among)
  refine congruence.bind congruence.scope fun scope => ?_
  split
  · refine congruence.bind (congruence.mapM operands others) fun arguments => ?_
    exact inside.applyClosure _ arguments
  · split
    · next primitive found =>
      have isSteady := Registry.isSteady_of_get? found
      refine congruence.bind (congruence.mapM operands others) fun arguments => ?_
      rw [isSteady.ignores recur' recur]
      exact congruence.steady (isSteady.steady recur arguments)
    · exact congruence.callValue inside _ operands own

theorem list (mark : Option Mark) (head : Datum) (operands : List Datum)
    (own : ∀ part ∈ (Datum.list mark (head :: operands)).ownParts,
      Related (recur part) (recur' part))
    (targets : ∀ name ∈ (Datum.list mark (head :: operands)).targets, mayBind name) :
    Related (list .default recur head operands) (Eval.list .default recur' head operands) := by
  simp only [Datum.ownParts, Datum.targets] at own targets
  unfold Eval.list
  split
  · next name =>
    cases found : Form.ofName? name with
    | some form =>
        simp only [Datum.form?, found, Option.map_some, Option.getD_some] at own targets
        exact congruence.form inside form operands own targets
    | none =>
        simp only [Datum.form?, found, Option.map_none, Option.getD_none] at own
        exact congruence.callName inside name operands own
  · next notSymbol =>
    have noForm : head.form? = none := by
      unfold Datum.form?
      split
      · next name => exact (notSymbol name rfl).elim
      · rfl
    simp only [noForm, Option.map_none, Option.getD_none] at own
    exact congruence.callValue inside head operands own

/-- One level of evaluation with the default primitives keeps a congruence. -/
theorem step (expression : Datum)
    (own : ∀ part ∈ expression.ownParts, Related (recur part) (recur' part))
    (targets : ∀ name ∈ expression.targets, mayBind name) :
    Related (step .default recur expression) (Eval.step .default recur' expression) := by
  unfold Eval.step
  split
  · exact congruence.bind congruence.scope fun scope => congruence.pure _
  · exact congruence.pure _
  · exact congruence.list inside _ _ _ own targets
  · exact congruence.steady ((Steady.text _ _).bind fun shown => .fail _)
  · exact congruence.pure _

end Inside

end Forms

end Congruence

section All

variable {Related : {α : Type} → Eval α → Eval α → Prop}
  (congruence : Congruence (fun _ => True) @Related) {recur recur' : Datum → Eval Datum}
  (parts : ∀ expression, Related (recur expression) (recur' expression))

include congruence parts

theorem Congruence.bindLocals (bindings : List Datum) :
    Related (bindLocals recur bindings) (Eval.bindLocals recur' bindings) := by
  fun_induction Eval.bindLocals recur bindings with
  | case1 => exact congruence.pure _
  | case2 mark target expression rest ih =>
      rw [Eval.bindLocals]
      refine congruence.bind (parts expression) fun value => ?_
      apply congruence.bindingName
      exact congruence.bind (congruence.define trivial value) fun _ => ih
  | case3 binding rest notPair =>
      rw [Eval.bindLocals]
      · exact congruence.steady ((Steady.text _ _).bind fun shown => .fail _)
      · exact notPair

/-- A congruence that entering a scope keeps, too, needs no more than related parts. -/
theorem RelatedInside.of_parts
    (inScope : ∀ {α : Type} (inner : Scope) {computation computation' : Eval α},
      Related computation computation' →
        Related (inScope inner computation) (Eval.inScope inner computation')) :
    RelatedInside @Related recur recur' where
  expression inner expression := inScope inner (parts expression)
  locals inner bindings body :=
    inScope inner (congruence.bind (congruence.bindLocals parts bindings) fun _ => parts body)
  place _ := parts _

end All

end SandboxLisp.Eval
