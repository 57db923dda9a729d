import SandboxLisp.Proofs.Identity.Primitives
import SandboxLisp.Proofs.Reading.Legible
import SandboxLisp.Proofs.Sorting.Permutation

/-!
# Evaluation keeps the store

Every form, call and default primitive keeps the store, so evaluation does.  The rules of the
evaluator take the evaluation of the parts as an argument: `KeepsValues` says what is known of it,
`KeepsValues.step` keeps that for one level, and `evaluateFor_keeps` is the induction.

So whatever marks an evaluation has given away, each stands for one list or object, wherever it
turns up in what is bound at the end and in the value (`evaluateIn_holds`).  A text that is evaluated
where nothing is bound needs no assumption for that (`evaluateText_holds`).
-/

namespace SandboxLisp

/-! ### Written expressions -/

section Written

variable {heap later : Heap}

/-- Expressions with kept literals. -/
def AllWritten (heap : Heap) (expressions : List Datum) : Prop :=
  ∀ expression ∈ expressions, Written heap expression

theorem Written.items {mark : Option Mark} {items : List Datum}
    (written : Written heap (.list mark items)) : AllWritten heap items := by
  cases written with
  | list _ parts => exact parts
  | literal kept => exact fun item isItem => .literal (kept.items item isItem)

namespace AllWritten

variable {expression : Datum} {expressions : List Datum}

theorem mono (grows : heap ≤ later) (written : AllWritten heap expressions) :
    AllWritten later expressions :=
  fun expression isOne => (written expression isOne).mono grows

theorem head (written : AllWritten heap (expression :: expressions)) : Written heap expression :=
  written expression (.head _)

theorem tail (written : AllWritten heap (expression :: expressions)) :
    AllWritten heap expressions :=
  fun other isOne => written other (.tail _ isOne)

/-- A body that forms make up is written if they are. -/
theorem body (written : AllWritten heap expressions) : Written heap (.ofBody expressions) := by
  unfold Datum.ofBody
  split
  · exact .literal (.plain rfl)
  · exact written.head
  · exact .list none (List.forall_mem_cons.mpr ⟨.literal (.plain rfl), written⟩)

end AllWritten

mutual

/-- A quotation has no marks but those of literals. -/
theorem Written.quotation : (expression : Datum) → Written heap expression →
    Kept heap expression.quotation
  | .symbol _, _ => .plain rfl
  | .list _ items, written => .list nofun (Written.quotations items written.items)
  | .nil, _ => .plain rfl
  | .bool _, _ => .plain rfl
  | .int _, _ => .plain rfl
  | .double _, _ => .plain rfl
  | .nan _, _ => .plain rfl
  | .string _, _ => .plain rfl
  | .object _ _, written => by
      cases written with
      | literal kept => exact kept
  | .closure _ _ _ _ _, written => by
      cases written with
      | literal kept => exact kept

theorem Written.quotations : (items : List Datum) → AllWritten heap items →
    Eval.KeptItems heap (Datum.quotations items)
  | [], _ => nofun
  | item :: rest, written =>
      List.forall_mem_cons.mpr
        ⟨Written.quotation item written.head, Written.quotations rest written.tail⟩

end

/-- What is read from a text has no literals with marks. -/
theorem Datum.Legible.written {expression : Datum} (legible : expression.Legible) :
    Written heap expression := by
  induction legible with
  | list _ ih => exact .list none ih
  | _ => exact .literal (.plain rfl)

end Written

namespace Eval

/-! ### Functions of items -/

/-- A function that gives kept values for kept items, now and later. -/
def KeepsItems (heap : Heap) (function : Datum → Eval Datum) : Prop :=
  ∀ later, heap ≤ later → ∀ item, Kept later item → Keeps later Kept (function item)

section Items

variable {heap later : Heap} {function : Datum → Eval Datum} {items : List Datum}

theorem KeepsItems.mono (grows : heap ≤ later) (keeps : KeepsItems heap function) :
    KeepsItems later function :=
  fun last further => keeps last (grows.trans further)

theorem keeps_keep (keeps : KeepsItems heap function) (kept : KeptItems heap items) :
    Keeps heap KeptItems (keep function items) := by
  induction items generalizing heap with
  | nil => exact .pure fun _ _ => nofun
  | cons item rest ih =>
    obtain ⟨first, others⟩ := List.forall_mem_cons.mp kept
    refine (keeps heap (le_refl heap) item first).bind fun later grows value _ => ?_
    refine (ih (keeps.mono grows) (KeptItems.mono grows others)).map ?_
    intro last further chosen keptChosen final beyond
    have behind := KeptItems.mono beyond keptChosen
    split
    · exact List.forall_mem_cons.mpr ⟨first.mono (grows.trans (further.trans beyond)), behind⟩
    · exact behind

/-- An item that was found is kept. -/
def KeptFound (heap : Heap) (found : Option (Nat × Datum)) : Prop :=
  ∀ place item, found = some (place, item) → Kept heap item

theorem keeps_search (keeps : KeepsItems heap function) (kept : KeptItems heap items)
    (index : Nat) : Keeps heap KeptFound (search function index items) := by
  induction items generalizing heap index with
  | nil => exact .pure fun _ _ => nofun
  | cons item rest ih =>
    obtain ⟨first, others⟩ := List.forall_mem_cons.mp kept
    refine (keeps heap (le_refl heap) item first).bind fun later grows value _ => ?_
    split
    · refine .pure fun last further => ?_
      rintro place found ⟨⟩
      exact first.mono (grows.trans further)
    · exact ih (keeps.mono grows) (KeptItems.mono grows others) (index + 1)

/-- The keys and the items of a list that is sorted are kept. -/
def KeptKeys (heap : Heap) (entries : List Keyed) : Prop :=
  ∀ entry ∈ entries, Kept heap entry.key ∧ Kept heap entry.item

theorem keeps_keyed (keeps : KeepsItems heap function) (kept : KeptItems heap items)
    (place : Nat) : Keeps heap KeptKeys (keyed function place items) := by
  induction items generalizing heap place with
  | nil => exact .pure fun _ _ => nofun
  | cons item rest ih =>
    obtain ⟨first, others⟩ := List.forall_mem_cons.mp kept
    refine (keeps heap (le_refl heap) item first).bind fun later grows key keptKey => ?_
    refine (ih (keeps.mono grows) (KeptItems.mono grows others) (place + 1)).map ?_
    intro last further entries keptEntries final beyond
    have whole := further.trans beyond
    refine List.forall_mem_cons.mpr ⟨⟨keptKey.mono whole, first.mono (grows.trans whole)⟩, ?_⟩
    intro entry isEntry
    exact (keptEntries entry isEntry).imp (.mono beyond) (.mono beyond)

theorem keeps_sort {entries : List Keyed} (kept : KeptKeys heap entries)
    (less : Keyed → Keyed → Except EvalError Bool) :
    Keeps heap KeptKeys (ofExcept (Sorting.sort less entries)) := by
  have rearranged := Sorting.sort_perm less entries
  cases sorting : Sorting.sort less entries with
  | ok sorted =>
    rw [sorting] at rearranged
    refine .pure fun later grows entry isEntry => ?_
    exact (kept entry (rearranged.mem_iff.mp isEntry)).imp (.mono grows) (.mono grows)
  | error cause => exact .fail cause

theorem keeps_fold {step : Datum → Datum → Eval Datum}
    (keeps : ∀ later, heap ≤ later → ∀ value item, Kept later value → Kept later item →
      Keeps later Kept (step value item))
    (kept : KeptItems heap items) {value : Datum} (keptValue : Kept heap value) :
    Keeps heap Kept (fold step value items) := by
  induction items generalizing heap value with
  | nil => exact .pure fun _ grows => keptValue.mono grows
  | cons item rest ih =>
    obtain ⟨first, others⟩ := List.forall_mem_cons.mp kept
    refine (keeps heap (le_refl heap) value item keptValue first).bind fun later grows next kept => ?_
    exact ih (fun last further => keeps last (grows.trans further)) (KeptItems.mono grows others) kept

end Items

/-! ### Rules -/

/-- An evaluation that gives kept values for written expressions. -/
def KeepsValues (recur : Datum → Eval Datum) : Prop :=
  ∀ {heap expression}, Written heap expression → Keeps heap Kept (recur expression)

namespace KeepsValues

variable {recur : Datum → Eval Datum} (keeps : KeepsValues recur) {heap : Heap}
  {operands : List Datum}

include keeps

theorem sequence {expressions : List Datum} (written : AllWritten heap expressions)
    {result : Datum} (kept : Kept heap result) :
    Keeps heap Kept (Eval.sequence recur result expressions) := by
  induction expressions generalizing heap result with
  | nil => exact .pure fun _ grows => kept.mono grows
  | cons expression rest ih =>
    refine (keeps written.head).bind fun later grows value kept => ?_
    exact ih (written.tail.mono grows) kept

theorem conditional (written : AllWritten heap operands) :
    Keeps heap Kept (Eval.conditional recur operands) := by
  unfold Eval.conditional
  split
  · refine (keeps written.head).bind fun later grows value _ => ?_
    split
    · exact keeps (written.tail.head.mono grows)
    · exact .pure fun _ _ => .plain rfl
  · refine (keeps written.head).bind fun later grows value _ => ?_
    split
    · exact keeps (written.tail.head.mono grows)
    · exact keeps (written.tail.tail.head.mono grows)
  · exact .fail _

theorem cond {clauses : List Datum} (written : AllWritten heap clauses) :
    Keeps heap Kept (Eval.cond recur clauses) := by
  induction clauses generalizing heap with
  | nil => exact .pure fun _ _ => .plain rfl
  | cons clause rest ih =>
    unfold Eval.cond
    split
    · contradiction
    · next mark test body others same =>
      cases same
      have parts := written.head.items
      split
      · exact keeps.sequence parts.tail (.plain rfl)
      · refine (keeps parts.head).bind fun later grows value kept => ?_
        split
        · exact keeps.sequence (parts.tail.mono grows) kept
        · exact ih (written.tail.mono grows)
    · exact (Keeps.text _ _).bindAny fun _ => .fail _

omit keeps in
theorem quote (written : AllWritten heap operands) : Keeps heap Kept (Eval.quote operands) := by
  unfold Eval.quote
  split
  · next expression =>
    refine (Keeps.plain (.checkNesting expression)).bindAny fun _ => ?_
    have kept := Written.quotation expression written.head
    split
    · next mark items same =>
      rw [same] at kept
      exact .newList kept.items
    · exact .pure fun _ grows => kept.mono grows
  · exact .fail _

omit keeps in
theorem lambda (written : AllWritten heap operands) : Keeps heap Kept (Eval.lambda operands) := by
  unfold Eval.lambda
  split
  · exact .fail _
  · next params body =>
    refine (Keeps.plain (plain_parameterNames "lambda" params)).bindAny fun names => ?_
    exact .closure names none written.tail.body

theorem definition (written : AllWritten heap operands) :
    Keeps heap Kept (Eval.definition recur operands) := by
  unfold Eval.definition
  split
  · exact .fail _
  · exact .fail _
  · next mark target params body =>
    refine (Keeps.plain (plain_bindingName target)).bindAny fun name => ?_
    refine (Keeps.plain (plain_parameterNames "define" _)).bindAny fun names => ?_
    refine (Keeps.closure names (some name) written.tail.body).bind fun later _ function kept => ?_
    exact (Keeps.define name kept).mapAny fun _ grows _ => kept.mono grows
  · refine (keeps written.tail.head).bind fun later _ value kept => ?_
    refine (Keeps.plain (plain_bindingName _)).bindAny fun name => ?_
    exact (Keeps.define name kept).mapAny fun _ grows _ => kept.mono grows
  · exact .fail _

theorem bindLocals {bindings : List Datum} (written : AllWritten heap bindings) :
    Keeps heap Whatever (Eval.bindLocals recur bindings) := by
  induction bindings generalizing heap with
  | nil => exact .pure fun _ _ => trivial
  | cons binding rest ih =>
    unfold Eval.bindLocals
    split
    · contradiction
    · next mark target expression others same =>
      cases same
      refine (keeps written.head.items.tail.head).bind fun later grows value kept => ?_
      refine (Keeps.plain (plain_bindingName target)).bindAny fun name => ?_
      exact (Keeps.define name kept).bindAny fun _ => ih (written.tail.mono grows)
    · exact (Keeps.text _ _).bindAny fun _ => .fail _

theorem letIn (written : AllWritten heap operands) :
    Keeps heap Kept (Eval.letIn recur operands) := by
  unfold Eval.letIn
  split
  · exact .fail _
  · refine Keeps.scope.bind fun later grows inner kept => .inScope kept ?_
    refine (keeps.bindLocals (written.head.items.mono grows)).bindAny fun _ => ?_
    exact keeps (written.tail.mono grows).body
  · exact .fail _

/-! ### Calls -/

theorem applyClosure {function : Closure} (kept : Kept heap function.toDatum)
    {arguments : List Datum} (keptArguments : KeptItems heap arguments) :
    Keeps heap Kept (Eval.applyClosure recur function arguments) :=
  .inScope (kept.bind keptArguments) (keeps kept.body)

/-- A value that is a function is called with kept arguments. -/
theorem applyValue {value : Datum} {function : Closure} (found : value.closure? = some function)
    (kept : Kept heap value) {arguments : List Datum} (keptArguments : KeptItems heap arguments) :
    Keeps heap Kept (Eval.applyClosure recur function arguments) :=
  keeps.applyClosure (Datum.eq_toDatum_of_closure? found ▸ kept) keptArguments

theorem apply (written : AllWritten heap operands) :
    Keeps heap Kept (Eval.apply recur operands) := by
  unfold Eval.apply
  split
  · refine (keeps written.head).bind fun later grows callee keptCallee => ?_
    refine (keeps (written.tail.head.mono grows)).bind fun last further given keptGiven => ?_
    split
    · exact (Keeps.text _ _).bindAny fun _ => .fail _
    · next closure found =>
      split
      · exact keeps.applyValue found (keptCallee.mono further) keptGiven.items
      · exact .fail _
  · exact .fail _

/-- The items of a list that an expression gives are kept. -/
theorem items (name : String) {expression : Datum} (written : Written heap expression) {α : Type}
    {Result : Heap → α → Prop} {next : List Datum → Eval α}
    (goOn : ∀ later, heap ≤ later → ∀ items, KeptItems later items → Keeps later Result (next items)) :
    Keeps heap Result (recur expression >>= fun value => expectList name value >>= next) := by
  refine (keeps written).bind fun later grows value kept => ?_
  refine (Primitive.keeps_list name kept).bind fun last further => ?_
  exact goOn last (grows.trans further)

theorem reduce (written : AllWritten heap operands) :
    Keeps heap Kept (Eval.reduce recur operands) := by
  unfold Eval.reduce
  split
  · next list initial params body =>
    refine keeps.items "reduce" written.head fun later grows items kept => ?_
    refine (keeps (written.tail.head.mono grows)).bind fun last further value keptValue => ?_
    have writtenBody := written.tail.tail.tail.head.mono (grows.trans further)
    split
    · refine (Keeps.plain (plain_bindingName _)).bindAny fun valueName => ?_
      refine (Keeps.plain (plain_bindingName _)).bindAny fun itemName => ?_
      refine keeps_fold ?_ (KeptItems.mono further kept) keptValue
      intro final beyond value item keptValue keptItem
      refine Keeps.scope.bind fun inside grows scope keptScope => ?_
      have bound :=
        (keptScope.put valueName (keptValue.mono grows)).put itemName (keptItem.mono grows)
      exact .inScope bound (keeps (writtenBody.mono (beyond.trans grows)))
    · exact .fail _
  · next list initial function =>
    refine keeps.items "reduce" written.head fun later grows items kept => ?_
    refine (keeps (written.tail.head.mono grows)).bind fun last further value keptValue => ?_
    refine (keeps (written.tail.tail.head.mono (grows.trans further))).bind ?_
    intro final beyond callee keptCallee
    split
    · exact (Keeps.text _ _).bindAny fun _ => .fail _
    · next closure found =>
      refine keeps_fold ?_ (KeptItems.mono (further.trans beyond) kept) (keptValue.mono beyond)
      intro inside grows value item keptValue keptItem
      refine keeps.applyValue found (keptCallee.mono grows) ?_
      exact List.forall_mem_cons.mpr ⟨keptValue, List.forall_mem_singleton.mpr keptItem⟩
  · exact .fail _

/-! ### Sequences -/

theorem inlineItem {expression : Datum} (written : Written heap expression) :
    KeepsItems heap (Eval.inlineItem recur expression) := by
  intro later grows item kept
  refine Keeps.scope.bind fun last further scope keptScope => ?_
  have keptItem := kept.mono further
  have bound : KeptScope last (itemScope scope item) := (keptScope.put "@" keptItem).put "it" keptItem
  refine (Keeps.inScope bound (keeps (written.mono (grows.trans further)))).bind ?_
  intro final beyond value keptValue
  split
  · next closure found =>
    exact keeps.applyValue found keptValue (List.forall_mem_singleton.mpr (keptItem.mono beyond))
  · exact .pure fun _ grows => keptValue.mono grows

theorem itemFunction {expression : Datum} (written : Written heap expression) :
    Keeps heap KeepsItems (Eval.itemFunction recur expression) := by
  have inline := keeps.inlineItem written
  unfold Eval.itemFunction
  split
  · refine (keeps written).bind fun later grows callee keptCallee => ?_
    split
    · next closure found =>
      refine .pure fun last further final beyond item kept => ?_
      exact keeps.applyValue found (keptCallee.mono (further.trans beyond))
        (List.forall_mem_singleton.mpr kept)
    · exact .pure fun _ further => inline.mono (grows.trans further)
  · exact .pure fun _ grows => inline.mono grows

theorem filter (written : AllWritten heap operands) :
    Keeps heap Kept (Eval.filter recur operands) := by
  unfold Eval.filter
  split
  · refine (keeps.itemFunction written.head).bind fun later grows function keepsItems => ?_
    refine keeps.items "filter" (written.tail.head.mono grows) fun last further items kept => ?_
    exact (keeps_keep (keepsItems.mono further) kept).bind fun _ _ _ chosen => .newList chosen
  · exact .fail _

theorem map (written : AllWritten heap operands) :
    Keeps heap Kept (Eval.map recur operands) := by
  unfold Eval.map
  split
  · refine (keeps.itemFunction written.head).bind fun later grows function keepsItems => ?_
    refine keeps.items "map" (written.tail.head.mono grows) fun last further items kept => ?_
    have values : Keeps last KeptItems (items.mapM function) :=
      .mapM kept (fun _ _ grows _ kept => kept.mono grows) fun final beyond item kept =>
        keepsItems final (further.trans beyond) item (kept.mono beyond)
    exact values.bind fun _ _ _ kept => .newList kept
  · exact .fail _

theorem find (written : AllWritten heap operands) :
    Keeps heap Kept (Eval.find recur operands) := by
  unfold Eval.find
  split
  · refine keeps.items "find" written.head fun later grows items kept => ?_
    refine (keeps.itemFunction (written.tail.head.mono grows)).bind ?_
    intro last further function keepsItems
    refine (keeps_search keepsItems (KeptItems.mono further kept) 0).bind ?_
    intro final beyond found keptFound
    split
    · exact .pure fun _ grows => (keptFound _ _ rfl).mono grows
    · exact .pure fun _ _ => .plain rfl
  · exact .fail _

theorem findIndex (written : AllWritten heap operands) :
    Keeps heap Kept (Eval.findIndex recur operands) := by
  unfold Eval.findIndex
  split
  · refine keeps.items "find-index" written.head fun later grows items kept => ?_
    refine (keeps.itemFunction (written.tail.head.mono grows)).bind ?_
    intro last further function keepsItems
    refine (keeps_search keepsItems (KeptItems.mono further kept) 0).bind ?_
    intro final beyond found keptFound
    split
    · exact .pure fun _ _ => .plain rfl
    · exact .pure fun _ _ => .plain rfl
  · exact .fail _

theorem count (written : AllWritten heap operands) :
    Keeps heap Kept (Eval.count recur operands) := by
  unfold Eval.count
  split
  · exact keeps.items "count" written.head fun _ _ _ _ => .pure fun _ _ => .plain rfl
  · refine keeps.items "count" written.head fun later grows items kept => ?_
    refine (keeps.itemFunction (written.tail.head.mono grows)).bind ?_
    intro last further function keepsItems
    refine (keeps_keep keepsItems (KeptItems.mono further kept)).map ?_
    exact fun _ _ _ _ _ _ => .plain rfl
  · exact .fail _

theorem sortBy (written : AllWritten heap operands) :
    Keeps heap Kept (Eval.sortBy recur operands) := by
  unfold Eval.sortBy
  split
  · refine keeps.items "sort-by" written.head fun later grows items kept => ?_
    refine (keeps.itemFunction (written.tail.head.mono grows)).bind ?_
    intro last further function keepsItems
    refine (keeps_keyed keepsItems (KeptItems.mono further kept) 0).bind ?_
    intro final beyond entries keptEntries
    refine .ask fun around => (keeps_sort keptEntries _).bind fun end' grows sorted keptSorted => ?_
    refine .newList fun item isItem => ?_
    obtain ⟨entry, isEntry, rfl⟩ := List.mem_map.mp isItem
    exact (keptSorted entry isEntry).2
  · exact .fail _

/-! ### Expressions -/

/-- Every special form keeps the store. -/
theorem form (form : Form) (written : AllWritten heap operands) :
    Keeps heap Kept (Eval.form recur form operands) := by
  cases form with
  | conditional => exact keeps.conditional written
  | letIn => exact keeps.letIn written
  | cond => exact keeps.cond written
  | begin => exact keeps.sequence written (.plain rfl)
  | quote => exact quote written
  | lambda => exact lambda written
  | define => exact keeps.definition written
  | apply => exact keeps.apply written
  | filter => exact keeps.filter written
  | map => exact keeps.map written
  | find => exact keeps.find written
  | findIndex => exact keeps.findIndex written
  | sortBy => exact keeps.sortBy written
  | count => exact keeps.count written
  | reduce => exact keeps.reduce written

/-- The values of operands are kept. -/
theorem values (written : AllWritten heap operands) :
    Keeps heap KeptItems (operands.mapM recur) :=
  .mapM written (fun _ _ grows _ kept => kept.mono grows) fun _ grows _ written =>
    keeps (written.mono grows)

theorem callValue {head : Datum} (written : AllWritten heap (head :: operands)) :
    Keeps heap Kept (Eval.callValue recur head operands) := by
  refine (keeps written.head).bind fun later grows callee keptCallee => ?_
  split
  · next function found =>
    refine (keeps.values (written.tail.mono grows)).bind fun last further arguments kept => ?_
    exact keeps.applyValue found (keptCallee.mono further) kept
  · exact (Keeps.plain (plain_headName head)).bindAny fun _ => .fail _

theorem callName {name : String} (written : AllWritten heap operands) :
    Keeps heap Kept (Eval.callName .default recur name operands) := by
  refine Keeps.scope.bind fun later grows scope keptScope => ?_
  split
  · next function found =>
    obtain ⟨value, bound, isFunction⟩ := Option.bind_eq_some_iff.mp found
    refine (keeps.values (written.mono grows)).bind fun last further arguments kept => ?_
    exact keeps.applyValue isFunction ((keptScope.get? bound).mono further) kept
  · split
    · next primitive found =>
      refine (keeps.values (written.mono grows)).bind fun last _ arguments kept => ?_
      exact Registry.keepsStore_of_get? found last recur arguments kept
    · refine keeps.callValue (List.forall_mem_cons.mpr ⟨.literal (.plain rfl), ?_⟩)
      exact written.mono grows

/-- One level of evaluation keeps the store if the levels below do. -/
theorem step : KeepsValues (Eval.step .default recur) := by
  intro heap expression written
  unfold Eval.step
  split
  · refine Keeps.scope.map fun later _ scope keptScope last further => ?_
    cases bound : Table.get? scope _ with
    | none => exact .plain rfl
    | some value => exact (keptScope.get? bound).mono further
  · exact .pure fun _ _ => .list nofun nofun
  · unfold Eval.list
    split
    · split
      · exact keeps.form _ written.items.tail
      · exact keeps.callName written.items.tail
    · exact keeps.callValue written.items
  · exact (Keeps.text _ _).bindAny fun _ => .fail _
  · next notSymbol notEmpty notList notObject =>
    -- The rules for lists come first, so what is left to stand for itself is a literal.
    cases written with
    | @list mark items parts =>
      cases items with
      | nil => exact (notEmpty mark rfl).elim
      | cons head operands => exact (notList mark head operands rfl).elim
    | literal kept => exact .pure fun _ grows => kept.mono grows

end KeepsValues

/-- Evaluation through any number of levels keeps the store. -/
theorem evaluateFor_keeps (levels : Nat) : KeepsValues (evaluateFor .default levels) := by
  induction levels with
  | zero => exact fun _ => .ask fun around => .fail _
  | succ levels ih => exact ih.step

end Eval

/-! ### Whole evaluations -/

/-- What is bound in a world that a heap fits carries marks of its store. -/
theorem Heap.Fits.holds {heap : Heap} {world : World} (fits : heap.Fits world) :
    ∀ binding ∈ world.scope, binding.2.Every heap.store.Holds :=
  fun binding isBinding => (fits.scope binding isBinding).every

/-- After an evaluation, in the value and in all that is bound, a mark stands for one list or
object, if that was so before for all that was bound and for the literals. -/
theorem Evaluator.evaluateIn_holds (around : Surroundings) {world : World} {heap : Heap}
    {expression : Datum} (fits : heap.Fits world) (written : Written heap expression) :
    ∃ after, heap ≤ after ∧ after.Fits (evaluateIn .default around expression world).2 ∧
      ∀ value, (evaluateIn .default around expression world).1 = .ok value →
        value.Every after.store.Holds := by
  obtain ⟨after, grows, fitsAfter, kept⟩ :=
    Eval.evaluateFor_keeps (levels around) written around world heap (le_refl heap) fits
  exact ⟨after, grows, fitsAfter, fun value ended => (kept value ended).every⟩

/-- A text that is evaluated where nothing is bound leaves a store: in its value and in all that it
has bound, a mark stands for one list or object. -/
theorem Evaluator.evaluateText_holds (maxDepth : Nat) (clock : Number) (source : String)
    (nextMark : Mark) :
    let ended := evaluateText ⟨maxDepth, .default⟩ clock source (.ofScope [] nextMark)
    ∃ store : Store, (∀ value, ended.1 = .ok value → value.Every store.Holds) ∧
      ∀ binding ∈ ended.2.scope, binding.2.Every store.Holds := by
  intro ended
  let heap : Heap := ⟨⟨fun _ => [], fun _ => []⟩, nextMark⟩
  have fits : heap.Fits (.ofScope [] nextMark) := ⟨rfl, nofun⟩
  cases parsed : Reader.parse source.toList with
  | error cause =>
    have runs : ended = (.error (.reading cause), .ofScope [] nextMark) := by
      simp only [ended, evaluateText, parsed]
    rw [runs]
    exact ⟨heap.store, nofun, fits.holds⟩
  | ok expression =>
    have written : Written heap expression := (Reader.legibleIn_of_parse parsed).legible.written
    obtain ⟨after, -, fitsAfter, holds⟩ :=
      evaluateIn_holds (surroundings ⟨maxDepth, .default⟩ clock) fits written
    have runs : ended = evaluate ⟨maxDepth, .default⟩ clock expression (.ofScope [] nextMark) := by
      simp only [ended, evaluateText, parsed]
    rw [runs]
    refine ⟨after.store, fun value returned => holds value ?_, fitsAfter.holds⟩
    unfold evaluate at returned
    dsimp only at returned
    generalize evaluateIn .default (surroundings ⟨maxDepth, .default⟩ clock) expression
      (.ofScope [] nextMark) = ran at returned ⊢
    obtain ⟨outcome, reached⟩ := ran
    cases outcome with
    | ok result => exact returned
    | error cause => cases returned

/-- The keys by which the items of a list are sorted carry marks of one store. -/
theorem Eval.keyed_holds {levels : Nat} {around : Surroundings} {heap : Heap}
    {list expression : Datum} (writtenList : Written heap list)
    (writtenKey : Written heap expression) {world listed made after : World}
    (fits : heap.Fits world) {mark : Option Mark} {items : List Datum}
    {function : Datum → Eval Datum} {keys : List Keyed}
    (evaluated : evaluateFor .default levels list around world = (.ok (.list mark items), listed))
    (prepared : itemFunction (evaluateFor .default levels) expression around listed =
      (.ok function, made))
    (found : keyed function 0 items around made = (.ok keys, after)) :
    ∃ store : Store, ∀ entry ∈ keys, entry.key.Every store.Holds := by
  have keeps : KeepsValues (evaluateFor .default levels) := evaluateFor_keeps levels
  obtain ⟨first, grows, fitsFirst, keptList⟩ :=
    keeps writtenList around world heap (le_refl heap) fits
  rw [evaluated] at fitsFirst keptList
  obtain ⟨second, further, fitsSecond, keptFunction⟩ :=
    keeps.itemFunction (writtenKey.mono grows) around listed first (le_refl first) fitsFirst
  rw [prepared] at fitsSecond keptFunction
  obtain ⟨last, -, -, keptKeys⟩ :=
    keeps_keyed (keptFunction function rfl) (KeptItems.mono further (keptList _ rfl).items) 0 around
      made second (le_refl second) fitsSecond
  rw [found] at keptKeys
  exact ⟨last.store, fun entry isEntry => (keptKeys keys rfl entry isEntry).1.every⟩

end SandboxLisp
