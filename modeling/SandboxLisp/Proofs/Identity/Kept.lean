import SandboxLisp.Proofs.Data.Sameness
import SandboxLisp.Proofs.Data.Tables
import SandboxLisp.Proofs.Evaluation.Simulation

/-!
# A mark stands for one list or object

A mark says which lists and objects are one.  What the marks that have been given away stand for is a
store, and a datum is kept if every mark that occurs in it, or in what its functions have captured,
stands for what carries it.  A computation keeps the store if all that is bound is kept afterwards,
with its result, by a store that knows the marks that were drawn on the way.

The store only grows, so what is kept once is kept by all later stores.
-/

namespace SandboxLisp

/-! ### Growing stores -/

/-- What the marks below a bound stand for. -/
structure Heap where
  store : Store
  next : Mark

namespace Heap

instance : Preorder Heap where
  le heap later := heap.next ≤ later.next ∧ ∀ mark < heap.next,
    later.store.items mark = heap.store.items mark ∧
      later.store.fields mark = heap.store.fields mark
  le_refl _ := ⟨Nat.le_refl _, fun _ _ => ⟨rfl, rfl⟩⟩
  le_trans heap middle later one other :=
    ⟨Nat.le_trans one.1 other.1, fun mark drawn =>
      have known := one.2 mark drawn
      have known' := other.2 mark (Nat.lt_of_lt_of_le drawn one.1)
      ⟨known'.1.trans known.1, known'.2.trans known.2⟩⟩

variable (heap : Heap)

/-- The heap after the next mark is given to a list and an object. -/
def give (items : List Datum) (fields : List (String × Datum)) : Heap where
  store :=
    { items := fun mark => if mark = heap.next then items else heap.store.items mark
      fields := fun mark => if mark = heap.next then fields else heap.store.fields mark }
  next := heap.next + 1

theorem le_give (items : List Datum) (fields : List (String × Datum)) :
    heap ≤ heap.give items fields := by
  refine ⟨Nat.le_succ _, fun mark drawn => ?_⟩
  have older : mark ≠ heap.next := Nat.ne_of_lt drawn
  exact ⟨if_neg older, if_neg older⟩

end Heap

/-! ### Kept data -/

/-- Whether a datum has neither parts nor bindings. -/
def Datum.isPlain : Datum → Bool
  | .list _ _ => false
  | .object _ _ => false
  | .closure _ _ _ _ _ => false
  | _ => true

section Kept

variable (heap : Heap)

mutual

/-- A datum in which every mark stands for what carries it. -/
inductive Kept : Datum → Prop where
  | plain {datum : Datum} (isPlain : datum.isPlain) : Kept datum
  | list {mark : Option Mark} {items : List Datum}
      (known : ∀ given, mark = some given → given < heap.next ∧ heap.store.items given = items)
      (parts : ∀ item ∈ items, Kept item) : Kept (.list mark items)
  | object {mark : Mark} {fields : List (String × Datum)} (drawn : mark < heap.next)
      (known : heap.store.fields mark = fields) (distinct : (Table.names fields).Nodup)
      (parts : ∀ field ∈ fields, Kept field.2) : Kept (.object mark fields)
  | closure {mark : Mark} {params : List String} {body : Datum} {captured : Scope}
      {self : Option String} (written : Written body)
      (bindings : ∀ binding ∈ captured, Kept binding.2) :
      Kept (.closure mark params body captured self)

/-- An expression with kept literals. -/
inductive Written : Datum → Prop where
  | list (mark : Option Mark) {items : List Datum} (parts : ∀ item ∈ items, Written item) :
      Written (.list mark items)
  | literal {datum : Datum} (kept : Kept datum) : Written datum

end

end Kept

section Growth

variable {heap later : Heap}

mutual

/-- What is kept stays kept. -/
theorem Kept.mono (grows : heap ≤ later) : {datum : Datum} → Kept heap datum → Kept later datum
  | _, .plain isPlain => .plain isPlain
  | _, .list known parts =>
      .list (fun given same =>
          have before := known given same
          ⟨Nat.lt_of_lt_of_le before.1 grows.1, (grows.2 given before.1).1.trans before.2⟩)
        fun item isItem => (parts item isItem).mono grows
  | _, .object drawn known distinct parts =>
      .object (Nat.lt_of_lt_of_le drawn grows.1) ((grows.2 _ drawn).2.trans known) distinct
        fun field isField => (parts field isField).mono grows
  | _, .closure written bindings =>
      .closure (written.mono grows) fun binding isBinding => (bindings binding isBinding).mono grows

theorem Written.mono (grows : heap ≤ later) :
    {expression : Datum} → Written heap expression → Written later expression
  | _, .list mark parts => .list mark fun item isItem => (parts item isItem).mono grows
  | _, .literal kept => .literal (kept.mono grows)

end

/-- The items of a kept list are kept. -/
theorem Kept.items {mark : Option Mark} {items : List Datum} (kept : Kept heap (.list mark items)) :
    ∀ item ∈ items, Kept heap item := by
  cases kept with
  | plain isPlain => cases isPlain
  | list _ parts => exact parts

/-- In a kept datum every mark stands for what carries it, at any depth. -/
theorem Kept.every : {datum : Datum} → Kept heap datum → datum.Every heap.store.Holds
  | datum, .plain isPlain => by
      cases datum with
      | list => cases isPlain
      | object => cases isPlain
      | closure => cases isPlain
      | _ => exact .intro trivial nofun
  | .list mark items, .list known parts => by
      refine .intro ?_ fun item isItem => (parts item isItem).every
      cases mark with
      | none => trivial
      | some given => exact (known given rfl).2
  | .object _ fields, .object _ known distinct parts => by
      refine .intro ⟨known, distinct⟩ fun value isValue => ?_
      obtain ⟨field, isField, rfl⟩ := List.mem_map.mp isValue
      exact (parts field isField).every
  | .closure _ _ _ _ _, .closure _ _ => .intro trivial nofun

end Growth

/-! ### Scopes and worlds -/

/-- All that is bound is kept. -/
def KeptScope (heap : Heap) (scope : Scope) : Prop :=
  ∀ binding ∈ scope, Kept heap binding.2

/-- Kept fields, and no name twice. -/
structure KeptFields (heap : Heap) (fields : List (String × Datum)) : Prop where
  distinct : (Table.names fields).Nodup
  kept : KeptScope heap fields

/-- A heap knows the marks that have been drawn, and all that is bound is kept. -/
structure Heap.Fits (heap : Heap) (world : World) : Prop where
  next : heap.next = world.nextMark
  scope : KeptScope heap world.scope

section Scopes

variable {heap later : Heap} {scope : Scope}

theorem KeptScope.mono (grows : heap ≤ later) (kept : KeptScope heap scope) :
    KeptScope later scope :=
  fun binding isBinding => (kept binding isBinding).mono grows

theorem KeptScope.get? (kept : KeptScope heap scope) {name : String} {value : Datum}
    (bound : Table.get? scope name = some value) : Kept heap value :=
  kept _ (Table.mem_of_get? bound)

theorem KeptScope.put (kept : KeptScope heap scope) (name : String) {value : Datum}
    (keptValue : Kept heap value) : KeptScope heap (Table.put scope name value) := by
  induction scope with
  | nil => exact List.forall_mem_singleton.mpr keptValue
  | cons binding rest ih =>
    obtain ⟨key, old⟩ := binding
    obtain ⟨first, others⟩ := List.forall_mem_cons.mp kept
    rw [Table.put]
    split
    · exact List.forall_mem_cons.mpr ⟨keptValue, others⟩
    · exact List.forall_mem_cons.mpr ⟨first, ih others⟩

theorem KeptScope.putAll (kept : KeptScope heap scope) {entries : List (String × Datum)}
    (keptEntries : KeptScope heap entries) : KeptScope heap (Table.putAll scope entries) := by
  induction entries generalizing scope with
  | nil => exact kept
  | cons entry rest ih =>
    obtain ⟨first, others⟩ := List.forall_mem_cons.mp keptEntries
    exact ih (kept.put entry.1 first) others

/-- The fields of a kept object are kept. -/
theorem Kept.fields {mark : Mark} {fields : List (String × Datum)}
    (kept : Kept heap (.object mark fields)) : KeptFields heap fields := by
  cases kept with
  | plain isPlain => cases isPlain
  | object _ _ distinct parts => exact ⟨distinct, parts⟩

theorem KeptFields.mono (grows : heap ≤ later) {fields : List (String × Datum)}
    (kept : KeptFields heap fields) : KeptFields later fields :=
  ⟨kept.distinct, kept.kept.mono grows⟩

theorem KeptFields.put {fields : List (String × Datum)} (kept : KeptFields heap fields)
    (name : String) {value : Datum} (keptValue : Kept heap value) :
    KeptFields heap (Table.put fields name value) :=
  ⟨Table.nodup_names_put kept.distinct name value, kept.kept.put name keptValue⟩

theorem KeptFields.putAll {fields others : List (String × Datum)} (kept : KeptFields heap fields)
    (keptOthers : KeptScope heap others) : KeptFields heap (Table.putAll fields others) := by
  induction others generalizing fields with
  | nil => exact kept
  | cons field rest ih =>
    obtain ⟨first, others⟩ := List.forall_mem_cons.mp keptOthers
    exact ih (kept.put field.1 first) others

theorem Kept.getD {found : Option Datum} (kept : ∀ value, found = some value → Kept heap value) :
    Kept heap (found.getD .nil) := by
  cases found with
  | none => exact .plain rfl
  | some value => exact kept value rfl

/-- A call binds what the function has captured, the function itself and the arguments. -/
theorem Kept.bind {function : Closure} (kept : Kept heap function.toDatum) {arguments : List Datum}
    (keptArguments : ∀ argument ∈ arguments, Kept heap argument) :
    KeptScope heap (function.bind arguments) := by
  have captured : KeptScope heap function.captured := by
    cases kept with
    | plain isPlain => cases isPlain
    | closure _ bindings => exact bindings
  have scope : KeptScope heap function.scope := by
    rw [Closure.scope]
    split
    · exact captured
    · exact captured.put _ kept
  refine scope.putAll fun binding isBinding => ?_
  exact keptArguments _ (List.of_mem_zip isBinding).2

theorem Kept.body {function : Closure} (kept : Kept heap function.toDatum) :
    Written heap function.body := by
  cases kept with
  | plain isPlain => cases isPlain
  | closure written _ => exact written

end Scopes

/-! ### Computations that keep the store -/

namespace Eval

variable {α β : Type} {heap : Heap} {Result : Heap → α → Prop}

/-- A computation that leaves all that is bound kept by a later heap, with its result. -/
def Keeps (heap : Heap) (Result : Heap → α → Prop) (computation : Eval α) : Prop :=
  ∀ around world before, heap ≤ before → before.Fits world →
    ∃ after, before ≤ after ∧ after.Fits (computation around world).2 ∧
      ∀ value, (computation around world).1 = .ok value → Result after value

/-- Any value. -/
def Whatever : Heap → α → Prop :=
  fun _ _ => True

/-- Kept items. -/
def KeptItems (heap : Heap) (items : List Datum) : Prop :=
  ∀ item ∈ items, Kept heap item

theorem KeptItems.mono {later : Heap} (grows : heap ≤ later) {items : List Datum}
    (kept : KeptItems heap items) : KeptItems later items :=
  fun item isItem => (kept item isItem).mono grows

namespace Keeps

theorem mono {computation : Eval α} {later : Heap} (keeps : Keeps heap Result computation)
    (grows : heap ≤ later) : Keeps later Result computation :=
  fun around world before beyond => keeps around world before (grows.trans beyond)

theorem pure {value : α} (result : ∀ later, heap ≤ later → Result later value) :
    Keeps heap Result (pure value) :=
  fun _ _ before grows fits => ⟨before, le_refl before, fits, fun other ended => by
    cases ended
    exact result before grows⟩

theorem fail (cause : EvalError) : Keeps heap Result (fail cause) :=
  fun _ _ before _ fits => ⟨before, le_refl before, fits, nofun⟩

theorem bind {Middle : Heap → β → Prop} {first : Eval β} {next : β → Eval α}
    (one : Keeps heap Middle first)
    (goOn : ∀ later, heap ≤ later → ∀ value, Middle later value → Keeps later Result (next value)) :
    Keeps heap Result (first >>= next) := by
  intro around world before grows fits
  obtain ⟨middle, further, fitsMiddle, result⟩ := one around world before grows fits
  rw [bind_apply]
  generalize first around world = ended at fitsMiddle result ⊢
  obtain ⟨outcome, reached⟩ := ended
  cases outcome with
  | ok value =>
    obtain ⟨after, beyond, fitsAfter, last⟩ := goOn middle (grows.trans further) value
      (result value rfl) around reached middle (le_refl middle) fitsMiddle
    exact ⟨after, further.trans beyond, fitsAfter, last⟩
  | error cause => exact ⟨middle, further, fitsMiddle, nofun⟩

theorem map {Middle : Heap → β → Prop} {computation : Eval β} {function : β → α}
    (keeps : Keeps heap Middle computation)
    (result : ∀ later, heap ≤ later → ∀ value, Middle later value →
      ∀ last, later ≤ last → Result last (function value)) :
    Keeps heap Result (function <$> computation) :=
  keeps.bind fun later grows value middle => pure (result later grows value middle)

/-- What changes nothing keeps all there is. -/
theorem plain {computation : Eval α} (plain : Plain computation) :
    Keeps heap Whatever computation := by
  intro around world before _ fits
  obtain ⟨outcome, _, ends⟩ := plain around
  rw [ends]
  exact ⟨before, le_refl before, fits, fun _ _ => trivial⟩

/-- What goes on from any value of a computation. -/
theorem bindAny {first : Eval β} {next : β → Eval α} (one : Keeps heap Whatever first)
    (goOn : ∀ value, Keeps heap Result (next value)) : Keeps heap Result (first >>= next) :=
  one.bind fun _ grows value _ => (goOn value).mono grows

theorem mapAny {computation : Eval β} {function : β → α} (keeps : Keeps heap Whatever computation)
    (result : ∀ later, heap ≤ later → ∀ value, Result later (function value)) :
    Keeps heap Result (function <$> computation) :=
  keeps.bindAny fun value => pure fun later grows => result later grows value

/-- A computation that ends in plain data. -/
theorem answer {computation : Eval β} {function : β → Datum}
    (keeps : Keeps heap Whatever computation) (isPlain : ∀ value, (function value).isPlain) :
    Keeps heap Kept (function <$> computation) :=
  keeps.mapAny fun _ _ value => .plain (isPlain value)

theorem ofNumber (outcome : Except NumberError α) : Keeps heap Whatever (ofNumber outcome) := by
  cases outcome with
  | ok value => exact pure fun _ _ => trivial
  | error cause => exact fail _

theorem ofExcept (outcome : Except EvalError α) : Keeps heap Whatever (ofExcept outcome) := by
  cases outcome with
  | ok value => exact pure fun _ _ => trivial
  | error cause => exact fail _

theorem text (form : TextForm) (datum : Datum) : Keeps heap Whatever (text form datum) :=
  plain (.text form datum)

theorem ask {next : Surroundings → Eval α} (keeps : ∀ around, Keeps heap Result (next around)) :
    Keeps heap Result (surroundings >>= next) :=
  fun around => keeps around around

theorem equal (first second : Datum) : Keeps heap Whatever (equal first second) :=
  ask fun _ => ofExcept _

/-! ### Lists of computations -/

/-- Results that stay results of later heaps. -/
def Stays (Result : Heap → α → Prop) : Prop :=
  ∀ heap later, heap ≤ later → ∀ value, Result heap value → Result later value

theorem mapM {γ : Type} {Given : γ → Prop} {function : γ → Eval α} {values : List γ}
    (given : ∀ value ∈ values, Given value) (stays : Stays Result)
    (keeps : ∀ later, heap ≤ later → ∀ value, Given value → Keeps later Result (function value)) :
    Keeps heap (fun last results => ∀ result ∈ results, Result last result)
      (values.mapM function) := by
  induction values generalizing heap with
  | nil =>
    rw [List.mapM_nil]
    exact pure fun _ _ => nofun
  | cons value rest ih =>
    obtain ⟨first, others⟩ := List.forall_mem_cons.mp given
    rw [List.mapM_cons]
    refine (keeps heap (le_refl heap) value first).bind fun later grows result holds => ?_
    refine (ih others fun last further => keeps last (grows.trans further)).bind
      fun last further results holdAll => ?_
    refine pure fun final beyond => List.forall_mem_cons.mpr ⟨?_, fun other isOther => ?_⟩
    · exact stays later final (further.trans beyond) result holds
    · exact stays last final beyond other (holdAll other isOther)

theorem foldlM {γ : Type} {Given : γ → Prop} {step : α → γ → Eval α} {values : List γ}
    (given : ∀ value ∈ values, Given value)
    (keeps : ∀ later, heap ≤ later → ∀ state, Result later state → ∀ value, Given value →
      Keeps later Result (step state value))
    (stays : Stays Result) {start : α} (holds : Result heap start) :
    Keeps heap Result (values.foldlM step start) := by
  induction values generalizing heap start with
  | nil =>
    rw [List.foldlM_nil]
    exact pure fun later grows => stays heap later grows start holds
  | cons value rest ih =>
    obtain ⟨first, others⟩ := List.forall_mem_cons.mp given
    rw [List.foldlM_cons]
    refine (keeps heap (le_refl heap) start holds value first).bind fun later grows state holds => ?_
    exact ih others (fun last further => keeps last (grows.trans further)) holds

/-! ### What changes the world -/

theorem scope : Keeps heap KeptScope Eval.scope :=
  fun _ _ before _ fits => ⟨before, le_refl before, fits, fun value ended => by
    cases ended
    exact fits.scope⟩

theorem define (name : String) {value : Datum} (kept : Kept heap value) :
    Keeps heap Whatever (define name value) :=
  fun _ _ before grows fits => ⟨before, le_refl before,
    ⟨fits.next, fits.scope.put name (kept.mono grows)⟩, fun _ _ => trivial⟩

theorem inScope {inner : Scope} {computation : Eval α} (kept : KeptScope heap inner)
    (keeps : Keeps heap Result computation) : Keeps heap Result (inScope inner computation) := by
  intro around world before grows fits
  obtain ⟨after, further, fitsAfter, result⟩ := keeps around { world with scope := inner } before
    grows ⟨fits.next, kept.mono grows⟩
  exact ⟨after, further, ⟨fitsAfter.next, fits.scope.mono further⟩, result⟩

theorem logLine (line : String) : Keeps heap Whatever (logLine line) :=
  fun _ _ before _ fits => ⟨before, le_refl before, ⟨fits.next, fits.scope⟩, fun _ _ => trivial⟩

theorem nextSeed : Keeps heap Whatever nextSeed := by
  rintro around ⟨scope, log, mark, seed⟩ before _ ⟨next, kept⟩
  exact ⟨before, le_refl before, ⟨next, kept⟩, fun _ _ => trivial⟩

/-- A mark that is drawn may be given to any list and object. -/
theorem freshMark (items : List Datum) (fields : List (String × Datum)) :
    Keeps heap (fun last mark =>
        mark < last.next ∧ last.store.items mark = items ∧ last.store.fields mark = fields)
      freshMark := by
  intro around world before _ fits
  -- No kept datum carries the mark yet, so what is kept does not depend on what it is given to.
  have grows := before.le_give items fields
  refine ⟨before.give items fields, grows, ⟨congrArg (· + 1) fits.next, fits.scope.mono grows⟩, ?_⟩
  intro mark ended
  cases ended
  rw [← fits.next]
  exact ⟨Nat.lt_succ_self _, if_pos rfl, if_pos rfl⟩

/-! ### Data made now -/

theorem number (value : Number) : Keeps heap Kept (number value) := by
  cases value with
  | int value => exact pure fun _ _ => .plain rfl
  | double value => exact pure fun _ _ => .plain rfl
  | nan => exact (freshMark [] []).map fun _ _ _ _ _ _ => .plain rfl

theorem newList {items : List Datum} (kept : KeptItems heap items) :
    Keeps heap Kept (newList items) := by
  refine (freshMark items []).map fun later grows mark known last further => ?_
  have drawn := further.2 mark known.1
  refine .list ?_ (kept.mono (grows.trans further))
  rintro given ⟨⟩
  exact ⟨Nat.lt_of_lt_of_le known.1 further.1, drawn.1.trans known.2.1⟩

theorem newObject {fields : List (String × Datum)} (kept : KeptFields heap fields) :
    Keeps heap Kept (newObject fields) := by
  refine (freshMark [] fields).map fun later grows mark known last further => ?_
  have drawn := further.2 mark known.1
  exact .object (Nat.lt_of_lt_of_le known.1 further.1) (drawn.2.trans known.2.2) kept.distinct
    (kept.kept.mono (grows.trans further))

theorem closure (params : List String) {body : Datum} (self : Option String)
    (written : Written heap body) : Keeps heap Kept (closure params body self) := by
  refine (freshMark [] []).bind fun later grows mark _ => ?_
  refine scope.map fun last further captured kept final beyond => ?_
  exact .closure (written.mono (grows.trans (further.trans beyond))) (kept.mono beyond)

end Keeps

end Eval

end SandboxLisp
