import Mathlib.Data.List.Forall2
import Mathlib.Order.Basic
import SandboxLisp.Eval.Binding

/-!
# Data that are alike in two runs

Two runs of a program need not give the same data: the marks that they draw may differ, and the
functions that they make may have captured different bindings.  Data are alike if nothing that the
program can do tells them apart.  Marks are paired one to one, and a captured binding has to be alike
only if the view of both runs shares its name or the body of the function mentions it.

A view also says whether a symbol may be a value.  It may in general, since a host can offer one,
but no symbol arises from evaluation.
-/

namespace SandboxLisp

/-! ### Marks -/

/-- A one-to-one relation between the marks of two runs. -/
structure Pairing where
  Paired : Mark → Mark → Prop
  right {mark other other' : Mark} (one : Paired mark other) (another : Paired mark other') :
    other = other'
  left {mark mark' other : Mark} (one : Paired mark other) (another : Paired mark' other) :
    mark = mark'

namespace Pairing

instance : Preorder Pairing where
  le first second := ∀ mark other, first.Paired mark other → second.Paired mark other
  le_refl _ _ _ paired := paired
  le_trans _ _ _ one other mark mark' paired := other mark mark' (one mark mark' paired)

/-- Every mark is paired with itself. -/
def same : Pairing where
  Paired := Eq
  right one another := one.symm.trans another
  left one another := one.trans another.symm

/-- Neither of two marks is paired with a third one. -/
def Admits (pairing : Pairing) (mark other : Mark) : Prop :=
  (∀ third, pairing.Paired mark third → third = other) ∧
    ∀ third, pairing.Paired third other → third = mark

/-- A mark that is paired with itself is not paired with another one. -/
theorem admits_same (mark : Mark) : same.Admits mark mark :=
  ⟨fun _ paired => paired.symm, fun _ paired => paired⟩

/-- The pairing with two more marks paired. -/
def add (pairing : Pairing) (mark other : Mark) (admits : pairing.Admits mark other) : Pairing where
  Paired first second := pairing.Paired first second ∨ (first = mark ∧ second = other)
  right := by
    rintro first second third (one | ⟨rfl, rfl⟩) (another | ⟨same, rfl⟩)
    · exact pairing.right one another
    · exact admits.1 second (same ▸ one)
    · exact (admits.1 third another).symm
    · rfl
  left := by
    rintro first second third (one | ⟨rfl, rfl⟩) (another | ⟨rfl, same⟩)
    · exact pairing.left one another
    · exact admits.2 first (same ▸ one)
    · exact (admits.2 second another).symm
    · rfl

/-- Two marks are paired as the other two are equal. -/
theorem eq_iff (pairing : Pairing) {mark mark' other other' : Mark} (one : pairing.Paired mark other)
    (another : pairing.Paired mark' other') : mark = mark' ↔ other = other' := by
  constructor
  · rintro rfl
    exact pairing.right one another
  · rintro rfl
    exact pairing.left one another

/-- No pairing goes beyond the one that pairs every mark with itself. -/
theorem eq_same_of_le {pairing : Pairing} (beyond : same ≤ pairing) : pairing = same := by
  obtain ⟨Paired, right, left⟩ := pairing
  have paired_eq : Paired = Eq := by
    funext mark other
    apply propext
    constructor
    · intro paired
      exact right (beyond mark mark rfl) paired
    · exact beyond mark other
  subst paired_eq
  rfl

end Pairing

/-- Lists either carry paired marks or no marks. -/
inductive MarksAlike (pairing : Pairing) : Option Mark → Option Mark → Prop where
  | none : MarksAlike pairing none none
  | some {mark other : Mark} (paired : pairing.Paired mark other) :
      MarksAlike pairing (some mark) (some other)

/-! ### Names in expressions -/

namespace Datum

/-- A name occurs as a symbol in an expression, in its lists at any depth. -/
inductive Mentions (name : String) : Datum → Prop where
  | symbol : Mentions name (.symbol name)
  | item {mark : Option Mark} {items : List Datum} {part : Datum} (mem : part ∈ items)
      (mentions : Mentions name part) : Mentions name (.list mark items)

mutual

/-- Whether a name occurs in an expression can be decided by going through it. -/
def decidableMentions (name : String) : (datum : Datum) → Decidable (datum.Mentions name)
  | .symbol other =>
      if same : other = name then isTrue (same ▸ .symbol)
      else isFalse fun | .symbol => same rfl
  | .list _ items =>
      match decidableMentionsAny name items with
      | isTrue found => isTrue (found.elim fun _ occurs => .item occurs.1 occurs.2)
      | isFalse missing => isFalse fun | .item mem mentions => missing ⟨_, mem, mentions⟩
  | .nil => isFalse nofun
  | .bool _ => isFalse nofun
  | .int _ => isFalse nofun
  | .double _ => isFalse nofun
  | .nan _ => isFalse nofun
  | .string _ => isFalse nofun
  | .object _ _ => isFalse nofun
  | .closure _ _ _ _ _ => isFalse nofun
termination_by structural datum => datum

/-- Whether a name occurs in one of several expressions can be decided. -/
def decidableMentionsAny (name : String) :
    (items : List Datum) → Decidable (∃ item ∈ items, item.Mentions name)
  | [] => isFalse fun | ⟨_, mem, _⟩ => nomatch mem
  | item :: rest =>
      match decidableMentions name item with
      | isTrue mentions => isTrue ⟨item, .head rest, mentions⟩
      | isFalse silent =>
          match decidableMentionsAny name rest with
          | isTrue found =>
            isTrue (found.elim fun one occurs => ⟨one, .tail item occurs.1, occurs.2⟩)
          | isFalse missing => isFalse fun
              | ⟨_, .head _, mentions⟩ => silent mentions
              | ⟨one, .tail _ mem, mentions⟩ => missing ⟨one, mem, mentions⟩
termination_by structural items => items

end

instance (name : String) (datum : Datum) : Decidable (datum.Mentions name) :=
  decidableMentions name datum

/-- The forms of a body: several forms were made one expression by a symbol that stands for no
name. -/
def forms : Datum → List Datum
  | .list mark (.symbol head :: operands) =>
      if head = "begin" then operands else [.list mark (.symbol head :: operands)]
  | body => [body]

/-- A name whose binding the evaluation of a body can look up. -/
def Needs (body : Datum) (name : String) : Prop :=
  ∃ form ∈ body.forms, form.Mentions name

end Datum

/-! ### Likeness -/

/-- What two runs have in common. -/
structure View where
  /-- The names that every scope binds alike in both. -/
  shares : String → Prop
  /-- Whether symbols may be values. -/
  symbols : Prop

section Likeness

variable (view : View) (pairing : Pairing)

mutual

/-- Two data that are alike in two runs. -/
inductive Alike : Datum → Datum → Prop where
  | nil : Alike .nil .nil
  | bool (value : Bool) : Alike (.bool value) (.bool value)
  | int (value : Int) : Alike (.int value) (.int value)
  | double (value : Double) : Alike (.double value) (.double value)
  | nan {mark mark' : Mark} (paired : pairing.Paired mark mark') : Alike (.nan mark) (.nan mark')
  | string (text : String) : Alike (.string text) (.string text)
  | symbol (allowed : view.symbols) (name : String) : Alike (.symbol name) (.symbol name)
  | list {mark mark' : Option Mark} {items items' : List Datum}
      (marks : MarksAlike pairing mark mark') (parts : ItemsAlike items items') :
      Alike (.list mark items) (.list mark' items')
  | object {mark mark' : Mark} {fields fields' : List (String × Datum)}
      (paired : pairing.Paired mark mark') (parts : FieldsAlike fields fields') :
      Alike (.object mark fields) (.object mark' fields')
  | closure {mark mark' : Mark} {params : List String} {body : Datum} {captured captured' : Scope}
      {self : Option String} (paired : pairing.Paired mark mark') (fit : Fit body)
      (bindings : ∀ name, view.shares name ∨ body.Needs name →
        BindingsAlike (Table.get? captured name) (Table.get? captured' name)) :
      Alike (.closure mark params body captured self) (.closure mark' params body captured' self)

/-- Lists with like items. -/
inductive ItemsAlike : List Datum → List Datum → Prop where
  | nil : ItemsAlike [] []
  | cons {item item' : Datum} {rest rest' : List Datum} (first : Alike item item')
      (others : ItemsAlike rest rest') : ItemsAlike (item :: rest) (item' :: rest')

/-- Fields of the same names with like values. -/
inductive FieldsAlike : List (String × Datum) → List (String × Datum) → Prop where
  | nil : FieldsAlike [] []
  | cons {value value' : Datum} {rest rest' : List (String × Datum)} (name : String)
      (first : Alike value value') (others : FieldsAlike rest rest') :
      FieldsAlike ((name, value) :: rest) ((name, value') :: rest')

/-- A name is bound to like values or not bound. -/
inductive BindingsAlike : Option Datum → Option Datum → Prop where
  | none : BindingsAlike none none
  | some {value value' : Datum} (alike : Alike value value') :
    BindingsAlike (some value) (some value')

/-- An expression whose literals are alike in both runs. -/
inductive Fit : Datum → Prop where
  | symbol (name : String) : Fit (.symbol name)
  | list (mark : Option Mark) {items : List Datum} (parts : ∀ item ∈ items, Fit item) :
      Fit (.list mark items)
  | literal {datum : Datum} (alike : Alike datum datum) : Fit datum

end

end Likeness

/-- Scopes that bind the shared names, and some more, to like values. -/
def ScopesAlike (view : View) (pairing : Pairing) (names : String → Prop)
    (scope scope' : Scope) : Prop :=
  ∀ name, view.shares name ∨ names name →
    BindingsAlike view pairing (Table.get? scope name) (Table.get? scope' name)

/-! ### Growing pairings -/

section Growth

variable {view : View} {pairing later : Pairing}

theorem MarksAlike.mono (grows : pairing ≤ later) {mark mark' : Option Mark}
    (marks : MarksAlike pairing mark mark') : MarksAlike later mark mark' := by
  cases marks with
  | none => exact .none
  | some paired => exact .some (grows _ _ paired)

mutual

/-- What is alike stays alike when more marks are paired. -/
theorem Alike.mono (grows : pairing ≤ later) :
    {datum datum' : Datum} → Alike view pairing datum datum' → Alike view later datum datum'
  | _, _, .nil => .nil
  | _, _, .bool value => .bool value
  | _, _, .int value => .int value
  | _, _, .double value => .double value
  | _, _, .nan paired => .nan (grows _ _ paired)
  | _, _, .string text => .string text
  | _, _, .symbol allowed name => .symbol allowed name
  | _, _, .list marks parts => .list (marks.mono grows) (parts.mono grows)
  | _, _, .object paired parts => .object (grows _ _ paired) (parts.mono grows)
  | _, _, .closure paired fit bindings =>
      .closure (grows _ _ paired) (fit.mono grows) fun name needed =>
        (bindings name needed).mono grows

theorem ItemsAlike.mono (grows : pairing ≤ later) :
    {items items' : List Datum} → ItemsAlike view pairing items items' →
      ItemsAlike view later items items'
  | _, _, .nil => .nil
  | _, _, .cons first others => .cons (first.mono grows) (others.mono grows)

theorem FieldsAlike.mono (grows : pairing ≤ later) :
    {fields fields' : List (String × Datum)} → FieldsAlike view pairing fields fields' →
      FieldsAlike view later fields fields'
  | _, _, .nil => .nil
  | _, _, .cons name first others => .cons name (first.mono grows) (others.mono grows)

theorem BindingsAlike.mono (grows : pairing ≤ later) :
    {binding binding' : Option Datum} → BindingsAlike view pairing binding binding' →
      BindingsAlike view later binding binding'
  | _, _, .none => .none
  | _, _, .some alike => .some (alike.mono grows)

theorem Fit.mono (grows : pairing ≤ later) :
    {expression : Datum} → Fit view pairing expression → Fit view later expression
  | _, .symbol name => .symbol name
  | _, .list mark parts => .list mark fun item mem => (parts item mem).mono grows
  | _, .literal alike => .literal (alike.mono grows)

end

theorem ScopesAlike.mono (grows : pairing ≤ later) {names : String → Prop} {scope scope' : Scope}
    (alike : ScopesAlike view pairing names scope scope') :
    ScopesAlike view later names scope scope' :=
  fun name needed => (alike name needed).mono grows

end Growth

/-! ### Everything is like itself -/

section Reflexivity

variable {view : View}

mutual

/-- Two runs with the same marks see every datum alike if symbols may be values. -/
theorem Alike.refl (allowed : view.symbols) : (datum : Datum) → Alike view .same datum datum
  | .nil => .nil
  | .bool value => .bool value
  | .int value => .int value
  | .double value => .double value
  | .nan _ => .nan rfl
  | .string text => .string text
  | .symbol name => .symbol allowed name
  | .list none items => .list .none (ItemsAlike.refl allowed items)
  | .list (some _) items => .list (.some rfl) (ItemsAlike.refl allowed items)
  | .object _ fields => .object rfl (FieldsAlike.refl allowed fields)
  | .closure _ _ body captured _ =>
      .closure rfl (.literal (Alike.refl allowed body)) fun name _ =>
        BindingsAlike.refl allowed captured name

theorem ItemsAlike.refl (allowed : view.symbols) :
    (items : List Datum) → ItemsAlike view .same items items
  | [] => .nil
  | item :: rest => .cons (Alike.refl allowed item) (ItemsAlike.refl allowed rest)

theorem FieldsAlike.refl (allowed : view.symbols) :
    (fields : List (String × Datum)) → FieldsAlike view .same fields fields
  | [] => .nil
  | (name, value) :: rest => .cons name (Alike.refl allowed value) (FieldsAlike.refl allowed rest)

theorem BindingsAlike.refl (allowed : view.symbols) :
    (scope : Scope) → (name : String) →
      BindingsAlike view .same (Table.get? scope name) (Table.get? scope name)
  | [], _ => .none
  | (key, value) :: rest, name => by
      rw [Table.get?]
      split
      · exact .some (Alike.refl allowed value)
      · exact BindingsAlike.refl allowed rest name

end

end Reflexivity

/-! ### What likeness preserves -/

section Observations

variable {view : View} {pairing : Pairing} {datum datum' : Datum}

theorem itemsAlike_iff {items items' : List Datum} :
    ItemsAlike view pairing items items' ↔ List.Forall₂ (Alike view pairing) items items' := by
  constructor
  · intro alike
    induction items generalizing items' with
    | nil =>
      cases alike
      exact .nil
    | cons item rest ih =>
      cases alike with
      | cons first others => exact .cons first (ih others)
  · intro alike
    induction alike with
    | nil => exact .nil
    | cons first _ ih => exact .cons first ih

theorem ItemsAlike.length_eq {items items' : List Datum}
    (alike : ItemsAlike view pairing items items') : items.length = items'.length :=
  (itemsAlike_iff.mp alike).length_eq

/-- An item of a list that is like itself is like itself. -/
theorem ItemsAlike.of_mem {items : List Datum} (alike : ItemsAlike view pairing items items)
    {item : Datum} (mem : item ∈ items) : Alike view pairing item item := by
  induction items with
  | nil => cases mem
  | cons first rest ih =>
    cases alike with
    | cons one others =>
      cases mem with
      | head => exact one
      | tail _ later => exact ih others later

/-- The items of an expression whose literals are alike. -/
theorem Fit.item {mark : Option Mark} {items : List Datum}
    (fit : Fit view pairing (.list mark items))
    {item : Datum} (mem : item ∈ items) : Fit view pairing item := by
  cases fit with
  | list _ parts => exact parts item mem
  | literal alike =>
    cases alike with
    | list _ parts => exact .literal (parts.of_mem mem)

theorem Alike.isTruthy_eq (alike : Alike view pairing datum datum') :
    datum.isTruthy = datum'.isTruthy := by
  cases alike <;> rfl

theorem Alike.number?_eq (alike : Alike view pairing datum datum') :
    datum.number? = datum'.number? := by
  cases alike <;> rfl

theorem Alike.orderNumber?_eq (alike : Alike view pairing datum datum') :
    datum.orderNumber? = datum'.orderNumber? := by
  cases alike <;> rfl

theorem Alike.measure?_eq (alike : Alike view pairing datum datum') (matching : Datum.Matching) :
    datum.measure? matching = datum'.measure? matching := by
  cases alike <;> rfl

theorem Alike.typeName_eq (alike : Alike view pairing datum datum') :
    datum.typeName = datum'.typeName := by
  cases alike <;> rfl

theorem Alike.isUnset_eq (alike : Alike view pairing datum datum') :
    datum.isUnset = datum'.isUnset := by
  cases alike with
  | list _ parts => cases parts <;> rfl
  | object _ parts => cases parts <;> rfl
  | _ => rfl

/-! ### Fields -/

namespace FieldsAlike

variable {fields fields' : List (String × Datum)}

theorem get? (alike : FieldsAlike view pairing fields fields') (name : String) :
    BindingsAlike view pairing (Table.get? fields name) (Table.get? fields' name) := by
  induction fields generalizing fields' with
  | nil =>
    cases alike
    exact .none
  | cons field rest ih =>
    cases alike with
    | cons key one others =>
      rw [Table.get?, Table.get?]
      split
      · exact .some one
      · exact ih others

theorem put (alike : FieldsAlike view pairing fields fields') (name : String)
    {value value' : Datum} (written : Alike view pairing value value') :
    FieldsAlike view pairing (Table.put fields name value) (Table.put fields' name value') := by
  induction fields generalizing fields' with
  | nil =>
    cases alike
    exact .cons name written .nil
  | cons field rest ih =>
    cases alike with
    | cons key one others =>
      rw [Table.put, Table.put]
      split
      · exact .cons key written others
      · exact .cons key one (ih others)

theorem putAll (alike : FieldsAlike view pairing fields fields')
    {entries entries' : List (String × Datum)}
    (written : FieldsAlike view pairing entries entries') :
    FieldsAlike view pairing (Table.putAll fields entries) (Table.putAll fields' entries') := by
  induction entries generalizing fields fields' entries' with
  | nil =>
    cases written
    exact alike
  | cons entry rest ih =>
    cases written with
    | cons key one others => exact ih (alike.put key one) others

theorem names_eq (alike : FieldsAlike view pairing fields fields') :
    fields.map Prod.fst = fields'.map Prod.fst := by
  induction fields generalizing fields' with
  | nil =>
    cases alike
    rfl
  | cons field rest ih =>
    cases alike with
    | cons key one others => exact congrArg (key :: ·) (ih others)

theorem values (alike : FieldsAlike view pairing fields fields') :
    ItemsAlike view pairing (fields.map Prod.snd) (fields'.map Prod.snd) := by
  induction fields generalizing fields' with
  | nil =>
    cases alike
    exact .nil
  | cons field rest ih =>
    cases alike with
    | cons key one others => exact .cons one (ih others)

theorem length_eq (alike : FieldsAlike view pairing fields fields') :
    fields.length = fields'.length := by
  simpa using congrArg List.length alike.names_eq

theorem has_eq (alike : FieldsAlike view pairing fields fields') (name : String) :
    Table.has fields name = Table.has fields' name := by
  have bindings := alike.get? name
  unfold Table.has
  generalize Table.get? fields name = binding, Table.get? fields' name = binding' at bindings ⊢
  cases bindings <;> rfl

theorem namesAmong_eq (alike : FieldsAlike view pairing fields fields')
    {others others' : List (String × Datum)} (among : FieldsAlike view pairing others others') :
    Datum.namesAmong fields others = Datum.namesAmong fields' others' := by
  have shown (name : String) := among.has_eq name
  induction fields generalizing fields' with
  | nil =>
    cases alike
    rfl
  | cons field rest ih =>
    cases alike with
    | cons key one later => exact congrArg₂ and (shown key) (ih later)

end FieldsAlike

/-! ### Quotations -/

mutual

/-- A quoted expression stands for a value that is alike in both runs. -/
theorem Fit.quotation : (expression : Datum) → Fit view pairing expression →
    Alike view pairing expression.quotation expression.quotation
  | .symbol name, _ => .string name
  | .list _ items, fit => .list .none (Fit.quotations items fun _ mem => fit.item mem)
  | .nil, _ => .nil
  | .bool value, _ => .bool value
  | .int value, _ => .int value
  | .double value, _ => .double value
  | .string text, _ => .string text
  | .nan mark, fit => by
      cases fit with
      | literal alike => exact alike
  | .object mark fields, fit => by
      cases fit with
      | literal alike => exact alike
  | .closure mark params body captured self, fit => by
      cases fit with
      | literal alike => exact alike

theorem Fit.quotations : (items : List Datum) → (∀ item ∈ items, Fit view pairing item) →
    ItemsAlike view pairing (Datum.quotations items) (Datum.quotations items)
  | [], _ => .nil
  | item :: rest, fit =>
      .cons (Fit.quotation item (fit item (.head rest)))
        (Fit.quotations rest fun other mem => fit other (.tail item mem))

end

/-! ### Scopes -/

theorem ScopesAlike.put {names : String → Prop} {scope scope' : Scope} {value value' : Datum}
    (scopes : ScopesAlike view pairing names scope scope') (name : String)
    (written : Alike view pairing value value') :
    ScopesAlike view pairing names (Table.put scope name value) (Table.put scope' name value') := by
  intro other needed
  by_cases same : name = other
  · subst same
    rw [Table.get?_put_self, Table.get?_put_self]
    exact .some written
  · rw [Table.get?_put_of_ne scope value same, Table.get?_put_of_ne scope' value' same]
    exact scopes other needed

/-- Parameters are bound to like arguments, and those without an argument on neither side. -/
theorem ScopesAlike.putParams {names : String → Prop} {scope scope' : Scope}
    (scopes : ScopesAlike view pairing names scope scope') (params : List String)
    {arguments arguments' : List Datum} (given : ItemsAlike view pairing arguments arguments') :
    ScopesAlike view pairing names (Table.putAll scope (params.zip arguments))
      (Table.putAll scope' (params.zip arguments')) := by
  induction params generalizing scope scope' arguments arguments' with
  | nil => exact scopes
  | cons name params ih =>
    cases given with
    | nil => exact scopes
    | cons one others => exact ih (scopes.put name one) others

/-! ### Functions -/

/-- Either two functions that are alike or no function. -/
inductive CalleesAlike (view : View) (pairing : Pairing) :
    Option Closure → Option Closure → Prop where
  | none : CalleesAlike view pairing none none
  | some {function function' : Closure}
      (alike : Alike view pairing function.toDatum function'.toDatum) :
      CalleesAlike view pairing (some function) (some function')

theorem Alike.closure? (alike : Alike view pairing datum datum') :
    CalleesAlike view pairing datum.closure? datum'.closure? := by
  cases alike with
  | closure paired fit bindings => exact .some (.closure paired fit bindings)
  | _ => exact .none

theorem BindingsAlike.closure? {binding binding' : Option Datum}
    (alike : BindingsAlike view pairing binding binding') :
    CalleesAlike view pairing (binding.bind Datum.closure?) (binding'.bind Datum.closure?) := by
  cases alike with
  | none => exact .none
  | some alike => exact alike.closure?

section Calls

variable {function function' : Closure}

theorem Alike.body_eq (alike : Alike view pairing function.toDatum function'.toDatum) :
    function.body = function'.body := by
  obtain ⟨mark, params, body, captured, self⟩ := function
  obtain ⟨mark', params', body', captured', self'⟩ := function'
  cases alike
  rfl

theorem Alike.fit_body (alike : Alike view pairing function.toDatum function'.toDatum) :
    Fit view pairing function.body := by
  obtain ⟨mark, params, body, captured, self⟩ := function
  obtain ⟨mark', params', body', captured', self'⟩ := function'
  cases alike with
  | closure paired fit bindings => exact fit

/-- Calls of like functions with like arguments have scopes that are alike as far as the body can
tell. -/
theorem Alike.bind (alike : Alike view pairing function.toDatum function'.toDatum)
    {arguments arguments' : List Datum} (given : ItemsAlike view pairing arguments arguments') :
    ScopesAlike view pairing function.body.Needs (function.bind arguments)
      (function'.bind arguments') := by
  obtain ⟨mark, params, body, captured, self⟩ := function
  obtain ⟨mark', params', body', captured', self'⟩ := function'
  have whole := alike
  cases alike with
  | closure paired fit bindings =>
    apply ScopesAlike.putParams _ params given
    cases self with
    | none => exact bindings
    | some name => exact ScopesAlike.put bindings name whole

end Calls

end Observations

/-! ### Bodies -/

namespace Datum

variable {name : String} {body : Datum}

/-- A body mentions what it needs. -/
theorem Needs.mentions (needs : body.Needs name) : body.Mentions name := by
  obtain ⟨form, mem, mentions⟩ := needs
  unfold forms at mem
  split at mem
  · split at mem
    · exact .item (.tail _ mem) mentions
    · rw [List.mem_singleton] at mem
      exact mem ▸ mentions
  · rw [List.mem_singleton] at mem
    exact mem ▸ mentions

/-- The body that is made of forms needs what one of them mentions. -/
theorem exists_of_needs_ofBody {body : List Datum} (needs : (ofBody body).Needs name) :
    ∃ form ∈ body, form.Mentions name := by
  cases body with
  | nil =>
    cases needs.mentions
  | cons first rest =>
    cases rest with
    | nil => exact ⟨first, .head _, needs.mentions⟩
    | cons second rest => exact needs

/-- What an operand of a list mentions the list needs. -/
theorem needs_of_operand {mark : Option Mark} {head operand : Datum} {operands : List Datum}
    (mem : operand ∈ operands) (mentions : operand.Mentions name) :
    (list mark (head :: operands)).Needs name := by
  have whole : (list mark (head :: operands)).Mentions name := .item (.tail head mem) mentions
  unfold Needs forms
  split
  · next mark' head' operands' same =>
    cases same
    split
    · exact ⟨operand, mem, mentions⟩
    · exact ⟨_, .head _, whole⟩
  · exact ⟨_, .head _, whole⟩

/-- What the head of a list mentions the list needs, unless it stands for a sequence. -/
theorem needs_of_head {mark : Option Mark} {head : Datum} {operands : List Datum}
    (notBegin : head ≠ beginSymbol) (mentions : head.Mentions name) :
    (list mark (head :: operands)).Needs name := by
  have whole : (list mark (head :: operands)).Mentions name := .item (.head operands) mentions
  unfold Needs forms
  split
  · next mark' head' operands' same =>
    cases same
    split
    · next isBegin =>
      subst isBegin
      exact (notBegin rfl).elim
    · exact ⟨_, .head _, whole⟩
  · exact ⟨_, .head _, whole⟩

theorem needs_symbol (name : String) : (symbol name).Needs name :=
  ⟨.symbol name, .head _, .symbol⟩

end Datum

theorem Fit.ofBody {view : View} {pairing : Pairing} {body : List Datum}
    (fit : ∀ form ∈ body, Fit view pairing form) : Fit view pairing (Datum.ofBody body) := by
  cases body with
  | nil => exact .literal .nil
  | cons first rest =>
    cases rest with
    | nil => exact fit first (.head _)
    | cons second rest =>
      apply Fit.list
      intro form mem
      cases mem with
      | head => exact .symbol "begin"
      | tail _ mem => exact fit form mem

end SandboxLisp
