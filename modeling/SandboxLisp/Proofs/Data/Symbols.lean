import Mathlib.Data.List.Basic
import SandboxLisp.Proofs.Data.Exchange
import SandboxLisp.Proofs.Evaluation.Likeness
import SandboxLisp.Proofs.Reading.Legible

/-!
# Symbols inside of values

Expressions and values are of one type, and symbols belong to expressions: a value may have them in
the bodies of functions only.  `HoldsSymbol` says that a symbol got into a value elsewhere.

Data that are alike in a view without symbols hold none, so that view serves for showing that none
gets in.  What evaluation starts from is fit for it: trees for exchange as values, and what is read
from a text or from such a tree as expressions.
-/

namespace SandboxLisp

namespace Datum

/-- A symbol is in a value: it is the value itself, or it is in an item of a list, in a field of an
object or in a binding that a function has captured.  The body of a function does not count. -/
inductive HoldsSymbol : Datum → Prop where
  | symbol (name : String) : HoldsSymbol (.symbol name)
  | item {mark : Option Mark} {items : List Datum} {item : Datum} (among : item ∈ items)
      (holds : HoldsSymbol item) : HoldsSymbol (.list mark items)
  | field {mark : Mark} {fields : List (String × Datum)} {field : String × Datum}
      (among : field ∈ fields) (holds : HoldsSymbol field.2) : HoldsSymbol (.object mark fields)
  | captured {mark : Mark} {params : List String} {body : Datum} {captured : Scope}
      {self : Option String} {name : String} {value : Datum}
      (bound : Table.get? captured name = some value) (holds : HoldsSymbol value) :
      HoldsSymbol (.closure mark params body captured self)

end Datum

/-- A name is bound to a value that holds a symbol. -/
def BindsSymbol (scope : Scope) : Prop :=
  ∃ name value, Table.get? scope name = some value ∧ value.HoldsSymbol

/-! ### Looking for symbols -/

namespace Datum

theorem holdsSymbol_list {mark : Option Mark} {items : List Datum} :
    (list mark items).HoldsSymbol ↔ ∃ item ∈ items, item.HoldsSymbol := by
  constructor
  · rintro (_ | ⟨among, holds⟩)
    exact ⟨_, among, holds⟩
  · rintro ⟨item, among, holds⟩
    exact .item among holds

theorem holdsSymbol_object {mark : Mark} {fields : List (String × Datum)} :
    (object mark fields).HoldsSymbol ↔ ∃ field ∈ fields, field.2.HoldsSymbol := by
  constructor
  · rintro (_ | _ | ⟨among, holds⟩)
    exact ⟨_, among, holds⟩
  · rintro ⟨field, among, holds⟩
    exact .field among holds

theorem holdsSymbol_closure {mark : Mark} {params : List String} {body : Datum} {captured : Scope}
    {self : Option String} :
    (closure mark params body captured self).HoldsSymbol ↔ BindsSymbol captured := by
  constructor
  · rintro (_ | _ | _ | ⟨bound, holds⟩)
    exact ⟨_, _, bound, holds⟩
  · rintro ⟨name, value, bound, holds⟩
    exact .captured bound holds

end Datum

/-- A name other than the hidden ones is bound to a value that holds a symbol. -/
def BindsSymbolBeyond (hidden : List String) (scope : Scope) : Prop :=
  ∃ name value, name ∉ hidden ∧ Table.get? scope name = some value ∧ value.HoldsSymbol

theorem bindsSymbol_iff_beyond {scope : Scope} :
    BindsSymbol scope ↔ BindsSymbolBeyond [] scope := by
  simp [BindsSymbol, BindsSymbolBeyond]

/-- The first entry counts unless its name is hidden, and it hides its name in the entries behind
it. -/
theorem bindsSymbolBeyond_cons {hidden : List String} {name : String} {value : Datum}
    {rest : Scope} :
    BindsSymbolBeyond hidden ((name, value) :: rest) ↔
      name ∉ hidden ∧ value.HoldsSymbol ∨ BindsSymbolBeyond (name :: hidden) rest := by
  constructor
  · rintro ⟨other, found, visible, bound, holds⟩
    by_cases same : name = other
    · subst same
      rw [Table.get?, if_pos rfl] at bound
      cases bound
      exact .inl ⟨visible, holds⟩
    · rw [Table.get?, if_neg same] at bound
      exact .inr ⟨other, found, List.not_mem_cons_of_ne_of_not_mem (Ne.symm same) visible, bound,
        holds⟩
  · rintro (⟨visible, holds⟩ | ⟨other, found, visible, bound, holds⟩)
    · exact ⟨name, value, visible, by rw [Table.get?, if_pos rfl], holds⟩
    · obtain ⟨different, visible⟩ := List.ne_and_not_mem_of_not_mem_cons visible
      exact ⟨other, found, visible, by rw [Table.get?, if_neg (Ne.symm different), bound], holds⟩

namespace Datum

mutual

/-- Whether a value holds a symbol can be decided by going through it. -/
def decidableHoldsSymbol : (datum : Datum) → Decidable datum.HoldsSymbol
  | .symbol name => isTrue (.symbol name)
  | .list _ items =>
      have := decidableItemHoldsSymbol items
      decidable_of_iff _ holdsSymbol_list.symm
  | .object _ fields =>
      have := decidableFieldHoldsSymbol fields
      decidable_of_iff _ holdsSymbol_object.symm
  | .closure _ _ _ captured _ =>
      have := decidableBindsSymbolBeyond [] captured
      decidable_of_iff _ (holdsSymbol_closure.trans bindsSymbol_iff_beyond).symm
  | .nil => isFalse nofun
  | .bool _ => isFalse nofun
  | .int _ => isFalse nofun
  | .double _ => isFalse nofun
  | .nan _ => isFalse nofun
  | .string _ => isFalse nofun
termination_by structural datum => datum

/-- Whether an item holds a symbol can be decided. -/
def decidableItemHoldsSymbol :
    (items : List Datum) → Decidable (∃ item ∈ items, item.HoldsSymbol)
  | [] => isFalse fun ⟨_, among, _⟩ => List.not_mem_nil among
  | item :: rest =>
      have := decidableHoldsSymbol item
      have := decidableItemHoldsSymbol rest
      decidable_of_iff _ (List.exists_mem_cons_iff _ _ _).symm
termination_by structural items => items

/-- Whether a field holds a symbol can be decided. -/
def decidableFieldHoldsSymbol :
    (fields : List (String × Datum)) → Decidable (∃ field ∈ fields, field.2.HoldsSymbol)
  | [] => isFalse fun ⟨_, among, _⟩ => List.not_mem_nil among
  | (_, value) :: rest =>
      have := decidableHoldsSymbol value
      have := decidableFieldHoldsSymbol rest
      decidable_of_iff _ (List.exists_mem_cons_iff _ _ _).symm
termination_by structural fields => fields

/-- Whether a binding holds a symbol can be decided; hidden names are those of earlier entries. -/
def decidableBindsSymbolBeyond (hidden : List String) :
    (scope : Scope) → Decidable (BindsSymbolBeyond hidden scope)
  | [] => isFalse fun ⟨_, _, _, bound, _⟩ => Option.some_ne_none _ bound.symm
  | (name, value) :: rest =>
      have := decidableHoldsSymbol value
      have := decidableBindsSymbolBeyond (name :: hidden) rest
      decidable_of_iff _ bindsSymbolBeyond_cons.symm
termination_by structural scope => scope

end

instance (datum : Datum) : Decidable datum.HoldsSymbol :=
  decidableHoldsSymbol datum

end Datum

instance (scope : Scope) : Decidable (BindsSymbol scope) :=
  have := Datum.decidableBindsSymbolBeyond [] scope
  decidable_of_iff _ bindsSymbol_iff_beyond.symm

/-- A function is searched in its captured bindings, behind those of the same name, but not in its
body. -/
example :
    ¬ (Datum.closure 0 [] (.symbol "x") [("x", .nil), ("x", .symbol "x")] none).HoldsSymbol ∧
      (Datum.object 0 [("a", .list none [.symbol "x"])]).HoldsSymbol := by
  decide

/-! ### A view without symbols -/

/-- The view of two runs that bind everything alike and have no symbols as values. -/
def View.symbolFree : View :=
  ⟨fun _ => True, False⟩

section SymbolFree

variable {pairing : Pairing}

theorem ItemsAlike.exists_left {view : View} {items items' : List Datum}
    (alike : ItemsAlike view pairing items items') {item' : Datum} (among : item' ∈ items') :
    ∃ item, Alike view pairing item item' := by
  induction items' generalizing items with
  | nil => cases among
  | cons first rest ih =>
    cases alike with
    | cons one others =>
      cases among with
      | head => exact ⟨_, one⟩
      | tail _ later => exact ih others later

theorem FieldsAlike.exists_left {view : View} {fields fields' : List (String × Datum)}
    (alike : FieldsAlike view pairing fields fields') {field' : String × Datum}
    (among : field' ∈ fields') : ∃ value, Alike view pairing value field'.2 := by
  have values := alike.values
  exact values.exists_left (List.mem_map_of_mem among)

/-- What is alike in that view holds no symbol. -/
theorem Alike.not_holdsSymbol {datum datum' : Datum}
    (alike : Alike .symbolFree pairing datum datum') : ¬ datum'.HoldsSymbol := by
  intro holds
  induction holds generalizing datum with
  | symbol name =>
    cases alike with
    | symbol allowed => exact allowed
  | item among _ ih =>
    cases alike with
    | list _ parts =>
      obtain ⟨item, one⟩ := parts.exists_left among
      exact ih one
  | field among _ ih =>
    cases alike with
    | object _ parts =>
      obtain ⟨value, one⟩ := parts.exists_left among
      exact ih one
  | @captured _ _ _ _ _ name _ bound _ ih =>
    cases alike with
    | closure _ _ bindings =>
      have binding := bindings name (.inl trivial)
      rw [bound] at binding
      generalize Table.get? _ name = other at binding
      cases binding with
      | some one => exact ih one

/-- Scopes that are alike in that view bind no symbol. -/
theorem ScopesAlike.not_bindsSymbol {names : String → Prop} {scope scope' : Scope}
    (alike : ScopesAlike .symbolFree pairing names scope scope') : ¬ BindsSymbol scope' := by
  rintro ⟨name, value, bound, holds⟩
  have binding := alike name (.inl trivial)
  rw [bound] at binding
  generalize Table.get? scope name = other at binding
  cases binding with
  | some one => exact one.not_holdsSymbol holds

end SymbolFree

/-! ### What evaluation starts from -/

section Starts

variable {view : View}

theorem MarksAlike.same (mark : Option Mark) : MarksAlike .same mark mark := by
  cases mark with
  | none => exact .none
  | some mark => exact .some rfl

theorem FieldsAlike.same_of_mem {fields : List (String × Datum)}
    (alike : ∀ field ∈ fields, Alike view .same field.2 field.2) :
    FieldsAlike view .same fields fields := by
  induction fields with
  | nil => exact .nil
  | cons field rest ih =>
    obtain ⟨first, others⟩ := List.forall_mem_cons.mp alike
    exact .cons field.1 first (ih others)

/-- A tree for exchange is like itself, whether symbols may be values or not. -/
theorem Alike.same_of_tree {tree : Datum} (isTree : tree.Every Datum.InTree) :
    Alike view .same tree tree := by
  induction isTree with
  | @intro tree here _ ih =>
    cases tree with
    | nil => exact .nil
    | bool value => exact .bool value
    | int value => exact .int value
    | double value => exact .double value
    | nan mark => exact .nan rfl
    | string text => exact .string text
    | symbol name => cases here
    | list mark items =>
      exact .list (.same mark) (itemsAlike_iff.mpr (List.forall₂_same.mpr ih))
    | object mark fields =>
      exact .object rfl (.same_of_mem fun field among => ih field.2 (List.mem_map_of_mem among))
    | closure => cases here

theorem Datum.exists_of_mem_ofOperands {literal : Bool} {operands : List Datum} {item : Datum}
    (among : item ∈ ofOperands literal operands) :
    ∃ operand ∈ operands, item = ofTree literal operand := by
  induction operands with
  | nil => cases among
  | cons operand rest ih =>
    rcases List.mem_cons.mp among with rfl | later
    · exact ⟨operand, .head _, rfl⟩
    · obtain ⟨other, isOther, same⟩ := ih later
      exact ⟨other, .tail _ isOther, same⟩

/-- The items of a list's expression are those of the list, each read in one way or the other. -/
theorem Datum.exists_of_mem_ofItems {items : List Datum} {item : Datum}
    (among : item ∈ ofItems items) : ∃ part ∈ items, ∃ literal, item = ofTree literal part := by
  cases items with
  | nil => cases among
  | cons head operands =>
    rcases List.mem_cons.mp among with rfl | later
    · exact ⟨head, .head _, false, rfl⟩
    · obtain ⟨operand, isOperand, same⟩ := exists_of_mem_ofOperands later
      exact ⟨operand, .tail _ isOperand, _, same⟩

/-- The expression for a tree has literals that are like themselves. -/
theorem Fit.ofTree {tree : Datum} (isTree : tree.Every Datum.InTree) (literal : Bool) :
    Fit view .same (Datum.ofTree literal tree) := by
  induction isTree generalizing literal with
  | @intro tree here within ih =>
    cases tree with
    | string text =>
      cases literal with
      | true => exact .literal (.string text)
      | false => exact .symbol text
    | list mark items =>
      apply Fit.list
      intro item among
      obtain ⟨part, isPart, literal, rfl⟩ := Datum.exists_of_mem_ofItems among
      exact ih part isPart literal
    | symbol name => cases here
    | _ => exact .literal (.same_of_tree (.intro here within))

/-- What is read from a text has literals that are like themselves. -/
theorem Datum.Legible.fit {datum : Datum} (legible : datum.Legible) : Fit view .same datum := by
  induction legible with
  | nil => exact .literal .nil
  | bool value => exact .literal (.bool value)
  | int value => exact .literal (.int value)
  | double negative magnitude => exact .literal (.double _)
  | string text => exact .literal (.string text)
  | @symbol name spells => exact .symbol name
  | list _ ih => exact .list none ih

/-- An expression that is read from a text or from a tree for exchange. -/
inductive IsRead : Datum → Prop where
  | text {text : List Char} {expression : Datum} (parsed : Reader.parse text = .ok expression) :
      IsRead expression
  | tree {tree : Datum} (isTree : tree.Every Datum.InTree) : IsRead tree.deserialize

theorem IsRead.fit {expression : Datum} (read : IsRead expression) :
    Fit view .same expression := by
  cases read with
  | text parsed => exact (Reader.legibleIn_of_parse parsed).legible.fit
  | tree isTree => exact .ofTree isTree false

end Starts

end SandboxLisp
