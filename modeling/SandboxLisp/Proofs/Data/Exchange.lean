import SandboxLisp.Proofs.Data.Nesting
import SandboxLisp.Proofs.Data.Paths
import SandboxLisp.Serial

/-!
# What survives an exchange

A tree without symbols is written back as it was read.  An expression is read back as it was written
exactly if its strings are where a string is read as one, which is behind the head of a list whose
head is the symbol `quote`, and its symbols are elsewhere.

Whether a string is read as one is known from the list around it, so the proof goes down into the
lists with a flag, and `literalAt` says what the flag is for the items of a list.

An exchange leaves the nesting of lists as it is.  So where the levels are bounded, the same data are
nested too deep on both ways, and for all others the bound makes no difference.
-/

namespace SandboxLisp

namespace Datum

/-- Whether a datum may stand in a tree for exchange: anything but a symbol or a function. -/
def InTree : Datum → Prop
  | .symbol _ => False
  | .closure _ _ _ _ _ => False
  | _ => True

/-- Whether a datum may stand in an expression: anything but an object or a function. -/
def InExpression : Datum → Prop
  | .object _ _ => False
  | .closure _ _ _ _ _ => False
  | _ => True

/-- The path leads to an item behind the head of a list, and that head is the symbol `quote`. -/
def IsQuoted (whole : Datum) (path : List Step) : Prop :=
  ∃ parent index mark operands, path = parent ++ [.item (index + 1)] ∧
    whole.at? parent = some (.list mark (.symbol quoteName :: operands))

/-! ### Nesting -/

mutual

theorem nesting_serialize : (expression : Datum) → expression.serialize.nesting = expression.nesting
  | .list _ items => congrArg (· + 1) (itemNesting_serializeItems items)
  | .nil | .bool _ | .int _ | .double _ | .nan _ | .string _ | .symbol _ | .object _ _
  | .closure _ _ _ _ _ => rfl

theorem itemNesting_serializeItems :
    (items : List Datum) → itemNesting (serializeItems items) = itemNesting items
  | [] => rfl
  | item :: rest => congrArg₂ max (nesting_serialize item) (itemNesting_serializeItems rest)

end

mutual

theorem nesting_ofTree (literal : Bool) :
    (tree : Datum) → (ofTree literal tree).nesting = tree.nesting
  | .list _ items => congrArg (· + 1) (itemNesting_ofItems items)
  | .string _ => by cases literal <;> rfl
  | .nil | .bool _ | .int _ | .double _ | .nan _ | .symbol _ | .object _ _
  | .closure _ _ _ _ _ => rfl

theorem itemNesting_ofItems : (items : List Datum) → itemNesting (ofItems items) = itemNesting items
  | [] => rfl
  | head :: operands =>
      congrArg₂ max (nesting_ofTree false head)
        (itemNesting_ofOperands (quotesOperands (ofTree false head)) operands)

theorem itemNesting_ofOperands (literal : Bool) :
    (operands : List Datum) → itemNesting (ofOperands literal operands) = itemNesting operands
  | [] => rfl
  | operand :: rest =>
      congrArg₂ max (nesting_ofTree literal operand) (itemNesting_ofOperands literal rest)

end

/-- The tree for an expression can be read within a bound if the expression can be written. -/
theorem deserializeWithin_serialize (levels : Option Nat) (expression : Datum) :
    expression.serialize.deserializeWithin levels =
      if expression.exceeds levels then none else some expression.serialize.deserialize := by
  rw [deserializeWithin, exceeds, nesting_serialize]
  rfl

/-- The expression for a tree can be written within a bound if the tree can be read. -/
theorem serializeWithin_deserialize (levels : Option Nat) (tree : Datum) :
    tree.deserialize.serializeWithin levels =
      if tree.exceeds levels then none else some tree.deserialize.serialize := by
  rw [serializeWithin, exceeds, deserialize, nesting_ofTree]
  rfl

/-! ### From trees to expressions and back -/

/-- Operands are written as they were read if each of them is. -/
theorem serializeItems_ofOperands {operands : List Datum}
    (each : ∀ operand ∈ operands, ∀ literal, serialize (ofTree literal operand) = operand)
    (literal : Bool) : serializeItems (ofOperands literal operands) = operands := by
  induction operands with
  | nil => rfl
  | cons operand rest ih =>
    obtain ⟨first, others⟩ := List.forall_mem_cons.mp each
    rw [ofOperands, serializeItems, first, ih others]

/-- A tree is written as it was read, wherever it stands. -/
theorem serialize_ofTree {tree : Datum} (isTree : tree.Every InTree) (literal : Bool) :
    serialize (ofTree literal tree) = tree := by
  induction isTree generalizing literal with
  | @intro tree here _ ih =>
    cases tree with
    | symbol name => cases here
    | string text => cases literal <;> rfl
    | list mark items =>
      cases items with
      | nil => rfl
      | cons head operands =>
        obtain ⟨first, others⟩ := List.forall_mem_cons.mp ih
        rw [ofTree, ofItems, serialize, serializeItems, first, serializeItems_ofOperands others]
    | _ => rfl

/-! ### From expressions to trees and back -/

/-- Operands are read as they were written if each of them is. -/
theorem ofOperands_serializeItems {literal : Bool} {operands : List Datum} :
    ofOperands literal (serializeItems operands) = operands ↔
      ∀ operand ∈ operands, ofTree literal (serialize operand) = operand := by
  induction operands with
  | nil => simp [serializeItems, ofOperands]
  | cons operand rest ih =>
    rw [serializeItems, ofOperands, List.cons.injEq, ih, List.forall_mem_cons]

/-- Whether a string that is the item of a list at an index stands for itself. -/
def literalAt (items : List Datum) (index : Nat) : Bool :=
  index != 0 && items.head?.any quotesOperands

/-- Items are read as they were written if each of them is at its place. -/
theorem ofItems_serializeItems {items : List Datum} :
    ofItems (serializeItems items) = items ↔ ∀ index item, items[index]? = some item →
      ofTree (literalAt items index) (serialize item) = item := by
  cases items with
  | nil => simp [serializeItems, ofItems]
  | cons head operands =>
    rw [serializeItems, ofItems, List.cons.injEq]
    constructor
    · rintro ⟨first, others⟩ index item isItem
      rw [first, ofOperands_serializeItems] at others
      cases index with
      | zero =>
        cases isItem
        exact first
      | succ index => exact others item (List.mem_of_getElem? isItem)
    · intro each
      have first : ofTree false (serialize head) = head := each 0 head rfl
      refine ⟨first, ?_⟩
      rw [first, ofOperands_serializeItems]
      intro operand isOperand
      obtain ⟨index, found⟩ := List.mem_iff_getElem?.mp isOperand
      exact each (index + 1) operand found

/-- Whether a string at the end of a path stands for itself, where the flag tells so of the
whole. -/
def IsLiteral (literal : Bool) (whole : Datum) (path : List Step) : Prop :=
  path = [] ∧ literal = true ∨ whole.IsQuoted path

/-- Nothing is behind the head of a list at the start of a path. -/
theorem not_isQuoted_nil (whole : Datum) : ¬ whole.IsQuoted [] := by
  rintro ⟨parent, index, mark, operands, split, _⟩
  cases parent <;> cases split

/-- Only an item is quoted by the list that it stands in. -/
theorem isLiteral_item {literal : Bool} {mark : Option Mark} {items : List Datum} {index : Nat}
    {item : Datum} (isItem : items[index]? = some item) (path : List Step) :
    IsLiteral literal (.list mark items) (.item index :: path) ↔
      item.IsLiteral (literalAt items index) path := by
  constructor
  · rintro (⟨absurd, _⟩ | ⟨parent, place, mark', operands, split, found⟩)
    · cases absurd
    cases parent with
    | nil =>
      cases split
      cases found
      exact .inl ⟨rfl, rfl⟩
    | cons step parent =>
      cases split
      rw [at?_item isItem] at found
      exact .inr ⟨parent, place, mark', operands, rfl, found⟩
  · rintro (⟨rfl, literal⟩ | ⟨parent, place, mark', operands, rfl, found⟩)
    · rw [literalAt, Bool.and_eq_true, bne_iff_ne, Option.any_eq_true] at literal
      obtain ⟨later, head, isHead, quotes⟩ := literal
      obtain ⟨operands, rfl⟩ := List.head?_eq_some_iff.mp isHead
      cases head with
      | symbol name =>
        obtain ⟨before, rfl⟩ := Nat.exists_eq_succ_of_ne_zero later
        rw [eq_of_beq quotes]
        exact .inr ⟨[], before, mark, operands, rfl, rfl⟩
      | _ => cases quotes
    · exact .inr ⟨.item index :: parent, place, mark', operands, rfl,
        (at?_item isItem parent).trans found⟩

/-- Strings are where they stand for themselves, and symbols elsewhere. -/
def LiteralsFit (literal : Bool) (expression : Datum) : Prop :=
  (∀ path text, expression.at? path = some (.string text) → expression.IsLiteral literal path) ∧
    ∀ path name, expression.at? path = some (.symbol name) → ¬ expression.IsLiteral literal path

/-- The literals of a list fit if those of its items do. -/
theorem literalsFit_list {literal : Bool} {mark : Option Mark} {items : List Datum} :
    LiteralsFit literal (.list mark items) ↔ ∀ index item, items[index]? = some item →
      LiteralsFit (literalAt items index) item := by
  constructor
  · rintro ⟨strings, symbols⟩ index item isItem
    constructor
    · intro path text found
      rw [← at?_item isItem] at found
      exact (isLiteral_item isItem path).mp (strings _ text found)
    · intro path name found literal
      rw [← at?_item isItem] at found
      exact symbols _ name found ((isLiteral_item isItem path).mpr literal)
  · intro each
    -- A place of a string or a symbol is not the list itself, so its path starts at an item.
    have inside {path : List Step} {part : Datum} (isAtom : part.isAtom)
        (found : (Datum.list mark items).at? path = some part) :
        ∃ index item others, path = .item index :: others ∧ items[index]? = some item ∧
          item.at? others = some part := by
      cases path with
      | nil =>
        cases found
        cases isAtom
      | cons step others =>
        obtain ⟨item, isItem, behind⟩ := Option.bind_eq_some_iff.mp found
        cases step with
        | item index => exact ⟨index, item, others, rfl, isItem, behind⟩
        | field name => cases isItem
    constructor
    · intro path text found
      obtain ⟨index, item, others, rfl, isItem, found⟩ := inside rfl found
      exact (isLiteral_item isItem others).mpr ((each index item isItem).1 others text found)
    · intro path name found literal
      obtain ⟨index, item, others, rfl, isItem, found⟩ := inside rfl found
      exact (each index item isItem).2 others name found ((isLiteral_item isItem others).mp literal)

/-- The literals of a datum without parts fit if it is not read as something else. -/
theorem literalsFit_of_isAtom {literal : Bool} {datum : Datum} (isAtom : datum.isAtom) :
    LiteralsFit literal datum ↔ (∀ text, datum = .string text → literal = true) ∧
      ∀ name, datum = .symbol name → literal = false := by
  simp only [LiteralsFit, IsLiteral, at?_eq_some_of_isAtom isAtom]
  constructor
  · rintro ⟨strings, symbols⟩
    refine ⟨fun text same => ?_, fun name same => ?_⟩
    · rcases strings [] text ⟨rfl, same.symm⟩ with ⟨_, literal⟩ | quoted
      · exact literal
      · exact absurd quoted (not_isQuoted_nil datum)
    · refine Bool.eq_false_iff.mpr fun literal => ?_
      exact symbols [] name ⟨rfl, same.symm⟩ (.inl ⟨rfl, literal⟩)
  · rintro ⟨strings, symbols⟩
    refine ⟨?_, ?_⟩
    · rintro path text ⟨rfl, same⟩
      exact .inl ⟨rfl, strings text same.symm⟩
    · rintro path name ⟨rfl, same⟩ (⟨_, literal⟩ | quoted)
      · cases (symbols name same.symm).symm.trans literal
      · exact absurd quoted (not_isQuoted_nil datum)

/-- An expression is read as it was written exactly if its literals fit. -/
theorem ofTree_serialize {expression : Datum} (isExpression : expression.Every InExpression)
    (literal : Bool) :
    ofTree literal (serialize expression) = expression ↔ LiteralsFit literal expression := by
  induction isExpression generalizing literal with
  | @intro expression here _ ih =>
    cases expression with
    | list mark items =>
      rw [serialize, ofTree, literalsFit_list, Datum.list.injEq, and_iff_right rfl,
        ofItems_serializeItems]
      have each index item (isItem : items[index]? = some item) :=
        ih item (List.mem_of_getElem? isItem) (literalAt items index)
      exact forall₃_congr each
    | object mark fields => cases here
    | closure mark params body captured self => cases here
    | _ => rw [literalsFit_of_isAtom rfl]; cases literal <;> simp [serialize, ofTree]

/-- A tree is read as an expression that is written as the tree.  An expression is written as a tree
that is read again, and this gives the expression exactly if every string of it, at any depth, is an
item behind the head of a list whose head is the symbol `quote`, and no symbol of it is such an item.

All of this holds within any bound on levels, unless the tree or the expression is nested deeper:
then it can neither be read nor written. -/
theorem exchange_faithful :
    (∀ tree : Datum, tree.Every InTree → ∃ expression : Datum, ∀ levels,
      tree.deserializeWithin levels = (if tree.exceeds levels then none else some expression) ∧
      expression.serializeWithin levels = if tree.exceeds levels then none else some tree) ∧
    ∀ expression : Datum, expression.Every InExpression → ∃ tree again : Datum,
      (∀ levels, expression.serializeWithin levels =
          (if expression.exceeds levels then none else some tree) ∧
        tree.deserializeWithin levels = if expression.exceeds levels then none else some again) ∧
      (again = expression ↔
        (∀ path text, expression.at? path = some (.string text) → expression.IsQuoted path) ∧
          ∀ path name, expression.at? path = some (.symbol name) → ¬ expression.IsQuoted path) := by
  constructor
  · intro tree isTree
    have same : tree.deserialize.serialize = tree := serialize_ofTree isTree false
    refine ⟨tree.deserialize, fun levels => ⟨rfl, ?_⟩⟩
    rw [serializeWithin_deserialize, same]
  · intro expression isExpression
    refine ⟨expression.serialize, expression.serialize.deserialize, fun levels => ⟨rfl, ?_⟩, ?_⟩
    · exact deserializeWithin_serialize levels expression
    · rw [deserialize, ofTree_serialize isExpression, LiteralsFit]
      simp [IsLiteral]

/-- A tree with strings in a list under `quote`, in a list inside of that, and in an object, is
written as it was read; this takes two levels.  The expression `(f (quote "a b" 1))` is read as it
was written and `(concat "text")` is not. -/
theorem exchange_faithful_quotations :
    let tree : Datum := .list none [.string "quote", .string "a", .list none [.string "b"],
      .object 0 [("key", .string "value")]]
    let quotation : Datum := .list none [.symbol "f",
      .list none [.symbol "quote", .string "a b", .int 1]]
    let call : Datum := .list none [.symbol "concat", .string "text"]
    (tree.Every InTree ∧ quotation.Every InExpression ∧ call.Every InExpression) ∧
      tree.deserializeWithin (some 1) = none ∧
      (∃ expression, tree.deserializeWithin (some 2) = some expression ∧
        expression.serializeWithin (some 2) = some tree) ∧
      (∀ path text, quotation.at? path = some (.string text) → quotation.IsQuoted path) ∧
      ∃ other again, call.serializeWithin (some 1) = some other ∧
        other.deserializeWithin (some 1) = some again ∧ again ≠ call := by
  intro tree quotation call
  have atom {holds : Datum → Prop} {datum : Datum} (isAtom : datum.isAtom) (here : holds datum) :
      datum.Every holds := by
    refine .intro here fun part isPart => ?_
    cases datum <;> cases isAtom <;> cases isPart
  have isTree : tree.Every InTree := by
    have inner : (Datum.list none [.string "b"]).Every InTree :=
      .intro trivial (List.forall_mem_singleton.mpr (atom rfl trivial))
    have fields : (Datum.object 0 [("key", .string "value")]).Every InTree :=
      .intro trivial (List.forall_mem_singleton.mpr (atom rfl trivial))
    refine .intro trivial ?_
    simp only [tree, parts, List.forall_mem_cons]
    exact ⟨atom rfl trivial, atom rfl trivial, inner, fields, nofun⟩
  have isQuotation : quotation.Every InExpression := by
    have inner : (Datum.list none [.symbol "quote", .string "a b", .int 1]).Every InExpression := by
      refine .intro trivial ?_
      simp only [parts, List.forall_mem_cons]
      exact ⟨atom rfl trivial, atom rfl trivial, atom rfl trivial, nofun⟩
    refine .intro trivial ?_
    simp only [quotation, parts, List.forall_mem_cons]
    exact ⟨atom rfl trivial, inner, nofun⟩
  have isCall : call.Every InExpression := by
    refine .intro trivial ?_
    simp only [call, parts, List.forall_mem_cons]
    exact ⟨atom rfl trivial, atom rfl trivial, nofun⟩
  refine ⟨⟨isTree, isQuotation, isCall⟩, rfl, ?_, ?_, ?_⟩
  · obtain ⟨expression, exchanged⟩ := exchange_faithful.1 tree isTree
    exact ⟨expression, exchanged (some 2)⟩
  · obtain ⟨other, again, exchanged, faithful⟩ := exchange_faithful.2 quotation isQuotation
    obtain ⟨written, read⟩ := exchanged none
    cases written
    cases read
    exact (faithful.mp rfl).1
  · obtain ⟨other, again, exchanged, faithful⟩ := exchange_faithful.2 call isCall
    refine ⟨other, again, (exchanged (some 1)).1, (exchanged (some 1)).2, fun same => ?_⟩
    -- The string would be quoted by its list, but the head of that is another symbol.
    obtain ⟨parent, index, mark, operands, split, found⟩ := (faithful.mp same).1 [.item 1] "text" rfl
    cases parent with
    | nil =>
      obtain ⟨_, items⟩ := Datum.list.inj (Option.some.inj found)
      exact absurd (Datum.symbol.inj (List.cons.inj items).1) (by decide)
    | cons step parent => cases parent <;> cases split

theorem every_hollow {holds : Datum → Prop} (lists : ∀ mark items, holds (.list mark items))
    (depth : Nat) : (hollow depth).Every holds := by
  induction depth with
  | zero => exact .intro (lists _ _) nofun
  | succ depth ih => exact .intro (lists _ _) (List.forall_mem_singleton.mpr ih)

/-- Lists in lists, 3000 of them, are a tree that cannot be read and an expression that cannot be
written. -/
theorem exchange_faithful_too_deep :
    ((hollow 2999).Every InTree ∧ (hollow 2999).deserializeWithin (some levelBound) = none) ∧
      (hollow 2999).Every InExpression ∧ (hollow 2999).serializeWithin (some levelBound) = none := by
  have deep : (hollow 2999).exceeds (some levelBound) = true := exceeds_hollow (by decide)
  have isTree : (hollow 2999).Every InTree := every_hollow (fun _ _ => trivial) 2999
  have isExpression : (hollow 2999).Every InExpression := every_hollow (fun _ _ => trivial) 2999
  exact ⟨⟨isTree, if_pos deep⟩, isExpression, if_pos deep⟩

end Datum

end SandboxLisp
