import SandboxLisp.Datum.Basic

/-!
# Expressions as symbol-free trees

A tree for exchange has no symbols.  Writing turns every symbol into a string; reading turns every
string into a symbol, except the direct operands of a list whose head is the symbol `quote`.  So
strings outside of quotations do not come back as they were.

Both go down into lists level by level, and fail if there are more levels than may be gone through.
-/

namespace SandboxLisp

namespace Datum

/-- The name whose operands are read as strings. -/
def quoteName : String := "quote"

/-- Whether a head makes the operands of its list literal. -/
def quotesOperands : Datum → Bool
  | .symbol name => name == quoteName
  | _ => false

mutual

/-- The expression for a tree, where `literal` tells that a string stands for itself. -/
def ofTree (literal : Bool) : Datum → Datum
  | .list mark items => .list mark (ofItems items)
  | .string text => if literal then .string text else .symbol text
  | .nil => .nil
  | .bool value => .bool value
  | .int value => .int value
  | .double value => .double value
  | .nan mark => .nan mark
  | .symbol name => .symbol name
  | .object mark fields => .object mark fields
  | .closure mark params body captured self => .closure mark params body captured self
termination_by structural tree => tree

/-- The items of a list's expression: the head decides how the others are read. -/
def ofItems : List Datum → List Datum
  | [] => []
  | head :: operands => ofTree false head :: ofOperands (quotesOperands (ofTree false head)) operands
termination_by structural items => items

/-- The operands of a list's expression. -/
def ofOperands (literal : Bool) : List Datum → List Datum
  | [] => []
  | operand :: rest => ofTree literal operand :: ofOperands literal rest
termination_by structural operands => operands

end

/-- The expression for a tree, however deep it is nested. -/
def deserialize (tree : Datum) : Datum :=
  ofTree false tree

/-- The expression for a tree; none if lists are nested beyond the levels that are gone through. -/
def deserializeWithin (levels : Option Nat) (tree : Datum) : Option Datum :=
  if tree.exceeds levels then none else some tree.deserialize

mutual

/-- The tree for an expression, however deep it is nested. -/
def serialize : Datum → Datum
  | .symbol name => .string name
  | .list mark items => .list mark (serializeItems items)
  | .nil => .nil
  | .bool value => .bool value
  | .int value => .int value
  | .double value => .double value
  | .nan mark => .nan mark
  | .string text => .string text
  | .object mark fields => .object mark fields
  | .closure mark params body captured self => .closure mark params body captured self
termination_by structural expression => expression

/-- The trees for a list of expressions. -/
def serializeItems : List Datum → List Datum
  | [] => []
  | item :: rest => serialize item :: serializeItems rest
termination_by structural items => items

end

/-- The tree for an expression; none if lists are nested beyond the levels that are gone through. -/
def serializeWithin (levels : Option Nat) (expression : Datum) : Option Datum :=
  if expression.exceeds levels then none else some expression.serialize

end Datum

end SandboxLisp
