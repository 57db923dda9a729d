import SandboxLisp.Eval.Control

/-!
# Binding: quotations, functions, definitions and local names

A scope is copied whenever one is entered, so a function sees the bindings of the moment in which it
was made and nothing that is bound later.
-/

namespace SandboxLisp

mutual

/-- The value that a quoted expression stands for: symbols become strings, lists are gone through,
and everything else stands for itself. -/
def Datum.quotation : Datum → Datum
  | .symbol name => .string name
  | .list _ items => .list none (Datum.quotations items)
  | .nil => .nil
  | .bool value => .bool value
  | .int value => .int value
  | .double value => .double value
  | .nan mark => .nan mark
  | .string text => .string text
  | .object mark fields => .object mark fields
  | .closure mark params body captured self => .closure mark params body captured self
termination_by structural expression => expression

/-- The values that the items of a quoted list stand for. -/
def Datum.quotations : List Datum → List Datum
  | [] => []
  | item :: rest => item.quotation :: Datum.quotations rest
termination_by structural items => items

end

/-- The symbol that heads a sequence of expressions. -/
def Datum.beginSymbol : Datum := .symbol "begin"

/-- The expression for a body of several forms: no form is nil, and several are a sequence. -/
def Datum.ofBody : List Datum → Datum
  | [] => .nil
  | [form] => form
  | forms => .list none (Datum.beginSymbol :: forms)

namespace Eval

/-- The name that a place for a name stands for: that of a symbol, or the text of anything else. -/
def bindingName : Datum → Eval String
  | .symbol name => pure name
  | other => text .display other

/-- The names of a list of parameters. -/
def parameterNames (form : String) : Datum → Eval (List String)
  | .list _ params => params.mapM bindingName
  | other => do fail (.malformed (.parameters form (← text .debug other)))

/-- `(quote expr)` gives the expression as a value. -/
def quote : List Datum → Eval Datum
  | [expression] => do
      checkNesting expression
      match expression.quotation with
      | .list _ items => newList items
      | other => return other
  | operands => fail (operandsError "quote" [1] operands)

/-- `(lambda (params...) body...)` makes a function in the current scope. -/
def lambda : List Datum → Eval Datum
  | [] => fail (.arity .lambdaParameters)
  | params :: body => do
      let names ← parameterNames "lambda" params
      closure names (.ofBody body) none

/-- `(define name value)` binds a value in the current scope, and `(define (name params...) body...)`
a function that knows itself by that name. -/
def definition (recur : Datum → Eval Datum) : List Datum → Eval Datum
  | [] => fail (.arity .defineName)
  | .list _ [] :: _ => fail (.malformed .defineName)
  | .list mark (target :: params) :: body => do
      let name ← bindingName target
      let names ← parameterNames "define" (.list mark params)
      let function ← closure names (.ofBody body) (some name)
      define name function
      return function
  | [target, expression] => do
      let value ← recur expression
      define (← bindingName target) value
      return value
  | _ => fail (.arity .defineOperands)

/-- Binds local names one after another in the current scope, each value seeing the names before
it. -/
def bindLocals (recur : Datum → Eval Datum) : List Datum → Eval Unit
  | [] => pure ()
  | .list _ [target, expression] :: rest => do
      let value ← recur expression
      define (← bindingName target) value
      bindLocals recur rest
  | binding :: _ => do fail (.malformed (.letBinding (← text .debug binding)))

/-- `(let ((name expr)...) body...)` evaluates a body in a copy of the current scope with local
names. -/
def letIn (recur : Datum → Eval Datum) : List Datum → Eval Datum
  | [] => fail (.arity .letBindings)
  | .list _ bindings :: body => do
      inScope (← scope) do
        bindLocals recur bindings
        recur (.ofBody body)
  | _ => fail (.malformed .letBindings)

end Eval

end SandboxLisp
