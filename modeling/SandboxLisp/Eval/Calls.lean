import SandboxLisp.Eval.Binding

/-!
# Calls: applying functions and folding over lists

A call evaluates the body of the function one level deeper, in the scope of the function with its
parameters bound.  Every form that calls functions does so through `applyClosure`.
-/

namespace SandboxLisp.Eval

/-- The value of a function at arguments. -/
def applyClosure (recur : Datum → Eval Datum) (function : Closure) (arguments : List Datum) :
    Eval Datum :=
  inScope (function.bind arguments) (recur function.body)

/-- The failure of an operation that expects something else than it was given. -/
def expectedError (name : String) (what : Expectation) (given : Datum) : EvalError :=
  .type (.expected name what given.typeName)

/-- The items of a datum that has to be a list. -/
def expectList (name : String) : Datum → Eval (List Datum)
  | .list _ items => pure items
  | other => fail (expectedError name .list other)

/-- `(apply fn args)` calls a function with the items of a list as arguments. -/
def apply (recur : Datum → Eval Datum) : List Datum → Eval Datum
  | [function, arguments] => do
      let callee ← recur function
      let given ← recur arguments
      match callee.closure? with
      | none => fail (.notCallable (← text .debug callee))
      | some closure =>
          match given with
          | .list _ items => applyClosure recur closure items
          | other => fail (.type (.applyArguments other.typeName))
  | operands => fail (operandsError "apply" [2] operands)

/-- The left fold of the items from `value`, one step per item. -/
def fold (step : Datum → Datum → Eval Datum) (value : Datum) : List Datum → Eval Datum
  | [] => pure value
  | item :: rest => do
      let next ← step value item
      fold step next rest

/-- One step of a fold whose body is an expression over two names. -/
def inlineStep (recur : Datum → Eval Datum) (valueName itemName : String) (body : Datum)
    (value item : Datum) : Eval Datum := do
  inScope (Table.putAll (← scope) [(valueName, value), (itemName, item)]) (recur body)

/-- `(reduce list init (acc item) body)` and `(reduce list init fn)` fold over a list from the
left. -/
def reduce (recur : Datum → Eval Datum) : List Datum → Eval Datum
  | [list, initial, params, body] => do
      let items ← expectList "reduce" (← recur list)
      let value ← recur initial
      match params with
      | .list _ [valueTarget, itemTarget] => do
          let valueName ← bindingName valueTarget
          let itemName ← bindingName itemTarget
          fold (inlineStep recur valueName itemName body) value items
      | _ => fail (.malformed .reduceNames)
  | [list, initial, function] => do
      let items ← expectList "reduce" (← recur list)
      let value ← recur initial
      let callee ← recur function
      match callee.closure? with
      | none => fail (.notAFunction (← text .debug callee))
      | some closure => fold (fun value item => applyClosure recur closure [value, item]) value items
  | _ => fail (.arity .reduceOperands)

end SandboxLisp.Eval
