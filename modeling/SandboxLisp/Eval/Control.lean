import SandboxLisp.Eval.Monad

/-!
# Control: conditionals and sequences

Every rule takes `recur`, which evaluates an expression one level deeper in the current scope.
-/

namespace SandboxLisp.Eval

/-- The failure of a form with a wrong number of operands. -/
def operandsError (name : String) (allowed : List Nat) (operands : List Datum) : EvalError :=
  .arity (.operands name allowed operands.length)

/-- Evaluates expressions in order and gives the last value, or `result` if there are none. -/
def sequence (recur : Datum → Eval Datum) (result : Datum) : List Datum → Eval Datum
  | [] => pure result
  | expression :: rest => do
      let value ← recur expression
      sequence recur value rest

/-- `(begin expr...)` evaluates expressions in order in the current scope. -/
def begin (recur : Datum → Eval Datum) (operands : List Datum) : Eval Datum :=
  sequence recur .nil operands

/-- `(if test then [else])` evaluates one branch; a missing one gives nil. -/
def conditional (recur : Datum → Eval Datum) : List Datum → Eval Datum
  | [test, consequent] => do
      if (← recur test).isTruthy then recur consequent else pure .nil
  | [test, consequent, alternative] => do
      if (← recur test).isTruthy then recur consequent else recur alternative
  | operands => fail (operandsError "if" [2, 3] operands)

/-- Whether a test is the symbol that always succeeds. -/
def isElse : Datum → Bool
  | .symbol name => name == "else"
  | _ => false

/-- `(cond (test expr...)...)` evaluates the body of the first clause whose test succeeds; a clause
without a body gives the value of its test, and no clause gives nil. -/
def cond (recur : Datum → Eval Datum) : List Datum → Eval Datum
  | [] => pure .nil
  | .list _ (test :: body) :: rest =>
      if isElse test then sequence recur .nil body
      else do
        let value ← recur test
        if value.isTruthy then sequence recur value body else cond recur rest
  | clause :: _ => do
      fail (.malformed (.condClause (← text .debug clause)))

end SandboxLisp.Eval
