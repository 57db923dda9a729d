import SandboxLisp.Primitive.Basic
import SandboxLisp.Serial

/-!
# Primitives for hosts

A host may add primitives that the defaults lack: ones that look into the caller's scope, bind names
in it, or evaluate again.  Evaluation through a primitive goes one level deeper than its caller.
-/

namespace SandboxLisp.Primitive

open Eval

/-- The first argument, or nil. -/
def firstArgument : Primitive :=
  variadic fun arguments => return arguments.head?.getD .nil

/-- The number of arguments. -/
def argumentCount : Primitive :=
  variadic fun arguments => return .int arguments.length

/-- The names of the caller's scope in the order of their characters' codes. -/
def scopeNames : Primitive :=
  variadic fun _ => do
    let names := (Table.names (← scope)).mergeSort fun first second => !(second < first)
    newList (names.map .string)

/-- Evaluates the first argument as an expression in the caller's scope. -/
def evaluateArgument : Primitive :=
  fun recur arguments => recur (arguments.head?.getD .nil)

/-- Evaluates the expression of the tree that is the first argument. -/
def evaluateTree : Primitive :=
  fun recur arguments => do
    let around ← surroundings
    let tree := arguments.head?.getD .nil
    recur (← ofExcept (around.reached (tree.deserializeWithin around.levels)))

/-- Reads the first argument as source text and evaluates it. -/
def evaluateSource : Primitive :=
  fun recur arguments => do
    let source ← expectString "eval-text" (arguments.head?.getD .nil)
    match Reader.parse source with
    | .ok expression => recur expression
    | .error error => fail (.reading error)

/-- Binds the name that is the first argument to the second in the caller's scope. -/
def bindName : Primitive :=
  binary "bind" fun name value => do
    define (String.ofList (← expectString "bind" name)) value
    return .nil

end SandboxLisp.Primitive
