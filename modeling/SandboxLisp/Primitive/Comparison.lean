import SandboxLisp.Primitive.Basic

/-!
# Comparison and logic

The logical primitives receive evaluated arguments, so they do not stop at the first that decides.
-/

namespace SandboxLisp.Primitive

open Eval

/-- `(= a b)` tells whether two values are equal. -/
def equals : Primitive :=
  binary "=" fun first second => return .bool (← equal first second)

/-- `(!= a b)` tells whether two values differ. -/
def differs : Primitive :=
  binary "!=" fun first second => return .bool (!(← equal first second))

/-- An order relation as a primitive. -/
def ordering (relation : Relation) : Primitive :=
  binary relation.name fun first second => do
    match ← ofExcept ((← surroundings).relate relation first second) with
    | .ok answer => return .bool answer
    | .error _ => fail (.type (.incomparable first.typeName second.typeName relation))

/-- The comparing primitives by name. -/
def comparison : List (String × Primitive) :=
  [("=", equals), ("!=", differs), ("<", ordering .less), (">", ordering .greater),
    ("<=", ordering .lessOrEqual), (">=", ordering .greaterOrEqual)]

/-- `(and x...)` tells whether all arguments count as true. -/
def conjunction : Primitive :=
  variadic fun arguments => return .bool (arguments.all Datum.isTruthy)

/-- `(or x...)` tells whether any argument counts as true. -/
def disjunction : Primitive :=
  variadic fun arguments => return .bool (arguments.any Datum.isTruthy)

/-- `(not x)` tells whether the argument does not count as true. -/
def negation : Primitive :=
  unary "not" fun argument => return .bool (!argument.isTruthy)

/-- The logical primitives by name. -/
def logic : List (String × Primitive) :=
  [("and", conjunction), ("or", disjunction), ("not", negation)]

end SandboxLisp.Primitive
