import SandboxLisp.Primitive.Arithmetic

/-!
# Type predicates

Each predicate tells whether its one argument is of a type; there is none for functions.
-/

namespace SandboxLisp.Primitive

open Eval

/-- A test of one argument as a primitive. -/
def test (name : String) (holds : Datum → Bool) : Primitive :=
  unary name fun argument => return .bool (holds argument)

/-- Whether the datum is nil. -/
def isNil : Datum → Bool
  | .nil => true
  | _ => false

/-- Whether the datum is a boolean. -/
def isBool : Datum → Bool
  | .bool _ => true
  | _ => false

/-- Whether the datum is a list. -/
def isList : Datum → Bool
  | .list _ _ => true
  | _ => false

/-- Whether the datum is an object. -/
def isObject : Datum → Bool
  | .object _ _ => true
  | _ => false

/-- The type predicates by name. -/
def predicates : List (String × Primitive) :=
  [("null?", test "null?" isNil), ("number?", test "number?" Datum.isNumber),
    ("string?", test "string?" isString), ("bool?", test "bool?" isBool),
    ("list?", test "list?" isList), ("object?", test "object?" isObject)]

end SandboxLisp.Primitive
