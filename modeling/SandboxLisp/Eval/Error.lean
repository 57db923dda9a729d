import SandboxLisp.Datum.Rendering
import SandboxLisp.Datum.Order
import SandboxLisp.Reader

/-!
# Failures of evaluation

Each way in which an evaluation can fail is a cause with the data that its message shows.  All but
the last two groups are failures of the language itself; number failures that no primitive explains
and failures to read come through as they are.
-/

namespace SandboxLisp

/-- A wrong number of operands or arguments. -/
inductive ArityCause where
  /-- A form takes one of the listed numbers of operands. -/
  | operands (name : String) (allowed : List Nat) (given : Nat)
  /-- A primitive takes between `least` and `most` arguments. -/
  | arguments (name : String) (least : Nat) (most : Option Nat) (given : Nat)
  | letBindings
  | defineName
  | defineOperands
  | lambdaParameters
  | reduceOperands
deriving DecidableEq, Repr

/-- A special form that is not built as it should be; `shown` is the part at fault. -/
inductive Malformation where
  | letBindings
  | letBinding (shown : String)
  | condClause (shown : String)
  | defineName
  | parameters (form shown : String)
  | reduceNames
deriving DecidableEq, Repr

/-- What an operation expects. -/
inductive Expectation where
  | number
  | integer
  | string
  | list
  | object
  | listOrString
deriving DecidableEq, Repr

/-- An operand of the wrong type. -/
inductive TypeCause where
  | cannotEvaluate (shown : String)
  | expected (name : String) (what : Expectation) (given : String)
  | applyArguments (given : String)
  | incomparable (first second : String) (relation : Relation)
  | incomparableKeys (first second : String)
  | notAddable
  | negativeIndex (index : Int)
deriving DecidableEq, Repr

/-- A failure of arithmetic. -/
inductive ArithmeticCause where
  | divisionByZero
  | moduloByZero
  | function (name : String) (error : NumberError)
deriving DecidableEq, Repr

/-- A failure of evaluation. -/
inductive EvalError where
  | limitExceeded (limit : Nat)
  | unknownFunction (name : String)
  | notCallable (shown : String)
  | notAFunction (shown : String)
  | malformed (cause : Malformation)
  | arity (cause : ArityCause)
  | type (cause : TypeCause)
  | arithmetic (cause : ArithmeticCause)
  | number (error : NumberError)
  | reading (error : Reader.Error)
deriving DecidableEq, Repr

/-- The words for the numbers of arguments that a primitive takes. -/
def argumentRange (least : Nat) : Option Nat → String
  | none => Text.sentence ["at least ", toString least]
  | some most =>
      if least = most then Text.sentence ["exactly ", toString least]
      else Text.sentence [toString least, " to ", toString most]

/-- The words for a wrong number of operands or arguments. -/
def ArityCause.message : ArityCause → String
  | .operands name allowed given =>
      Text.sentence [name, " expects ", " or ".intercalate (allowed.map toString),
        " argument(s), got ", toString given]
  | .arguments name least most given =>
      Text.sentence [name, " requires ", argumentRange least most, " argument(s), got ",
        toString given]
  | .letBindings => "let requires a binding list"
  | .defineName => "define requires a name"
  | .defineOperands => "define requires exactly 2 arguments"
  | .lambdaParameters => "lambda requires at least a parameter list"
  | .reduceOperands =>
      "reduce expects (reduce list init fn) or (reduce list init (acc item) body)"

/-- The words for a malformed form. -/
def Malformation.message : Malformation → String
  | .letBindings => "let bindings must be a list of (name expr) pairs"
  | .letBinding shown => Text.sentence ["Malformed let binding: ", shown]
  | .condClause shown => Text.sentence ["cond clause must be a non-empty list, got ", shown]
  | .defineName => "define function form needs a name"
  | .parameters form shown => Text.sentence [form, " parameters must be a list, got ", shown]
  | .reduceNames => "reduce inline form needs exactly two names: (acc item)"

/-- The words for what is expected. -/
def Expectation.message : Expectation → String
  | .number => "a number"
  | .integer => "an integer"
  | .string => "a string"
  | .list => "a list"
  | .object => "an object"
  | .listOrString => "a list or string"

/-- The words for an operand of the wrong type. -/
def TypeCause.message : TypeCause → String
  | .cannotEvaluate shown => Text.sentence ["Cannot evaluate: ", shown]
  | .expected name what given => Text.sentence [name, " expects ", what.message, ", got ", given]
  | .applyArguments given => Text.sentence ["apply arguments must evaluate to a list, got ", given]
  | .incomparable first second relation =>
      Text.sentence ["Cannot compare ", first, " with ", second, " using ", relation.name]
  | .incomparableKeys first second =>
      Text.sentence ["sort-by keys are not comparable: '<' not supported between instances of ",
        Text.quotedString first, " and ", Text.quotedString second]
  | .notAddable => "All arguments to + must be numbers or strings"
  | .negativeIndex index =>
      Text.sentence ["update-at index must be non-negative, got ", toString index]

/-- The words for a failure of arithmetic. -/
def ArithmeticCause.message : ArithmeticCause → String
  | .divisionByZero => "Division by zero"
  | .moduloByZero => "Modulo by zero"
  | .function name error => Text.sentence [name, ": ", error.message]

namespace EvalError

/-- The failure as a host sees it: a limit with too many digits cannot be written into a message, so
that is reported instead. -/
def reported : EvalError → EvalError
  | .limitExceeded limit =>
      if Datum.isWritableInteger limit then .limitExceeded limit else .number .integerTooLong
  | error => error

/-- The words for a failure without a position of its own. -/
def message : EvalError → String
  | .limitExceeded limit =>
      Text.sentence ["Maximum evaluation depth exceeded (", toString limit, ")"]
  | .unknownFunction name => Text.sentence ["Unknown function: ", name]
  | .notCallable shown => Text.sentence ["Cannot apply non-function: ", shown]
  | .notAFunction shown => Text.sentence ["reduce requires a function, got ", shown]
  | .malformed cause => cause.message
  | .arity cause => cause.message
  | .type cause => cause.message
  | .arithmetic cause => cause.message
  | .number error => error.message
  | .reading (.malformed cause _) => cause.message
  | .reading (.number error) => error.message

/-- Whether the failure is one of the language, and not one of numbers that nothing explains. -/
def isExplained : EvalError → Bool
  | .number _ => false
  | .reading (.number _) => false
  | _ => true

end EvalError

end SandboxLisp
