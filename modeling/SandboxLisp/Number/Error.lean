import SandboxLisp.Text.Quoted
import SandboxLisp.Text.Sentence

/-!
# Failures of number conversion

Integers are unbounded and doubles are not, so going from one to the other, or between integers and
text, can fail.  Each failure is one cause here.
-/

namespace SandboxLisp

/-- Why a number could not be converted or computed. -/
inductive NumberError where
  /-- An integer beyond the range of doubles. -/
  | integerTooLarge
  /-- A quotient of integers beyond the range of doubles. -/
  | quotientTooLarge
  /-- An infinite double where an integer is needed. -/
  | infinityToInteger
  /-- A result that is not a number where an integer is needed. -/
  | nanToInteger
  /-- An argument outside the domain of a function. -/
  | domain
  /-- A result beyond the range of doubles. -/
  | range
  /-- A decimal numeral with too many digits. -/
  | numeralTooLong (digits : Nat)
  /-- An integer with too many decimal digits to be written. -/
  | integerTooLong
  /-- A text that is no numeral in a radix. -/
  | badNumeral (radix : Nat) (text : List Char)
  /-- An index that no list can have. -/
  | indexTooLarge
  /-- A list that no memory can hold. -/
  | listTooLarge
deriving DecidableEq, Repr

namespace NumberError

/-- The kinds of number failures. -/
inductive Kind where
  | overflow
  | value
  | memory
deriving DecidableEq, Repr

/-- The kind of a failure. -/
def kind : NumberError → Kind
  | .integerTooLarge | .quotientTooLarge | .infinityToInteger | .range | .indexTooLarge => .overflow
  | .nanToInteger | .domain | .numeralTooLong _ | .integerTooLong | .badNumeral _ _ => .value
  | .listTooLarge => .memory

/-- The most decimal digits that a numeral may have, whether read or written. -/
def digitLimit : Nat := 4300

/-- The beginning of the two messages about numerals with too many digits. -/
def limitMessage : String :=
  Text.sentence ["Exceeds the limit (", toString digitLimit, " digits) for integer string conversion"]

/-- The end of the two messages about numerals with too many digits. -/
def limitAdvice : String :=
  "; use sys.set_int_max_str_digits() to increase the limit"

/-- The words for a failure. -/
def message : NumberError → String
  | .integerTooLarge => "int too large to convert to float"
  | .quotientTooLarge => "integer division result too large for a float"
  | .infinityToInteger => "cannot convert float infinity to integer"
  | .nanToInteger => "cannot convert float NaN to integer"
  | .domain => "math domain error"
  | .range => "math range error"
  | .numeralTooLong digits =>
      Text.sentence [limitMessage, ": value has ", toString digits, " digits", limitAdvice]
  | .integerTooLong => Text.sentence [limitMessage, limitAdvice]
  | .badNumeral radix text =>
      Text.sentence ["invalid literal for int() with base ", toString radix, ": ",
        String.ofList ((Text.quoted text).take 200)]
  | .indexTooLarge => "cannot fit 'int' into an index-sized integer"
  | .listTooLarge => ""

end NumberError

end SandboxLisp
