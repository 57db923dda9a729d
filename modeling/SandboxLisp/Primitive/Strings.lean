import SandboxLisp.Primitive.Basic
import SandboxLisp.Text.Case
import SandboxLisp.Text.Search

/-!
# String primitives

Positions and lengths count characters.  Conversions to a string give the display form, and
conversions to a number read the longest numeral at the start of the display form.
-/

namespace SandboxLisp.Primitive

open Eval

/-- `(concat x...)` joins display texts. -/
def concat : Primitive :=
  variadic fun arguments => return .string (String.join (← arguments.mapM (text .display)))

/-- `(str x)` is the display text. -/
def toText : Primitive :=
  unary "str" fun argument => return .string (← text .display argument)

/-- The number that a text starts with, or zero if it starts with none. -/
def leadingNumber (characters : List Char) : Except NumberError Number :=
  match Numeral.scan? (characters.dropWhile Text.isBlank) with
  | some (numeral, _) => numeral.value
  | none => .ok (.int 0)

/-- `(parse-num s)` is the number that the text starts with, or zero. -/
def parseNumber : Primitive :=
  unary "parse-num" fun argument => do
    number (← ofNumber (leadingNumber (← text .display argument).toList))

/-- The radixes in which a numeral may have any number of digits. -/
def unlimitedRadixes : List Nat := [2, 4, 8, 16, 32]

/-- Whether a character is taken for a digit of a radix: its lower-case form is one. -/
def looksLikeDigit (radix : Nat) (character : Char) : Bool :=
  match Text.lowerForm character with
  | [lower] => (Numeral.radixDigit? radix lower).isSome
  | _ => false

/-- The integer that characters taken for digits spell.  A character that is no digit itself makes
the numeral bad. -/
def radixNumeral (radix : Nat) (spelling : List Char) : Except NumberError Nat :=
  let digits := spelling.map (Numeral.radixDigit? radix)
  let proper := (digits.takeWhile Option.isSome).filterMap id
  if NumberError.digitLimit < proper.length && !unlimitedRadixes.contains radix then
    .error (.numeralTooLong proper.length)
  else if proper.length < spelling.length then .error (.badNumeral radix spelling)
  else .ok (Numeral.ofDigits radix proper)

/-- A text without the mark of hexadecimal numerals at its start. -/
def withoutHexMark : List Char → List Char
  | '0' :: 'x' :: rest => rest
  | '0' :: 'X' :: rest => rest
  | characters => characters

/-- The integer in a radix that a text starts with, or zero if it starts with none. -/
def leadingInteger (radix : Nat) (characters : List Char) : Except NumberError Int := do
  let (negative, unsigned) := Numeral.takeSign (Text.trim characters)
  let digits := if radix = 16 then withoutHexMark unsigned else unsigned
  match digits.takeWhile (looksLikeDigit radix) with
  | [] => return 0
  | spelling =>
      let magnitude ← radixNumeral radix spelling
      return if negative then -(magnitude : Int) else magnitude

/-- `(parse-int s [radix])` is the integer that the text starts with, or zero; so it is for a radix
that is not from 2 to 36. -/
def parseInteger : Primitive :=
  oneOrTwo "parse-int" fun subject radixArgument => do
    let radix ← match radixArgument with
      | some argument => if argument.isUnset then pure 10 else expectInteger "parse-int" argument
      | none => pure 10
    if 2 ≤ radix ∧ radix ≤ 36 then
      let characters := (← text .display subject).toList
      return .int (← ofNumber (leadingInteger radix.toNat characters))
    else return .int 0

/-- `(strlen s)` is the number of characters. -/
def stringLength : Primitive :=
  unary "strlen" fun argument => return .int (← expectString "strlen" argument).length

/-- An integer moved into the range from zero to a size. -/
def clampTo (size : Nat) (value : Int) : Nat :=
  min value.toNat size

/-- The items from one index up to another, the two exchanged if they are in reverse order. -/
def between {α : Type} (items : List α) (first second : Nat) : List α :=
  let low := min first second
  (items.drop low).take (max first second - low)

/-- `(substr s start [end])` is a part of a string; indices are moved into the string. -/
def substring : Primitive :=
  twoOrThree "substr" fun subject startArgument endArgument => do
    let characters ← expectString "substr" subject
    let size := characters.length
    let start ← expectInteger "substr" startArgument
    let stop ← match given? endArgument with
      | some argument => clampTo size <$> expectInteger "substr" argument
      | none => pure size
    return ofChars (between characters (clampTo size start) stop)

/-- `(str-starts-with s start)` tells whether a string starts with another. -/
def startsWith : Primitive :=
  binary "str-starts-with" fun subject start => do
    let characters ← expectString "str-starts-with" subject
    let pattern ← expectString "str-starts-with" start
    return .bool (pattern.isPrefixOf characters)

/-- `(str-ends-with s ending)` tells whether a string ends with another. -/
def endsWith : Primitive :=
  binary "str-ends-with" fun subject ending => do
    let characters ← expectString "str-ends-with" subject
    let pattern ← expectString "str-ends-with" ending
    return .bool (Text.endsWith pattern characters)

/-- `(str-contains s part)` tells whether a string occurs in another; the part is checked first. -/
def containsText : Primitive :=
  binary "str-contains" fun subject part => do
    let pattern ← expectString "str-contains" part
    let characters ← expectString "str-contains" subject
    return .bool (Text.occurs pattern characters)

/-- `(str-replace s old new)` replaces the first occurrence. -/
def replace : Primitive :=
  ternary "str-replace" fun subject old new => do
    let characters ← expectString "str-replace" subject
    let pattern ← expectString "str-replace" old
    let replacement ← expectString "str-replace" new
    return ofChars (Text.replaceFirst pattern replacement characters)

/-- The pieces of a text between separators; the empty separator stands between all characters. -/
def splitText (characters : List Char) : List Char → List (List Char)
  | [] => characters.map fun character => [character]
  | first :: others => Text.splitOn first others characters

/-- `(str-split s sep)` is the list of pieces between separators. -/
def split : Primitive :=
  binary "str-split" fun subject separator => do
    let characters ← expectString "str-split" subject
    let pattern ← expectString "str-split" separator
    newList ((splitText characters pattern).map ofChars)

/-- `(str-join list [sep])` joins display texts, nil giving nothing; the separator is a comma if it is
left out. -/
def join : Primitive :=
  oneOrTwo "str-join" fun list separatorArgument => do
    let items ← expectList "str-join" list
    let separator ← match given? separatorArgument with
      | some argument => text .display argument
      | none => pure ","
    let pieces ← items.mapM displayOrNothing
    return ofChars (Text.joinWith separator.toList (pieces.map String.toList))

/-- `(str-trim s)` leaves out the blanks at both ends. -/
def trim : Primitive :=
  unary "str-trim" fun argument => return ofChars (Text.trim (← expectString "str-trim" argument))

/-- `(str-upper s)` is the string in upper case. -/
def upper : Primitive :=
  unary "str-upper" fun argument =>
    return ofChars (Text.upperCase (← expectString "str-upper" argument))

/-- `(str-lower s)` is the string in lower case. -/
def lower : Primitive :=
  unary "str-lower" fun argument =>
    return ofChars (Text.lowerCase (← expectString "str-lower" argument))

/-- The string primitives by name. -/
def strings : List (String × Primitive) :=
  [("concat", concat), ("str", toText), ("strlen", stringLength), ("substr", substring),
    ("str-starts-with", startsWith), ("str-ends-with", endsWith), ("str-contains", containsText),
    ("str-replace", replace), ("str-split", split), ("str-join", join), ("str-trim", trim),
    ("str-upper", upper), ("str-lower", lower), ("parse-num", parseNumber),
    ("parse-int", parseInteger)]

end SandboxLisp.Primitive
