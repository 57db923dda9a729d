import SandboxLisp.Double.Notation
import SandboxLisp.Number.Basic
import SandboxLisp.Number.Digits
import SandboxLisp.Text.Digit

/-!
# Numerals

A decimal numeral is an optional sign, digits with at most one point among or around them, and an
optional exponent.  Digits may be of any script.  A numeral with neither point nor exponent spells
an integer and may not be longer than the digit limit; any other spells a double.  A radix numeral
is a zero, a letter for the radix, and digits of the radix.
-/

namespace SandboxLisp

/-- A decimal numeral, taken apart. -/
structure Numeral where
  negative : Bool
  /-- The digits before the point. -/
  whole : List Nat
  /-- The digits behind the point, if there is a point. -/
  fraction : Option (List Nat)
  /-- The sign and the digits of the exponent, if there is one. -/
  exponent : Option (Bool × List Nat)
deriving DecidableEq, Repr

namespace Numeral

/-- The digits at the start of a text and what follows them. -/
def takeDigits : List Char → List Nat × List Char
  | [] => ([], [])
  | character :: rest =>
      match Text.digitValue? character with
      | some digit =>
          let following := takeDigits rest
          (digit :: following.1, following.2)
      | none => ([], character :: rest)

/-- Whether a sign at the start is a minus, and what follows the sign if there is one. -/
def takeSign : List Char → Bool × List Char
  | '-' :: rest => (true, rest)
  | '+' :: rest => (false, rest)
  | characters => (false, characters)

/-- The digits around the point and what follows them; none if there is no digit. -/
def takeMantissa? (characters : List Char) :
    Option ((List Nat × Option (List Nat)) × List Char) :=
  match takeDigits characters with
  | ([], '.' :: rest) =>
      match takeDigits rest with
      | ([], _) => none
      | (fraction, rest) => some (([], some fraction), rest)
  | ([], _) => none
  | (whole, '.' :: rest) =>
      let (fraction, rest) := takeDigits rest
      some ((whole, some fraction), rest)
  | (whole, rest) => some ((whole, none), rest)

/-- The exponent at the start of a text, if a whole one stands there, and what follows. -/
def takeExponent (characters : List Char) : Option (Bool × List Nat) × List Char :=
  match characters with
  | letter :: rest =>
      if letter = 'e' || letter = 'E' then
        let (negative, digits) := takeSign rest
        match takeDigits digits with
        | ([], _) => (none, characters)
        | (exponent, rest) => (some (negative, exponent), rest)
      else (none, characters)
  | [] => (none, [])

/-- The longest decimal numeral at the start of a text and what follows it. -/
def scan? (characters : List Char) : Option (Numeral × List Char) :=
  let (negative, unsigned) := takeSign characters
  match takeMantissa? unsigned with
  | none => none
  | some ((whole, fraction), rest) =>
      let (exponent, rest) := takeExponent rest
      some (⟨negative, whole, fraction, exponent⟩, rest)

/-- Whether the numeral spells an integer. -/
def isInteger (numeral : Numeral) : Bool :=
  numeral.fraction.isNone && numeral.exponent.isNone

/-- The integer before the point. -/
def wholeValue (numeral : Numeral) : Int :=
  let magnitude : Int := ofDigits 10 numeral.whole
  if numeral.negative then -magnitude else magnitude

/-- The power of ten that the exponent asks for. -/
def exponentValue (numeral : Numeral) : Int :=
  match numeral.exponent with
  | none => 0
  | some (negative, digits) =>
      let magnitude : Int := ofDigits 10 digits
      if negative then -magnitude else magnitude

/-- The double nearest to the numeral. -/
def toDouble (numeral : Numeral) : Double :=
  let fraction := numeral.fraction.getD []
  Decimal.toDouble numeral.negative
    ⟨ofDigits 10 (numeral.whole ++ fraction), numeral.exponentValue - fraction.length⟩

/-- The number that the numeral spells. -/
def value (numeral : Numeral) : Except NumberError Number :=
  if numeral.isInteger then
    if NumberError.digitLimit < numeral.whole.length then
      .error (.numeralTooLong numeral.whole.length)
    else .ok (.int numeral.wholeValue)
  else .ok (.double numeral.toDouble)

/-- The value of a digit among the ten digits and twenty-six letters of ASCII. -/
def alphanumericValue? (character : Char) : Option Nat :=
  if character.isDigit then some (character.toNat - 48)
  else if character.isLower then some (character.toNat - 87)
  else if character.isUpper then some (character.toNat - 55)
  else none

/-- The value of a digit of a radix up to thirty-six. -/
def radixDigit? (radix : Nat) (character : Char) : Option Nat :=
  (alphanumericValue? character).filter (· < radix)

/-- The radix that a letter behind a zero stands for. -/
def radixOfLetter? (letter : Char) : Option Nat :=
  if letter = 'x' || letter = 'X' then some 16
  else if letter = 'o' || letter = 'O' then some 8
  else if letter = 'b' || letter = 'B' then some 2
  else none

/-- The integer that a radix numeral spells. -/
def radixValue? : List Char → Option Int
  | '0' :: letter :: first :: rest => do
      let radix ← radixOfLetter? letter
      let digits ← (first :: rest).mapM (radixDigit? radix)
      return (ofDigits radix digits : Nat)
  | _ => none

/-- The finite number that a whole text spells, if it spells one. -/
def read (characters : List Char) : Except NumberError (Option Number) :=
  match scan? characters with
  | some (numeral, []) =>
      match numeral.value with
      | .error cause => .error cause
      | .ok (.double value) => .ok (if value.isFinite then some (.double value) else none)
      | .ok number => .ok (some number)
  | _ => .ok ((radixValue? characters).map .int)

end Numeral

end SandboxLisp
