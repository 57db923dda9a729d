import SandboxLisp.Text.Printable

/-!
# Quoted text in messages

A message quotes a text between apostrophes, or between double quotes if the text holds apostrophes
and no double quote.  The quote in use and the backslash are escaped by a backslash, line feed,
carriage return and tab have letters, and any other character that is not printable is written by
its code in two, four or eight hexadecimal digits.
-/

namespace SandboxLisp.Text

/-- The lower-case hexadecimal digits of a code, with zeros in front up to a width. -/
def hexDigits (width code : Nat) : List Char :=
  let digits := Nat.toDigits 16 code
  List.replicate (width - digits.length) '0' ++ digits

/-- The quote that encloses a text. -/
def quoteFor (characters : List Char) : Char :=
  if characters.contains '\x27' && !characters.contains '"' then '"' else '\x27'

/-- One character of a text quoted with `quote`. -/
def quotedForm (quote character : Char) : List Char :=
  if character = quote || character = '\\' then ['\\', character]
  else if character = '\n' then ['\\', 'n']
  else if character = '\r' then ['\\', 'r']
  else if character = '\t' then ['\\', 't']
  else if isPrintable character then [character]
  else if character.toNat ≤ 0xff then '\\' :: 'x' :: hexDigits 2 character.toNat
  else if character.toNat ≤ 0xffff then '\\' :: 'u' :: hexDigits 4 character.toNat
  else '\\' :: 'U' :: hexDigits 8 character.toNat

/-- The text between quotes. -/
def quoted (characters : List Char) : List Char :=
  let quote := quoteFor characters
  quote :: (characters.flatMap (quotedForm quote) ++ [quote])

/-- The string between quotes. -/
def quotedString (text : String) : String :=
  String.ofList (quoted text.toList)

example : quoted ['a', '\n'] = ['\x27', 'a', '\\', 'n', '\x27'] := by decide +kernel
example : quoted ['\x27'] = ['"', '\x27', '"'] := by decide +kernel
example : quoted ['\x07'] = ['\x27', '\\', 'x', '0', '7', '\x27'] := by decide +kernel

end SandboxLisp.Text
