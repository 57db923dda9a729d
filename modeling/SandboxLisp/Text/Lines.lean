/-!
# Lines

A line ends at a line feed, a carriage return (one line end together with a line feed behind it), a
vertical tab, a form feed, one of three information separators, the next-line control, or the
Unicode line and paragraph separators.  Lines keep their ends.
-/

namespace SandboxLisp.Text

/-- Whether the character ends a line. -/
def isLineEnd (character : Char) : Bool :=
  let code := character.toNat
  (10 ≤ code && code ≤ 13) || (28 ≤ code && code ≤ 30) || code == 0x85 || code == 0x2028 ||
    code == 0x2029

/-- The lines of a text, where `line` holds the characters of the current line, last first. -/
def linesFrom (line : List Char) : List Char → List (List Char)
  | [] => if line.isEmpty then [] else [line.reverse]
  | '\r' :: '\n' :: rest => ('\n' :: '\r' :: line).reverse :: linesFrom [] rest
  | character :: rest =>
      if isLineEnd character then (character :: line).reverse :: linesFrom [] rest
      else linesFrom (character :: line) rest

/-- The lines of a text, with their ends. -/
def lines (characters : List Char) : List (List Char) :=
  linesFrom [] characters

example : lines ['a', '\r', '\n', '\n', 'b'] = [['a', '\r', '\n'], ['\n'], ['b']] := by decide

end SandboxLisp.Text
