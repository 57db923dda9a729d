/-!
# Blank characters

A blank separates words of a text.  Blanks are the characters of Unicode with white-space
direction class or separator category: the ASCII controls from tab to carriage return, the four
information separators, the space, the next-line control, and the Unicode spaces and separators.
-/

namespace SandboxLisp.Text

/-- Whether the character separates words. -/
def isBlank (character : Char) : Bool :=
  let code := character.toNat
  (9 ≤ code && code ≤ 13) || (28 ≤ code && code ≤ 32) || code == 0x85 || code == 0xa0 ||
    code == 0x1680 || (0x2000 ≤ code && code ≤ 0x200a) || code == 0x2028 || code == 0x2029 ||
    code == 0x202f || code == 0x205f || code == 0x3000

/-- The characters without the blanks at both ends. -/
def trim (characters : List Char) : List Char :=
  ((characters.dropWhile isBlank).reverse.dropWhile isBlank).reverse

example : trim [' ', 'a', ' ', 'b', '\n'] = ['a', ' ', 'b'] := by decide

end SandboxLisp.Text
