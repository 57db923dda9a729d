import SandboxLisp.Number.Numeral
import SandboxLisp.Text.Blank

/-!
# Atoms

An atom is a run of characters up to a blank, a bracket, a double quote or a semicolon.  A few atoms
are names of booleans or of nil, some spell numbers, and all others are symbols.
-/

namespace SandboxLisp.Atom

/-- The characters besides blanks that end an atom. -/
def punctuation : List Char := ['(', ')', '"', ';', '[', ']']

/-- Whether the character ends an atom. -/
def isDelimiter (character : Char) : Bool :=
  Text.isBlank character || punctuation.contains character

/-- The boolean that an atom names. -/
def boolean? (spelling : List Char) : Option Bool :=
  if spelling = ['t', 'r', 'u', 'e'] || spelling = ['#', 't'] then some true
  else if spelling = ['f', 'a', 'l', 's', 'e'] || spelling = ['#', 'f'] then some false
  else none

/-- Whether the atom names nil. -/
def isNil (spelling : List Char) : Bool :=
  spelling = ['n', 'u', 'l', 'l'] || spelling = ['n', 'i', 'l']

/-- The character that an escaped character stands for: a letter for a line feed or a tab, and
otherwise itself. -/
def unescaped (character : Char) : Char :=
  if character = 'n' then '\n'
  else if character = 't' then '\t'
  else character

end SandboxLisp.Atom
