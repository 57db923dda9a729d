/-!
# Positions in a text

A position is a line and a column, both counted from one.  `Position.ofOffset` finds the position of
an offset in a text; `Position.after` moves a position over a spelling.
-/

namespace SandboxLisp

/-- A line and a column, both counted from one. -/
structure Position where
  line : Nat
  column : Nat
deriving DecidableEq, Repr, Inhabited

namespace Position

/-- The position of the first character of a text. -/
def start : Position := ⟨1, 1⟩

/-- The position of the character at an offset: the lines before it are counted by their line
feeds, and the column by the characters since the last one. -/
def ofOffset (text : List Char) (offset : Nat) : Position :=
  let before := text.take offset
  ⟨before.count '\n' + 1, (before.reverse.takeWhile (· != '\n')).length + 1⟩

/-- The position behind one character. -/
def next (position : Position) (character : Char) : Position :=
  if character = '\n' then ⟨position.line + 1, 1⟩ else ⟨position.line, position.column + 1⟩

/-- The position behind a spelling. -/
def after (position : Position) (spelling : List Char) : Position :=
  spelling.foldl next position

/-- Lines first, then columns. -/
def before (first second : Position) : Bool :=
  first.line < second.line || (first.line == second.line && first.column < second.column)

example : ofOffset ['a', '\n', 'b'] 2 = ⟨2, 1⟩ := by decide
example : start.after ['a', '\n', 'b'] = ⟨2, 2⟩ := by decide

end Position

end SandboxLisp
