import SandboxLisp.Reader
import SandboxLisp.Token

/-!
# Reading an expression from tokens

A reader of brackets takes the tokens one by one and looks at no character.  Round brackets delimit
lists, two names stand for nil, and every other token is a datum by itself.  It fails at the position
of a token: at the end of the text if nothing else is there, at a closing bracket that comes first,
at the innermost open bracket if the expression is not closed, and at the first token behind it.

The failures of `Reader` carry more than that, namely the characters that their messages show, so
`Reader.Error.complaint?` takes from them the kind and the position.
-/

namespace SandboxLisp

namespace Reader

/-- The kinds of malformed texts. -/
inductive Defect where
  | unclosedList
  | unclosedString
  | unexpectedEnd
  | emptyAtom
  | trailingInput
deriving DecidableEq, Repr

/-- The kind of a cause. -/
def Cause.defect : Cause → Defect
  | .unclosedList => .unclosedList
  | .unclosedString => .unclosedString
  | .unexpectedEnd => .unexpectedEnd
  | .unexpectedCharacter _ => .emptyAtom
  | .trailing _ => .trailingInput

/-- What is wrong with a text, and where. -/
structure Complaint where
  defect : Defect
  position : Position
deriving DecidableEq, Repr

/-- The complaint about a malformed text; a number that cannot be read is none. -/
def Error.complaint? : Error → Option Complaint
  | .malformed cause position => some ⟨cause.defect, position⟩
  | .number _ => none

end Reader

namespace Lexeme

/-- The datum that a number token stands for. -/
def datumOfNumber : Number → Datum
  | .int value => .int value
  | .double value => .double value
  | .nan => .nan 0

/-- The datum that a symbol token stands for. -/
def datumOfName (name : String) : Datum :=
  if name = "nil" ∨ name = "null" then .nil else .symbol name

/-- What a lexeme contributes to an expression; the end of the text contributes nothing. -/
def item? : Lexeme → Option Reader.Item
  | .leftParen => some .opening
  | .rightParen => some .closing
  | .number value => some (.datum (datumOfNumber value))
  | .string text => some (.datum (.string text))
  | .symbol name => some (.datum (datumOfName name))
  | .boolean value => some (.datum (.bool value))
  | .endOfInput => none

end Lexeme

namespace Brackets

open Reader (Complaint)

/-- A list whose closing bracket has not been met: where it is opened, and its items, last first. -/
structure Opened where
  position : Position
  items : List Datum

/-- The open list with one more item. -/
def Opened.push (opened : Opened) (value : Datum) : Opened :=
  { opened with items := value :: opened.items }

/-- The datum of an open list whose closing bracket is met. -/
def Opened.close (opened : Opened) : Datum :=
  .list none opened.items.reverse

/-- Takes tokens until the outermost open list is closed, or one datum if none is open; gives the
datum and the tokens behind it. -/
def expression (pending : List Opened) : List Token → Except Complaint (Datum × List Token)
  | [] => .error ⟨.unexpectedEnd, .start⟩
  | token :: rest =>
      match token.lexeme.item?, pending with
      | none, [] => .error ⟨.unexpectedEnd, token.position⟩
      | none, innermost :: _ => .error ⟨.unclosedList, innermost.position⟩
      | some .opening, outer => expression (⟨token.position, []⟩ :: outer) rest
      | some .closing, [] => .error ⟨.emptyAtom, token.position⟩
      | some .closing, [outermost] => .ok (outermost.close, rest)
      | some .closing, innermost :: next :: outer =>
          expression (next.push innermost.close :: outer) rest
      | some (.datum value), [] => .ok (value, rest)
      | some (.datum value), innermost :: outer => expression (innermost.push value :: outer) rest

/-- The one expression that the tokens of a text make up. -/
def read (tokens : List Token) : Except Complaint Datum :=
  match expression [] tokens with
  | .error complaint => .error complaint
  | .ok (value, []) => .ok value
  | .ok (value, token :: _) =>
      if token.lexeme = .endOfInput then .ok value
      else .error ⟨.trailingInput, token.position⟩

end Brackets

end SandboxLisp
