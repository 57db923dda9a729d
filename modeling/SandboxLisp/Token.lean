import SandboxLisp.Atom
import SandboxLisp.Position
import SandboxLisp.Text.Quoted

/-!
# Tokens

A text is cut into tokens from left to right: brackets, strings, and atoms, which are booleans,
numbers or symbols.  Blanks and comments, which run from a semicolon to the end of the line, stand
between tokens.  The last token is the end of the text.

Cutting keeps track of the position by the spellings that it passes, and fails at the first
character that starts nothing or at the quote of a string that is not closed.
-/

namespace SandboxLisp

/-- What a token is, with its value. -/
inductive Lexeme where
  | leftParen
  | rightParen
  | number (value : Number)
  | string (text : String)
  | symbol (name : String)
  | boolean (value : Bool)
  | endOfInput
deriving DecidableEq

/-- A lexeme and where it starts. -/
structure Token where
  lexeme : Lexeme
  position : Position
deriving DecidableEq

namespace Token

/-- Why a text cannot be cut into tokens. -/
inductive Cause where
  | unexpectedCharacter (character : Char)
  | unterminatedString
deriving DecidableEq, Repr

/-- The words for a cause, without the position. -/
def Cause.message : Cause → String
  | .unexpectedCharacter character =>
      Text.sentence ["Unexpected character ", String.ofList (Text.quoted [character])]
  | .unterminatedString => "Unterminated string"

/-- A failure to cut a text into tokens. -/
inductive Error where
  | lexical (cause : Cause) (position : Position)
  | number (error : NumberError)
deriving DecidableEq, Repr

/-- The spelling of a string's content up to its closing quote, with a backslash before every
character that is escaped, and what follows the quote. -/
def literalBody? : List Char → Option (List Char × List Char)
  | [] => none
  | '"' :: rest => some ([], rest)
  | ['\\'] => none
  | '\\' :: escaped :: rest =>
      (literalBody? rest).map fun parts => ('\\' :: escaped :: parts.1, parts.2)
  | character :: rest => (literalBody? rest).map fun parts => (character :: parts.1, parts.2)

/-- A string's content with its escapes resolved. -/
def unescape : List Char → List Char
  | [] => []
  | ['\\'] => ['\\']
  | '\\' :: escaped :: rest => Atom.unescaped escaped :: unescape rest
  | character :: rest => character :: unescape rest

/-- The lexeme that an atom spells. -/
def classify (spelling : List Char) : Except NumberError Lexeme :=
  match Atom.boolean? spelling with
  | some value => .ok (.boolean value)
  | none =>
      match Numeral.read spelling with
      | .error error => .error error
      | .ok (some value) => .ok (.number value)
      | .ok none => .ok (.symbol (String.ofList spelling))

/-- A piece of a text: a gap or a lexeme, with its spelling. -/
structure Piece where
  lexeme : Option Lexeme
  spelling : List Char

/-- The tokens from a piece at a position on, when `tokens` follow the piece. -/
def Piece.precede (piece : Piece) (position : Position) (tokens : List Token) : List Token :=
  match piece.lexeme with
  | none => tokens
  | some lexeme => ⟨lexeme, position⟩ :: tokens

/-- The piece that starts at a character, the rest of the text being `rest`, and what follows it. -/
@[irreducible] def piece (position : Position) (character : Char) (rest : List Char) :
    Except Error (Piece × List Char) :=
  if Text.isBlank character then
    .ok (⟨none, character :: rest.takeWhile Text.isBlank⟩, rest.dropWhile Text.isBlank)
  else if character = ';' then
    .ok (⟨none, ';' :: rest.takeWhile (· != '\n')⟩, rest.dropWhile (· != '\n'))
  else if character = '(' then .ok (⟨some .leftParen, ['(']⟩, rest)
  else if character = ')' then .ok (⟨some .rightParen, [')']⟩, rest)
  else if character = '"' then
    match literalBody? rest with
    | none => .error (.lexical .unterminatedString position)
    | some (body, rest) =>
        .ok (⟨some (.string (String.ofList (unescape body))), '"' :: (body ++ ['"'])⟩, rest)
  else if Atom.isDelimiter character then
    .error (.lexical (.unexpectedCharacter character) position)
  else
    let spelling := character :: rest.takeWhile fun next => !Atom.isDelimiter next
    match classify spelling with
    | .error error => .error (.number error)
    | .ok lexeme => .ok (⟨some lexeme, spelling⟩, rest.dropWhile fun next => !Atom.isDelimiter next)

/-- What follows the quote that closes a string is not longer than what follows the opening one. -/
theorem length_le_of_literalBody? {rest body after : List Char}
    (found : literalBody? rest = some (body, after)) : after.length ≤ rest.length := by
  fun_induction literalBody? rest generalizing body after with
  | case1 => simp at found
  | case2 rest => simp_all
  | case3 => simp at found
  | case4 escaped rest ih =>
    obtain ⟨parts, inner, same⟩ := Option.map_eq_some_iff.1 found
    obtain ⟨-, rfl⟩ := Prod.mk.injEq .. ▸ same
    have := ih inner
    simp only [List.length_cons]
    omega
  | case5 character rest _ _ _ ih =>
    obtain ⟨parts, inner, same⟩ := Option.map_eq_some_iff.1 found
    obtain ⟨-, rfl⟩ := Prod.mk.injEq .. ▸ same
    have := ih inner
    simp only [List.length_cons]
    omega

/-- What follows a piece is not longer than what follows its first character. -/
theorem length_le_of_piece {position : Position} {character : Char} {rest after : List Char}
    {found : Piece} (cut : piece position character rest = .ok (found, after)) :
    after.length ≤ rest.length := by
  have drops (test : Char → Bool) : (rest.dropWhile test).length ≤ rest.length :=
    (List.dropWhile_sublist test).length_le
  unfold piece at cut
  split at cut
  · cases cut; exact drops _
  split at cut
  · cases cut; exact drops _
  split at cut
  · cases cut; exact Nat.le_refl _
  split at cut
  · cases cut; exact Nat.le_refl _
  split at cut
  · split at cut
    · cases cut
    · next found => cases cut; exact length_le_of_literalBody? found
  split at cut
  · cases cut
  · simp only at cut
    split at cut
    · cases cut
    · cases cut; exact drops _

/-- The tokens of a text that starts at a position. -/
def scan (position : Position) (text : List Char) : Except Error (List Token) :=
  match text with
  | [] => .ok [⟨.endOfInput, position⟩]
  | character :: rest =>
      match _cut : piece position character rest with
      | .error error => .error error
      | .ok (found, after) =>
          (scan (position.after found.spelling) after).map (found.precede position)
termination_by text.length
decreasing_by
  have := length_le_of_piece _cut
  simp only [List.length_cons]
  omega

/-- The tokens of a text. -/
def tokenize (text : List Char) : Except Error (List Token) :=
  scan .start text

end Token

end SandboxLisp
