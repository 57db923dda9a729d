import SandboxLisp.Atom
import SandboxLisp.Datum.Basic
import SandboxLisp.Position
import SandboxLisp.Text.Quoted

/-!
# Reading data from text

The reader works on characters and knows nothing of tokens.  It keeps the lists that are open on a
stack of its own, so nesting has no bound.  A failure carries the rest of the text at the place
where it is reported, which determines the position.
-/

namespace SandboxLisp

namespace Reader

/-- Why a text is not a single well-formed expression. -/
inductive Cause where
  | unclosedList
  | unclosedString
  | unexpectedEnd
  | unexpectedCharacter (character : Char)
  /-- Text behind the expression, of which the beginning is shown. -/
  | trailing (shown : List Char)
deriving DecidableEq, Repr

/-- The words for a cause, without the position. -/
def Cause.message : Cause → String
  | .unclosedList => "Expected closing parenthesis"
  | .unclosedString => "Expected closing quote"
  | .unexpectedEnd => "Unexpected end of input"
  | .unexpectedCharacter character =>
      Text.sentence ["Unexpected character ", String.ofList (Text.quoted [character])]
  | .trailing shown =>
      Text.sentence ["Unexpected characters after expression: ", String.ofList (Text.quoted shown)]

/-- A failure to read. -/
inductive Error where
  | malformed (cause : Cause) (position : Position)
  | number (error : NumberError)
deriving DecidableEq, Repr

/-- A failure at the place where `rest` is left to read. -/
inductive Failure where
  | malformed (cause : Cause) (rest : List Char)
  | number (error : NumberError)
deriving DecidableEq, Repr

/-- The failure with its position in the whole text. -/
def Failure.locate (text : List Char) : Failure → Error
  | .malformed cause rest => .malformed cause (.ofOffset text (text.length - rest.length))
  | .number error => .number error

/-- What follows the blanks and comments at the start of a text; `inComment` tells that the text
starts inside a comment. -/
def skipGap (inComment : Bool) : List Char → List Char
  | [] => []
  | character :: rest =>
      if inComment then skipGap (character != '\n') rest
      else if Text.isBlank character then skipGap false rest
      else if character = ';' then skipGap true rest
      else character :: rest

/-- The content of a string whose opening quote has been read, and what follows its closing
quote. -/
def stringBody? : List Char → Option (List Char × List Char)
  | [] => none
  | '"' :: rest => some ([], rest)
  | '\\' :: escaped :: rest =>
      (stringBody? rest).map fun parts => (Atom.unescaped escaped :: parts.1, parts.2)
  | character :: rest => (stringBody? rest).map fun parts => (character :: parts.1, parts.2)

/-- The datum that an atom spells. -/
def atom (spelling : List Char) : Except NumberError Datum :=
  match Atom.boolean? spelling with
  | some value => .ok (.bool value)
  | none =>
      if Atom.isNil spelling then .ok .nil
      else
        match Numeral.read spelling with
        | .error error => .error error
        | .ok (some (.int value)) => .ok (.int value)
        | .ok (some (.double value)) => .ok (.double value)
        | .ok _ => .ok (.symbol (String.ofList spelling))

/-- What a text continues with. -/
inductive Item where
  | opening
  | closing
  | datum (value : Datum)

/-- The item that starts at a character, the rest of the text being `rest`, and what follows it. -/
def item (character : Char) (rest : List Char) : Except Failure (Item × List Char) :=
  if character = '(' then .ok (.opening, rest)
  else if character = ')' then .ok (.closing, rest)
  else if character = '"' then
    match stringBody? rest with
    | none => .error (.malformed .unclosedString (character :: rest))
    | some (body, rest) => .ok (.datum (.string (String.ofList body)), rest)
  else if Atom.isDelimiter character then
    .error (.malformed (.unexpectedCharacter character) (character :: rest))
  else
    match atom (character :: rest.takeWhile fun next => !Atom.isDelimiter next) with
    | .error error => .error (.number error)
    | .ok value => .ok (.datum value, rest.dropWhile fun next => !Atom.isDelimiter next)

/-- A list that is still open: the text from its bracket on, and its items, last first. -/
structure OpenList where
  start : List Char
  items : List Datum

/-- The open list with one more item. -/
def OpenList.push (openList : OpenList) (value : Datum) : OpenList :=
  { openList with items := value :: openList.items }

/-- The datum of an open list that is closed now. -/
def OpenList.close (openList : OpenList) : Datum :=
  .list none openList.items.reverse

/-- Skipping a gap does not lengthen the text. -/
theorem length_skipGap_le (inComment : Bool) (text : List Char) :
    (skipGap inComment text).length ≤ text.length := by
  induction text generalizing inComment with
  | nil => simp [skipGap]
  | cons character rest ih =>
    simp only [skipGap]
    split
    · exact Nat.le_succ_of_le (ih _)
    split
    · exact Nat.le_succ_of_le (ih _)
    split
    · exact Nat.le_succ_of_le (ih _)
    · exact Nat.le_refl _

/-- What follows a string is not longer than what follows its opening quote. -/
theorem length_le_of_stringBody? {rest body after : List Char}
    (found : stringBody? rest = some (body, after)) : after.length ≤ rest.length := by
  fun_induction stringBody? rest generalizing body after with
  | case1 => simp at found
  | case2 rest => simp_all
  | case3 escaped rest ih =>
    obtain ⟨parts, inner, same⟩ := Option.map_eq_some_iff.1 found
    obtain ⟨-, rfl⟩ := Prod.mk.injEq .. ▸ same
    have := ih inner
    simp only [List.length_cons]
    omega
  | case4 character rest _ _ ih =>
    obtain ⟨parts, inner, same⟩ := Option.map_eq_some_iff.1 found
    obtain ⟨-, rfl⟩ := Prod.mk.injEq .. ▸ same
    have := ih inner
    simp only [List.length_cons]
    omega

/-- What follows an item is not longer than what follows its first character. -/
theorem length_le_of_item {character : Char} {rest after : List Char} {found : Item}
    (read : item character rest = .ok (found, after)) : after.length ≤ rest.length := by
  unfold item at read
  split at read
  · cases read; exact Nat.le_refl _
  split at read
  · cases read; exact Nat.le_refl _
  split at read
  · split at read
    · cases read
    · next found => cases read; exact length_le_of_stringBody? found
  split at read
  · cases read
  · split at read
    · cases read
    · cases read; exact (List.dropWhile_sublist _).length_le

/-- Reads on until the outermost list that is open is closed, or one datum if none is open; gives
the datum and what follows it. -/
def expression (stack : List OpenList) (text : List Char) :
    Except Failure (Datum × List Char) :=
  match _skipped : skipGap false text with
  | [] =>
      match stack with
      | [] => .error (.malformed .unexpectedEnd [])
      | innermost :: _ => .error (.malformed .unclosedList innermost.start)
  | character :: rest =>
      match _read : item character rest with
      | .error failure => .error failure
      | .ok (.opening, after) => expression (⟨character :: rest, []⟩ :: stack) after
      | .ok (.closing, after) =>
          match stack with
          | [] => .error (.malformed (.unexpectedCharacter character) (character :: rest))
          | [outermost] => .ok (outermost.close, after)
          | innermost :: next :: outer =>
              expression (next.push innermost.close :: outer) after
      | .ok (.datum value, after) =>
          match stack with
          | [] => .ok (value, after)
          | innermost :: outer => expression (innermost.push value :: outer) after
termination_by text.length
decreasing_by
  all_goals
    have short := length_skipGap_le false text
    have shorter := length_le_of_item _read
    rw [_skipped, List.length_cons] at short
    omega

/-- What follows an expression is shorter than the text. -/
theorem length_lt_of_expression {stack : List OpenList} {text after : List Char} {value : Datum}
    (read : expression stack text = .ok (value, after)) : after.length < text.length := by
  fun_induction expression stack text with
  | case1 => cases read
  | case2 => cases read
  | case3 => cases read
  | case4 stack text character rest skipped after' found ih =>
    have short := length_skipGap_le false text
    have shorter := length_le_of_item found
    have := ih read
    rw [skipped, List.length_cons] at short
    omega
  | case5 => cases read
  | case6 text character rest skipped after' found outermost =>
    have short := length_skipGap_le false text
    have shorter := length_le_of_item found
    rw [skipped, List.length_cons] at short
    cases read
    omega
  | case7 text character rest skipped after' found innermost next outer ih =>
    have short := length_skipGap_le false text
    have shorter := length_le_of_item found
    have := ih read
    rw [skipped, List.length_cons] at short
    omega
  | case8 text character rest skipped value' after' found =>
    have short := length_skipGap_le false text
    have shorter := length_le_of_item found
    rw [skipped, List.length_cons] at short
    cases read
    omega
  | case9 text character rest skipped value' after' found innermost outer ih =>
    have short := length_skipGap_le false text
    have shorter := length_le_of_item found
    have := ih read
    rw [skipped, List.length_cons] at short
    omega

/-- The one expression that a text consists of. -/
def parse (text : List Char) : Except Error Datum :=
  match expression [] text with
  | .error failure => .error (failure.locate text)
  | .ok (value, after) =>
      match skipGap false after with
      | [] => .ok value
      | rest => .error (Failure.locate text (.malformed (.trailing (rest.take 20)) rest))

end Reader

end SandboxLisp
