import SandboxLisp.Datum.Basic
import SandboxLisp.Double.Notation
import SandboxLisp.Text.Search

/-!
# Data as text

A datum is written in three forms.  The source form reads back as the datum.  The display form is
what strings are made from: whole doubles lose their point, strings stand as they are, and a list is
its items with commas between them.  The debug form appears in messages.

An integer of more digits than the digit limit cannot be written, nor can a datum that is nested
beyond the levels that are gone through; the fault that is met first is reported.
-/

namespace SandboxLisp

/-- The forms in which a datum is written. -/
inductive TextForm where
  | source
  | display
  | debug
deriving DecidableEq, Repr

namespace Datum

/-- The decimal text of an integer. -/
def integerText (value : Int) : List Char :=
  if value < 0 then '-' :: decimalDigits value.natAbs else decimalDigits value.natAbs

/-- Whole doubles below this bound are displayed as integers. -/
def wholeDisplayBound : Nat := 10 ^ 21

/-- What strings show for an infinite double without its sign. -/
def infinityText : List Char := ['I', 'n', 'f', 'i', 'n', 'i', 't', 'y']

/-- A double as strings show it. -/
def displayDouble (value : Double) : List Char :=
  match value with
  | .infinite true => '-' :: infinityText
  | .infinite false => infinityText
  | .finite _ _ =>
      match value.toInt? with
      | some whole => if whole.natAbs < wholeDisplayBound then integerText whole else value.text
      | none => value.text

/-- One character of a string in source form. -/
def escapedForm (character : Char) : List Char :=
  if character = '\\' then ['\\', '\\']
  else if character = '"' then ['\\', '"']
  else if character = '\n' then ['\\', 'n']
  else if character = '\t' then ['\\', 't']
  else [character]

/-- A string in source form. -/
def quotedSource (characters : List Char) : List Char :=
  '"' :: (characters.flatMap escapedForm ++ ['"'])

/-- Nil in one form. -/
def nilText : TextForm → List Char
  | .debug => ['N', 'o', 'n', 'e']
  | _ => ['n', 'u', 'l', 'l']

/-- A boolean in one form. -/
def boolText : TextForm → Bool → List Char
  | .debug, true => ['T', 'r', 'u', 'e']
  | .debug, false => ['F', 'a', 'l', 's', 'e']
  | _, true => ['t', 'r', 'u', 'e']
  | _, false => ['f', 'a', 'l', 's', 'e']

/-- A double in one form. -/
def doubleText : TextForm → Double → List Char
  | .display, value => displayDouble value
  | _, value => value.text

/-- What is written for a result that is not a number. -/
def nanText : TextForm → List Char
  | .display => ['N', 'a', 'N']
  | _ => ['n', 'a', 'n']

/-- A string in one form. -/
def stringText : TextForm → List Char → List Char
  | .source, characters => quotedSource characters
  | .display, characters => characters
  | .debug, characters => Text.quoted characters

/-- A symbol in one form. -/
def symbolText : TextForm → List Char → List Char
  | .debug, name => ['S', 'y', 'm', 'b', 'o', 'l', '('] ++ Text.quoted name ++ [')']
  | _, name => name

/-- The items of a list with what encloses and separates them. -/
def enclosedItems (form : TextForm) (items : List (List Char)) : List Char :=
  match form with
  | .source => '(' :: (Text.joinWith [' '] items ++ [')'])
  | .display => Text.joinWith [','] items
  | .debug => '[' :: (Text.joinWith [',', ' '] items ++ [']'])

/-- The fields of an object with what encloses and separates them. -/
def enclosedFields (fields : List (List Char)) : List Char :=
  '\x7b' :: (Text.joinWith [',', ' '] fields ++ ['\x7d'])

/-- A function's parameters and its body in source form. -/
def closureSource (params : List String) (body : List Char) : List Char :=
  ['(', 'l', 'a', 'm', 'b', 'd', 'a', ' ', '('] ++
    Text.joinWith [' '] (params.map String.toList) ++ [')', ' '] ++ body ++ [')']

/-- A function's parameters in debug form. -/
def closureDebug (params : List String) : List Char :=
  ['<', 'C', 'l', 'o', 's', 'u', 'r', 'e', ' ', 'p', 'a', 'r', 'a', 'm', 's', '=', '('] ++
    Text.joinWith [',', ' '] (params.map String.toList) ++ [')', '>']

/-- The form that the fields of an object take inside a text of a given form. -/
def fieldForm : TextForm → TextForm
  | .display => .display
  | _ => .debug

mutual

/-- A datum in one form. -/
def render (form : TextForm) : Datum → List Char
  | .list _ items => enclosedItems form (renderItems form items)
  | .object _ fields => enclosedFields (renderFields (fieldForm form) fields)
  | .closure _ params body _ _ =>
      match form with
      | .debug => closureDebug params
      | _ => closureSource params (render .source body)
  | .nil => nilText form
  | .bool value => boolText form value
  | .int value => integerText value
  | .double value => doubleText form value
  | .nan _ => nanText form
  | .string text => stringText form text.toList
  | .symbol name => symbolText form name.toList
termination_by structural datum => datum

/-- The items of a list in one form; a nil item is displayed as nothing. -/
def renderItems (form : TextForm) : List Datum → List (List Char)
  | [] => []
  | item :: rest =>
      (match form, item with
        | .display, .nil => []
        | _, _ => render form item) :: renderItems form rest
termination_by structural items => items

/-- The fields of an object in one form. -/
def renderFields (form : TextForm) : List (String × Datum) → List (List Char)
  | [] => []
  | (name, value) :: rest =>
      ((if form = .debug then Text.quoted name.toList else name.toList) ++ [':', ' '] ++
        render form value) :: renderFields form rest
termination_by structural fields => fields

end

/-- The least natural number with too many digits to be written. -/
@[irreducible] def writableBound : Nat := 10 ^ NumberError.digitLimit

/-- Whether an integer has few enough digits to be written. -/
def isWritableInteger (value : Int) : Bool :=
  value.natAbs < writableBound

/-- Why a datum cannot be written. -/
inductive TextFault where
  /-- It is nested beyond the levels that are gone through. -/
  | tooDeep
  /-- It shows an integer of too many digits. -/
  | integerTooLong
deriving DecidableEq, Repr

mutual

/-- The first fault that writing a datum in one form meets, when no more than the given number of
levels is gone through. -/
def fault? (form : TextForm) (levels : Option Nat) : Datum → Option TextFault
  | .int value => if isWritableInteger value then none else some .integerTooLong
  | .list _ items =>
      if levels = some 0 then some .tooDeep else itemFault? form (levels.map (· - 1)) items
  | .object _ fields =>
      if levels = some 0 then some .tooDeep
      else fieldFault? (fieldForm form) (levels.map (· - 1)) fields
  | .closure _ _ body _ _ =>
      if form = .debug then none
      else if levels = some 0 then some .tooDeep
      else fault? .source (levels.map (· - 1)) body
  | _ => none
termination_by structural datum => datum

/-- The first fault that writing the items of a list meets. -/
def itemFault? (form : TextForm) (levels : Option Nat) : List Datum → Option TextFault
  | [] => none
  | item :: rest =>
      match fault? form levels item with
      | some fault => some fault
      | none => itemFault? form levels rest
termination_by structural items => items

/-- The first fault that writing the fields of an object meets. -/
def fieldFault? (form : TextForm) (levels : Option Nat) :
    List (String × Datum) → Option TextFault
  | [] => none
  | (_, value) :: rest =>
      match fault? form levels value with
      | some fault => some fault
      | none => fieldFault? form levels rest
termination_by structural fields => fields

end

/-- The string that a datum is displayed as without any change. -/
def plainText? (form : TextForm) (datum : Datum) : Option String :=
  match form, datum with
  | .display, .string shown => some shown
  | _, _ => none

/-- The text of a datum in one form, when no more than the given number of levels is gone
through. -/
def textWithin (form : TextForm) (levels : Option Nat) (datum : Datum) : Except TextFault String :=
  match plainText? form datum with
  | some shown => .ok shown
  | none => (datum.fault? form levels).elim (.ok (String.ofList (datum.render form))) .error

/-- The text of a datum in one form, without a bound on the levels. -/
def text (form : TextForm) (datum : Datum) : Except NumberError String :=
  (datum.textWithin form none).mapError fun _ => .integerTooLong

/-- A plain text is the rendering of its datum. -/
theorem render_of_plainText? {form : TextForm} {datum : Datum} {shown : String}
    (plain : plainText? form datum = some shown) : String.ofList (datum.render form) = shown := by
  cases form <;> cases datum <;> simp only [plainText?, reduceCtorEq, Option.some.injEq] at plain
  subst plain
  simp [render, stringText]

/-- The text of a datum without a fault is its rendering. -/
theorem textWithin_eq_render {form : TextForm} {levels : Option Nat} {datum : Datum}
    (sound : datum.fault? form levels = none) :
    datum.textWithin form levels = .ok (String.ofList (datum.render form)) := by
  unfold textWithin
  cases plain : plainText? form datum with
  | some shown => simp only [render_of_plainText? plain]
  | none => simp only [sound, Option.elim_none]

/-- A text that is written is the rendering of its datum. -/
theorem render_of_textWithin {form : TextForm} {levels : Option Nat} {datum : Datum}
    {shown : String} (written : datum.textWithin form levels = .ok shown) :
    String.ofList (datum.render form) = shown := by
  unfold textWithin at written
  split at written
  · next text plain =>
    rw [render_of_plainText? plain]
    exact Except.ok.inj written
  · cases found : datum.fault? form levels with
    | none =>
        rw [found] at written
        exact Except.ok.inj written
    | some fault =>
        rw [found] at written
        cases written

end Datum

end SandboxLisp
