import SandboxLisp.Text.CaseData
import SandboxLisp.Text.Ranges

/-!
# Letter case

Upper and lower case by the full mappings of Unicode 14: one character may become several, and a
capital sigma at the end of a word becomes a final sigma.
-/

namespace SandboxLisp.Text

/-- The character that a list of runs assigns to a code, if any. -/
def shiftedBy? (runs : List CaseRun) (code : Nat) : Option Char :=
  (runs.find? fun run =>
      run.first ≤ code && code ≤ run.last && (code - run.first) % run.step == 0).map
    fun run => Char.ofNat (Int.toNat (code + run.shift))

/-- The form of a character under a table of expansions and a table of runs. -/
def caseForm (expansions : List (Nat × List Nat)) (runs : List CaseRun) (character : Char) :
    List Char :=
  match expansions.lookup character.toNat with
  | some codes => codes.map Char.ofNat
  | none => [(shiftedBy? runs character.toNat).getD character]

/-- The upper-case form of one character. -/
def upperForm (character : Char) : List Char :=
  caseForm upperExpansions upperRuns character

/-- The lower-case form of one character on its own. -/
def lowerForm (character : Char) : List Char :=
  caseForm lowerExpansions lowerRuns character

/-- The text in upper case. -/
def upperCase (characters : List Char) : List Char :=
  characters.flatMap upperForm

/-- Whether the first character that is not case-ignorable is cased. -/
def startsCased (characters : List Char) : Bool :=
  match characters.dropWhile fun c => inRanges caseIgnorableBoundaries c.toNat with
  | [] => false
  | c :: _ => inRanges casedBoundaries c.toNat

/-- The lower-case form of one character between the characters `before` (nearest first) and
`after`: a capital sigma is final if a cased character precedes it and none follows. -/
def lowerFormBetween (before : List Char) (character : Char) (after : List Char) : List Char :=
  if character = 'Σ' then
    if startsCased before && !startsCased after then ['ς'] else ['σ']
  else lowerForm character

/-- The lower case of `characters` that stand after `before` (nearest first). -/
def lowerCaseAfter (before : List Char) : List Char → List Char
  | [] => []
  | character :: after =>
      lowerFormBetween before character after ++ lowerCaseAfter (character :: before) after

/-- The text in lower case. -/
def lowerCase (characters : List Char) : List Char :=
  lowerCaseAfter [] characters

example : upperCase ['s', 'ß'] = ['S', 'S', 'S'] := by decide +kernel
example : lowerCase ['Ο', 'Σ'] = ['ο', 'ς'] := by decide +kernel
example : lowerCase ['Σ', 'A'] = ['σ', 'a'] := by decide +kernel

end SandboxLisp.Text
