import SandboxLisp.Form
import SandboxLisp.Index
import SandboxLisp.Text.Lines
import SandboxLisp.Usage

/-!
# Answers for an editor

The editor's documents are kept with their indexes.  From them come diagnostics, hover texts,
completions and outlines.  Places in a document count lines and characters from zero, and a word
reaches from one break to the next.
-/

namespace SandboxLisp

/-- A place in a document, counted from zero. -/
structure Place where
  line : Nat
  character : Nat
deriving DecidableEq, Repr

/-- A part of a document. -/
structure Range where
  start : Place
  stop : Place
deriving DecidableEq, Repr

/-- The part of a line that starts at a position and has a given length. -/
def Range.ofPosition (position : Position) (length : Nat) : Range :=
  let line := position.line - 1
  let character := position.column - 1
  ⟨⟨line, character⟩, ⟨line, character + length⟩⟩

/-- A document with its index. -/
structure Document where
  text : String
  index : Index

/-- A problem as it is shown in the document. -/
structure Diagnostic where
  range : Range
  message : String
  severity : Severity
deriving DecidableEq, Repr

/-- A name bound in the document as it is shown in its outline. -/
structure OutlineEntry where
  name : String
  kind : BindingKind
  range : Range
deriving DecidableEq, Repr

/-- What a completion stands for. -/
inductive CompletionKind where
  | keyword
  | function
  | name
deriving DecidableEq, Repr

/-- A name that is offered, perhaps with its usage line. -/
structure Completion where
  label : String
  kind : CompletionKind
  detail : Option String
deriving DecidableEq, Repr

namespace Document

/-- The characters that end a word. -/
def wordBreaks : List Char := [' ', '\t', '(', ')', '"', '\n', '\r', ';']

/-- Whether the character belongs to a word. -/
def isWordCharacter (character : Char) : Bool :=
  !wordBreaks.contains character

/-- The word of a line at an index, which may also be its end. -/
def wordIn (line : List Char) (index : Nat) : List Char :=
  ((line.take index).reverse.takeWhile isWordCharacter).reverse ++
    (line.drop index).takeWhile isWordCharacter

/-- The word at a place of a text; none where there is no line or no word. -/
def wordAt? (text : String) (place : Place) : Option String :=
  match (Text.lines text.toList)[place.line]? with
  | none => none
  | some line =>
      match wordIn line place.character with
      | [] => none
      | word => some (String.ofList word)

/-- The document of a text; there is none if the text has no index. -/
def ofText (text : String) : Except NumberError Document := do
  return ⟨text, ← Index.build text.toList⟩

/-- A document consists of its text and the index of the text. -/
theorem ofText_eq_ok_iff {text : String} {document : Document} :
    ofText text = .ok document ↔
      ∃ index, Index.build text.toList = .ok index ∧ document = ⟨text, index⟩ := by
  unfold ofText
  cases Index.build text.toList with
  | ok index =>
    constructor
    · intro same
      exact ⟨index, rfl, (Except.ok.inj same).symm⟩
    · rintro ⟨index', built, rfl⟩
      cases built
      rfl
  | error error =>
    constructor
    · intro same
      cases same
    · rintro ⟨index, built, -⟩
      cases built

/-- The diagnostics of a document. -/
def diagnostics (document : Document) : List Diagnostic :=
  document.index.problems.map fun problem =>
    ⟨.ofPosition problem.position 1, problem.message, problem.severity⟩

/-- What is shown for a binding. -/
def describe (name : String) (binding : Binding) : String :=
  Text.sentence [name, ": ", binding.kind.word, " (defined at ", toString binding.position.line, ":",
    toString binding.position.column, ")"]

/-- What is shown for a word: the usage line of its name, or else where it is bound. -/
def hoverWord? (document : Document) (word : String) : Option String :=
  match Usage.of? word with
  | some line => some line
  | none => (Table.get? document.index.symbols word).map (describe word)

/-- What is shown at a place. -/
def hover? (document : Document) (place : Place) : Option String :=
  (wordAt? document.text place).bind document.hoverWord?

/-- The names bound in the document. -/
def outline (document : Document) : List OutlineEntry :=
  document.index.symbols.map fun (name, binding) =>
    ⟨name, binding.kind, .ofPosition binding.position name.length⟩

/-- The completions for the names that a document binds and that have no usage line. -/
def completions (document : Document) : List Completion :=
  (document.index.symbols.filter fun (name, _) => (Usage.of? name).isNone).map
    fun (name, binding) =>
      ⟨name, if binding.kind = .function then .function else .name, none⟩

end Document

/-- The documents of an editor by their addresses. -/
structure Editor where
  documents : List (String × Document)

/-- What happens to the document at an address. -/
inductive Event where
  | opened (address text : String)
  | changed (address text : String)
  | closed (address : String)
deriving DecidableEq, Repr

namespace Editor

/-- An editor without documents. -/
def empty : Editor := ⟨[]⟩

/-- The document at an address. -/
def document? (editor : Editor) (address : String) : Option Document :=
  Table.get? editor.documents address

/-- The editor with a new text at an address, and the diagnostics of the text. -/
def update (editor : Editor) (address text : String) :
    Except NumberError (Editor × List Diagnostic) := do
  let document ← Document.ofText text
  return (⟨Table.put editor.documents address document⟩, document.diagnostics)

/-- The editor without the document at an address. -/
def close (editor : Editor) (address : String) : Editor :=
  ⟨editor.documents.filter fun (known, _) => known != address⟩

/-- The editor after an event, and the diagnostics that are published for its address. -/
def handle (editor : Editor) : Event → Except NumberError (Editor × List Diagnostic)
  | .opened address text | .changed address text => editor.update address text
  | .closed address => return (editor.close address, [])

/-- The completions for forms and primitives. -/
def usageCompletions : List Completion :=
  Usage.all.map fun (name, line) =>
    ⟨name, if (Form.ofName? name).isSome then .keyword else .function, some line⟩

/-- The completions at an address: forms and primitives, and the names that the document binds. -/
def completions (editor : Editor) (address : String) : List Completion :=
  usageCompletions ++ ((editor.document? address).map Document.completions).getD []

/-- What is shown at a place of the document at an address. -/
def hover? (editor : Editor) (address : String) (place : Place) : Option String :=
  (editor.document? address).bind fun document => document.hover? place

/-- The names bound in the document at an address; none if there is no document. -/
def outline? (editor : Editor) (address : String) : Option (List OutlineEntry) :=
  (editor.document? address).map Document.outline

end Editor

end SandboxLisp
