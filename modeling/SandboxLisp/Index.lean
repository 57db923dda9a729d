import SandboxLisp.Reader
import SandboxLisp.Token

/-!
# The index of a document

A document may hold several expressions.  Its index lists the names that are bound in it, the
problems that keep it from being read, how many brackets are open at its end, and how many
expressions were read before the first problem.  Nothing is evaluated.

Names are found in the tokens: a list headed by `define` or `defun` binds a variable or a function,
and one headed by `let` binds local names.  The first binding of a name is kept.  Problems are found
by reading expressions one after another.  A text that cannot be cut into tokens has that problem
only.
-/

namespace SandboxLisp

/-- How a name is bound. -/
inductive BindingKind where
  | value
  | function
  | localName
deriving DecidableEq, Repr

/-- The word for a kind of binding. -/
def BindingKind.word : BindingKind → String
  | .value => "var"
  | .function => "function"
  | .localName => "local"

/-- Where and how a name is bound. -/
structure Binding where
  kind : BindingKind
  position : Position
deriving DecidableEq, Repr

/-- How serious a problem is. -/
inductive Severity where
  | error
  | warning
deriving DecidableEq, Repr

/-- Something that keeps a document from being read. -/
structure Problem where
  message : String
  position : Position
  severity : Severity
deriving DecidableEq, Repr

/-- What is known about a document. -/
structure Index where
  symbols : List (String × Binding)
  problems : List Problem
  balance : Int
  forms : Nat
deriving DecidableEq, Repr

namespace Index

/-- The bindings with one more; the first binding of a name is kept. -/
def bind (symbols : List (String × Binding)) (name : String) (kind : BindingKind)
    (position : Position) : List (String × Binding) :=
  if Table.has symbols name then symbols else symbols ++ [(name, ⟨kind, position⟩)]

/-- The bindings with the name at the start of the tokens, if a symbol stands there. -/
def bindFirst (symbols : List (String × Binding)) (kind : BindingKind) :
    List Token → List (String × Binding)
  | ⟨.symbol name, position⟩ :: _ => bind symbols name kind position
  | _ => symbols

/-- The bindings of a definition, the tokens behind its head being given. -/
def bindDefinition (symbols : List (String × Binding)) : List Token → List (String × Binding)
  | ⟨.leftParen, _⟩ :: rest => bindFirst symbols .function rest
  | tokens => bindFirst symbols .value tokens

/-- The bindings of the lists that stand directly in a list of local names; `depth` counts the
brackets open since before that list. -/
def bindLocals (symbols : List (String × Binding)) (depth : Nat) :
    List Token → List (String × Binding)
  | [] => symbols
  | ⟨.leftParen, _⟩ :: rest =>
      bindLocals (if depth = 1 then bindFirst symbols .localName rest else symbols) (depth + 1) rest
  | ⟨.rightParen, _⟩ :: rest => if depth ≤ 1 then symbols else bindLocals symbols (depth - 1) rest
  | _ :: rest => bindLocals symbols depth rest

/-- The bindings of a form with local names, the tokens behind its head being given. -/
def bindLet (symbols : List (String × Binding)) (tokens : List Token) : List (String × Binding) :=
  match tokens with
  | ⟨.leftParen, _⟩ :: _ => bindLocals symbols 0 tokens
  | _ => symbols

/-- The bindings of a list, the tokens behind its bracket being given. -/
def bindList (symbols : List (String × Binding)) : List Token → List (String × Binding)
  | ⟨.symbol head, _⟩ :: rest =>
      if head = "define" ∨ head = "defun" then bindDefinition symbols rest
      else if head = "let" then bindLet symbols rest
      else symbols
  | _ => symbols

/-- The bindings of all lists among the tokens, in order of their opening brackets. -/
def bindings (symbols : List (String × Binding)) : List Token → List (String × Binding)
  | [] => symbols
  | ⟨.leftParen, _⟩ :: rest => bindings (bindList symbols rest) rest
  | _ :: rest => bindings symbols rest

/-- How many more brackets are opened than closed. -/
def balanceOf : List Token → Int
  | [] => 0
  | ⟨.leftParen, _⟩ :: rest => balanceOf rest + 1
  | ⟨.rightParen, _⟩ :: rest => balanceOf rest - 1
  | _ :: rest => balanceOf rest

/-- How many expressions can be read one after another from a text, and the failure that ends the
reading, if there is one. -/
def readAll (text : List Char) : Nat × Option Reader.Failure :=
  match Reader.skipGap false text with
  | [] => (0, none)
  | _ :: _ =>
      match _read : Reader.expression [] text with
      | .error failure => (0, some failure)
      | .ok (_, after) =>
          let (forms, failure) := readAll after
          (forms + 1, failure)
termination_by text.length
decreasing_by exact Reader.length_lt_of_expression _read

/-- What is said of brackets that are not matched when reading found nothing. -/
def unmatchedMessage : String := "Unmatched parentheses detected"

/-- The problems of a text whose tokens have a given balance, if reading ended with a failure or
without one. -/
def problemsOf (text : List Char) (balance : Int) :
    Option Reader.Failure → Except NumberError (List Problem)
  | some failure =>
      match failure.locate text with
      | .malformed cause position => .ok [⟨cause.message, position, .error⟩]
      | .number error => .error error
  | none => .ok (if balance = 0 then [] else [⟨unmatchedMessage, .start, .warning⟩])

/-- The index of a document; a numeral that is too long to be converted leaves it without one. -/
def build (text : List Char) : Except NumberError Index :=
  match Token.tokenize text with
  | .error (.lexical cause position) => .ok ⟨[], [⟨cause.message, position, .error⟩], 0, 0⟩
  | .error (.number error) => .error error
  | .ok tokens =>
      let balance := balanceOf tokens
      let (forms, failure) := readAll text
      match problemsOf text balance failure with
      | .error error => .error error
      | .ok problems => .ok ⟨bindings [] tokens, problems, balance, forms⟩

/-- A text with an index cannot be cut into tokens, for one cause, or the index is made of its tokens
and of what reading it came to. -/
theorem build_cases {text : List Char} {index : Index} (built : build text = .ok index) :
    (∃ cause position, Token.tokenize text = .error (.lexical cause position) ∧
      index = ⟨[], [⟨cause.message, position, .error⟩], 0, 0⟩) ∨
    ∃ tokens problems, Token.tokenize text = .ok tokens ∧
      problemsOf text (balanceOf tokens) (readAll text).2 = .ok problems ∧
      index = ⟨bindings [] tokens, problems, balanceOf tokens, (readAll text).1⟩ := by
  unfold build at built
  split at built
  · next cause position stopped =>
    cases built
    exact .inl ⟨cause, position, stopped, rfl⟩
  · cases built
  · next tokens cut =>
    dsimp only at built
    split at built
    · cases built
    · next problems found =>
      cases built
      exact .inr ⟨tokens, problems, cut, found, rfl⟩

end Index

end SandboxLisp
