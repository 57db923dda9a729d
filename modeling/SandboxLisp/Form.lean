/-!
# Special forms

A special form is known by a name and perhaps by a synonym.  A list headed by such a name is
evaluated by the rule of the form, whatever the name is bound to.
-/

namespace SandboxLisp

/-- The special forms. -/
inductive Form where
  | conditional
  | letIn
  | cond
  | begin
  | quote
  | lambda
  | define
  | apply
  | filter
  | map
  | find
  | findIndex
  | sortBy
  | count
  | reduce
deriving DecidableEq, Repr

namespace Form

/-- The name of a form. -/
def name : Form → String
  | .conditional => "if"
  | .letIn => "let"
  | .cond => "cond"
  | .begin => "begin"
  | .quote => "quote"
  | .lambda => "lambda"
  | .define => "define"
  | .apply => "apply"
  | .filter => "filter"
  | .map => "map"
  | .find => "find"
  | .findIndex => "find-index"
  | .sortBy => "sort-by"
  | .count => "count"
  | .reduce => "reduce"

/-- Every form once. -/
def all : List Form :=
  [.conditional, .letIn, .cond, .begin, .quote, .lambda, .define, .apply, .filter, .map, .find,
    .findIndex, .sortBy, .count, .reduce]

/-- The further names of forms. -/
def synonyms : List (String × Form) :=
  [("progn", .begin), ("do", .begin), ("fn", .lambda), ("defun", .define), ("fold", .reduce)]

/-- Every name that stands for a form. -/
def names : List (String × Form) :=
  all.map (fun form => (form.name, form)) ++ synonyms

/-- The form that a name stands for. -/
def ofName? (name : String) : Option Form :=
  names.lookup name

/-- Whether a name heads function literals. -/
def isLambdaName (name : String) : Bool :=
  ofName? name == some .lambda

/-- A form is found by its name. -/
theorem ofName?_name (form : Form) : ofName? form.name = some form := by cases form <;> decide

end Form

end SandboxLisp
