/-!
# Usage lines

A usage line shows how a form or a primitive is written.  Editors show it for a name and offer the
names in the order of this table.
-/

namespace SandboxLisp.Usage

/-- The usage of the special forms and their synonyms. -/
def forms : List (String × String) := [
  ("if", "(if test then [else])"),
  ("let", "(let ((name value) ...) body...)"),
  ("cond", "(cond (test expr) ... (else expr))"),
  ("begin", "(begin expr...)"),
  ("progn", "(progn expr...)"),
  ("do", "(do expr...)"),
  ("quote", "(quote expr)"),
  ("lambda", "(lambda (params...) body...)"),
  ("fn", "(fn (params...) body...)"),
  ("define", "(define name value) | (define (name params...) body...)"),
  ("defun", "(defun name value) | (defun (name params...) body...)"),
  ("apply", "(apply fn args)"),
  ("filter", "(filter fn-or-expr list)"),
  ("map", "(map fn-or-expr list)"),
  ("find", "(find list fn-or-expr)"),
  ("find-index", "(find-index list fn-or-expr)"),
  ("sort-by", "(sort-by list fn-or-expr)"),
  ("count", "(count list [fn-or-expr])"),
  ("reduce", "(reduce list init (acc item) body) | (reduce list init fn)"),
  ("fold", "(fold list init (acc item) body) | (fold list init fn)")]

/-- The usage of the arithmetic primitives. -/
def arithmetic : List (String × String) := [
  ("+", "(+ nums...) | (+ strs...)"),
  ("-", "(- x [y...])"),
  ("*", "(* nums...)"),
  ("/", "(/ x [y...])"),
  ("%", "(% n d)")]

/-- The usage of the comparing primitives. -/
def comparison : List (String × String) := [
  ("=", "(= a b)"),
  ("!=", "(!= a b)"),
  ("<", "(< a b)"),
  (">", "(> a b)"),
  ("<=", "(<= a b)"),
  (">=", "(>= a b)")]

/-- The usage of the logical primitives. -/
def logic : List (String × String) := [
  ("and", "(and xs...)"),
  ("or", "(or xs...)"),
  ("not", "(not x)")]

/-- The usage of the string primitives. -/
def strings : List (String × String) := [
  ("concat", "(concat xs...)"),
  ("str", "(str x)"),
  ("strlen", "(strlen s)"),
  ("substr", "(substr s start [end])"),
  ("str-starts-with", "(str-starts-with s prefix)"),
  ("str-ends-with", "(str-ends-with s suffix)"),
  ("str-contains", "(str-contains s part)"),
  ("str-replace", "(str-replace s old new)"),
  ("str-split", "(str-split s sep)"),
  ("str-join", "(str-join list sep)"),
  ("str-trim", "(str-trim s)"),
  ("str-upper", "(str-upper s)"),
  ("str-lower", "(str-lower s)"),
  ("parse-num", "(parse-num s)"),
  ("parse-int", "(parse-int s [radix])")]

/-- The usage of the list primitives. -/
def lists : List (String × String) := [
  ("list", "(list xs...)"),
  ("length", "(length list-or-str)"),
  ("first", "(first list)"),
  ("rest", "(rest list)"),
  ("last", "(last list)"),
  ("nth", "(nth list i)"),
  ("append", "(append list x)"),
  ("prepend", "(prepend list x)"),
  ("concat-lists", "(concat-lists lists...)"),
  ("slice", "(slice list [start] [end])"),
  ("reverse", "(reverse list)"),
  ("range", "(range [start] end [step])"),
  ("empty?", "(empty? list-or-str)"),
  ("contains", "(contains list-or-str x)"),
  ("index-of", "(index-of list-or-str x)")]

/-- The usage of the object primitives. -/
def objects : List (String × String) := [
  ("obj", "(obj k v ...)"),
  ("get", "(get target keys...)"),
  ("set", "(set obj k v)"),
  ("keys", "(keys obj)"),
  ("values", "(values obj)"),
  ("has-key", "(has-key obj k)"),
  ("update-at", "(update-at list i x)"),
  ("merge", "(merge objs...)")]

/-- The usage of the mathematical primitives. -/
def mathematics : List (String × String) := [
  ("abs", "(abs x)"),
  ("min", "(min xs...)"),
  ("max", "(max xs...)"),
  ("floor", "(floor x)"),
  ("ceil", "(ceil x)"),
  ("round", "(round x)"),
  ("sqrt", "(sqrt x)"),
  ("pow", "(pow base exp)"),
  ("clamp", "(clamp x lo hi)"),
  ("sin", "(sin x)"),
  ("cos", "(cos x)"),
  ("tan", "(tan x)"),
  ("log", "(log x)"),
  ("exp", "(exp x)"),
  ("random", "(random)")]

/-- The usage of the type predicates. -/
def predicates : List (String × String) := [
  ("null?", "(null? x)"),
  ("number?", "(number? x)"),
  ("string?", "(string? x)"),
  ("bool?", "(bool? x)"),
  ("list?", "(list? x)"),
  ("object?", "(object? x)")]

/-- The usage of the primitives for time and logging. -/
def utilities : List (String × String) := [
  ("now", "(now)"),
  ("add-days", "(add-days ms days)"),
  ("add-hours", "(add-hours ms hours)"),
  ("days-since", "(days-since ms)"),
  ("print", "(print xs...)")]

/-- The usage lines of all forms and primitives, in the order in which they are offered. -/
def all : List (String × String) :=
  forms ++ arithmetic ++ comparison ++ logic ++ strings ++ lists ++ objects ++ mathematics ++
    predicates ++ utilities

/-- The usage line of a name. -/
def of? (name : String) : Option String :=
  all.lookup name

end SandboxLisp.Usage
