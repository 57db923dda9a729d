import SandboxLisp.Primitive.Strings
import SandboxLisp.Proofs.Evaluation.Snapshot

/-!
# Functions as texts

A function is shown as a function literal with its parameters and its body, and several forms of a
body as the sequence that they make up (`Datum.render_literal`).  What is read from a text is
legible with all of its parts, so a literal that was made from such parts is read again, and
evaluating it makes the function anew: the same parameters and the same body, in the scope where
the literal is evaluated.

The only thing that keeps a function with a readable body from being shown is the bound on the
levels that an operation goes through; reading has none.
-/

namespace SandboxLisp

/-! ### Literals -/

namespace Datum

/-- The expression that shows a function. -/
def literal (params : List String) (body : Datum) : Datum :=
  .list none [.symbol "lambda", .list none (params.map .symbol), body]

/-- What is part of a legible datum is legible. -/
theorem Legible.part {whole part : Datum} (legible : whole.Legible) (inside : Part part whole) :
    part.Legible := by
  induction inside with
  | whole => exact legible
  | item among _ ih =>
    cases legible with
    | list each => exact ih (each _ among)

/-- The body that legible forms make up is legible. -/
theorem Legible.ofBody {body : List Datum} (legible : ∀ form ∈ body, form.Legible) :
    (Datum.ofBody body).Legible := by
  have begins : Atom.SpellsName "begin".toList :=
    ⟨by decide, Atom.plain_of_all rfl, rfl, rfl, by decide +kernel⟩
  match body with
  | [] => exact .nil
  | [form] => exact legible form (.head _)
  | first :: second :: rest => exact .list (List.forall_mem_cons.mpr ⟨.symbol begins, legible⟩)

/-- A literal is legible if its parts are. -/
theorem Legible.literal {params : List String} {body : Datum}
    (names : ∀ name ∈ params, (Datum.symbol name).Legible) (legible : body.Legible) :
    (Datum.literal params body).Legible := by
  have heads : Atom.SpellsName "lambda".toList :=
    ⟨by decide, Atom.plain_of_all rfl, rfl, rfl, by decide +kernel⟩
  have listed : (Datum.list none (params.map .symbol)).Legible :=
    .list (List.forall_mem_map.mpr names)
  exact .list (by simp [listed, legible, Legible.symbol heads])

/-- The integers of a literal are those of its body. -/
theorem part_int_literal {value : Int} {params : List String} {body : Datum}
    (part : Part (.int value) (literal params body)) : Part (.int value) body := by
  obtain ⟨item, among, inside⟩ := part_int_list_iff.mp part
  simp only [List.mem_cons, List.not_mem_nil, or_false] at among
  rcases among with rfl | rfl | rfl
  · cases inside
  · obtain ⟨name, named, nowhere⟩ := part_int_list_iff.mp inside
    obtain ⟨_, -, rfl⟩ := List.mem_map.mp named
    cases nowhere
  · exact inside

theorem renderItems_symbols (names : List String) :
    renderItems .source (names.map .symbol) = names.map String.toList := by
  induction names with
  | nil => rfl
  | cons name rest ih => simp [renderItems, render, symbolText, ih]

/-- The source form of a literal is what a function with its parameters and its body is shown as. -/
theorem render_literal (params : List String) (body : Datum) :
    (literal params body).render .source = closureSource params (body.render .source) := by
  have name : "lambda".toList = ['l', 'a', 'm', 'b', 'd', 'a'] := by decide
  simp [literal, render, renderItems, renderItems_symbols, enclosedItems, closureSource, symbolText,
    Text.joinWith, List.intercalate, name]

end Datum

/-! ### Functions that are shown -/

/-- Whether an operation goes through a function whose body is nested to a given depth; the function
itself takes a level. -/
def Surroundings.reaches (around : Surroundings) (nesting : Nat) : Bool :=
  around.levels.all fun bound => nesting < bound

section Showing

variable {function : Closure} (readable : function.body.Readable)
include readable

theorem Closure.fault?_display (around : Surroundings) :
    function.toDatum.fault? .display around.levels =
      if around.reaches function.body.nesting then none else some .tooDeep := by
  unfold Surroundings.reaches
  rw [toDatum, Datum.fault?, if_neg (by decide), readable.fault?_eq]
  cases around.levels with
  | none => simp
  | some bound =>
    cases bound with
    | zero => simp
    | succ levels =>
      by_cases deep : levels < function.body.nesting
      · simp [deep, Nat.not_lt.mpr deep]
      · simp [deep, Nat.lt_succ_of_le (Nat.le_of_not_lt deep)]

theorem Surroundings.text_function (around : Surroundings) :
    around.text .display function.toDatum =
      if around.reaches function.body.nesting then
        .ok (String.ofList ((Datum.literal function.params function.body).render .source))
      else .error around.tooDeep := by
  have shown : function.toDatum.render .display =
      (Datum.literal function.params function.body).render .source :=
    (Datum.render_literal _ _).symm
  have plain : Datum.plainText? .display function.toDatum = none := rfl
  rw [text, Datum.textWithin]
  simp only [plain, Closure.fault?_display readable around, shown]
  cases around.reaches function.body.nesting <;> rfl

/-- `str` shows a function with a readable body as its literal, and fails only if the body is nested
too deep to be gone through. -/
theorem Primitive.toText_function (recur : Datum → Eval Datum) (around : Surroundings)
    (world : World) :
    toText recur [function.toDatum] around world =
      (if around.reaches function.body.nesting then
        .ok (.string (String.ofList
          ((Datum.literal function.params function.body).render .source)))
      else .error around.tooDeep, world) := by
  rw [toText, unary, Eval.bind_apply, Eval.text, Eval.bind_apply]
  simp only [Eval.surroundings, around.text_function readable]
  cases around.reaches function.body.nesting <;> rfl

end Showing

namespace Eval

/-- An expression that makes a function with given parameters and a body of given forms, if it is
evaluated: a literal, or the definition of a function. -/
inductive MakesFunction (params : List String) (body : List Datum) : Datum → Prop where
  | lambda {head : String} (names : Form.ofName? head = some .lambda) :
      MakesFunction params body
        (.list none (.symbol head :: .list none (params.map .symbol) :: body))
  | definition {head : String} (names : Form.ofName? head = some .define) (target : Datum) :
      MakesFunction params body
        (.list none (.symbol head :: .list none (target :: params.map .symbol) :: body))

section Making

variable {registry : Registry} {around : Surroundings} {depth : Nat} {params : List String}
  {body : List Datum} {form : Datum}

/-- The parameters and the body of an expression that makes a function are legible with it. -/
theorem MakesFunction.legible (makes : MakesFunction params body form) (legible : form.Legible) :
    (∀ name ∈ params, (Datum.symbol name).Legible) ∧ ∀ item ∈ body, item.Legible := by
  cases makes with
  | lambda names =>
    cases legible with
    | list each =>
      have listed := each (.list none (params.map .symbol)) (by simp)
      refine ⟨fun name among => listed.part (.item ?_ .whole), fun item among => ?_⟩
      · exact List.mem_map_of_mem among
      · exact each item (by simp [among])
  | definition names target =>
    cases legible with
    | list each =>
      have listed := each (.list none (target :: params.map .symbol)) (by simp)
      refine ⟨fun name among => listed.part (.item ?_ .whole), fun item among => ?_⟩
      · exact .tail _ (List.mem_map_of_mem among)
      · exact each item (by simp [among])

/-- A literal makes a function in the scope where it is evaluated. -/
theorem evaluateAt_lambda {head : String} (names : Form.ofName? head = some .lambda)
    (params : List String) (body : List Datum) (within : depth < Evaluator.levels around)
    (world : World) :
    evaluateAt registry around depth
        (.list none (.symbol head :: .list none (params.map .symbol) :: body)) around world =
      (.ok (Closure.toDatum ⟨world.nextMark, params, .ofBody body, world.scope, none⟩),
        { world with nextMark := world.nextMark + 1 }) := by
  rw [evaluateAt_eq_step within, step, list, names]
  have read : parameterNames "lambda" (.list none (params.map .symbol)) = pure params :=
    mapM_bindingName_symbols params
  simp only [Eval.form, lambda, read, pure_bind]
  rfl

/-- Looking for the name of a place changes nothing. -/
theorem bindingName_world (target : Datum) (around : Surroundings) (world : World) :
    (bindingName target around world).2 = world := by
  unfold bindingName
  split
  · rfl
  · rw [text, bind_apply]
    simp only [surroundings]
    cases around.text .display target <;> rfl

/-- What an expression that makes a function evaluates to, if it evaluates, is a function with the
parameters, the body and the scope. -/
theorem MakesFunction.made (makes : MakesFunction params body form) {world after : World}
    {made : Datum}
    (evaluated : evaluateAt registry around depth form around world = (.ok made, after)) :
    ∃ self, made = Closure.toDatum ⟨world.nextMark, params, .ofBody body, world.scope, self⟩ := by
  have within : depth < Evaluator.levels around := by
    by_contra beyond
    rw [evaluateAt_eq_tooDeep (Nat.le_of_not_lt beyond)] at evaluated
    cases evaluated
  cases makes with
  | lambda names =>
    rw [evaluateAt_lambda names params body within] at evaluated
    cases evaluated
    exact ⟨none, rfl⟩
  | definition names target =>
    rw [evaluateAt_eq_step within, step, list, names] at evaluated
    have kept := bindingName_world target around world
    simp only [Eval.form, Eval.definition, parameterNames, mapM_bindingName_symbols,
      bind_apply] at evaluated
    cases found : bindingName target around world with
    | mk outcome behind =>
      rw [found] at kept evaluated
      subst kept
      cases outcome with
      | error cause => cases evaluated
      | ok name =>
        cases evaluated
        exact ⟨some name, rfl⟩

end Making

/-- A call looks at the parameters, the body and the scope of a function only. -/
theorem applyClosure_congr {function other : Closure} (params : other.params = function.params)
    (body : other.body = function.body) (scope : other.scope = function.scope)
    (recur : Datum → Eval Datum) (arguments : List Datum) :
    applyClosure recur other arguments = applyClosure recur function arguments := by
  rw [applyClosure, applyClosure, Closure.bind, Closure.bind, params, body, scope]

/-- An expression makes a function anew: wherever it is evaluated, it makes a function with the same
parameters and the same body that keeps the bindings of that place and changes none.  In the scope
of the former function, calls of the two are the same computations. -/
def Remakes (expression : Datum) (function : Closure) : Prop :=
  ∀ registry around depth (world : World), depth < Evaluator.levels around →
    ∃ anew : Closure,
      evaluateAt registry around depth expression around world =
        (.ok anew.toDatum, { world with nextMark := world.nextMark + 1 }) ∧
      anew.params = function.params ∧ anew.body = function.body ∧ anew.scope = world.scope ∧
      (world.scope = function.scope → ∀ recur arguments,
        applyClosure recur anew arguments = applyClosure recur function arguments)

/-- The literal of a function makes it anew. -/
theorem remakes_literal (function : Closure) :
    Remakes (Datum.literal function.params function.body) function := by
  intro registry around depth world within
  have named : Form.ofName? "lambda" = some .lambda := by decide
  refine ⟨⟨world.nextMark, function.params, function.body, world.scope, none⟩, ?_, rfl, rfl,
    rfl, ?_⟩
  · exact evaluateAt_lambda named function.params [function.body] within world
  · intro same recur arguments
    refine applyClosure_congr ?_ ?_ ?_ recur arguments
    · rfl
    · rfl
    · exact same

/-- A function that is shown reads back as the same function.  Let an expression that makes a
function be part of what is read from a text, and let no integer of too many digits be part of its
body.  The function that it evaluates to is shown by `str` as a text, which is read as an expression
that makes the function anew.  Only if the body is nested too deep to be gone through, showing the
function fails, with the failure of what goes too deep. -/
theorem function_rereads {text : List Char} {expression form made : Datum} {params : List String}
    {body : List Datum} {registry : Registry} {around : Surroundings} {depth : Nat}
    {world after : World} (parsed : Reader.parse text = .ok expression)
    (part : Datum.Part form expression) (makes : MakesFunction params body form)
    (short : ∀ value, Datum.Part (.int value) (.ofBody body) → ¬ Datum.IsLong value)
    (evaluated : evaluateAt registry around depth form around world = (.ok made, after)) :
    ∃ function : Closure, made = function.toDatum ∧ function.params = params ∧
      function.body = .ofBody body ∧ function.captured = world.scope ∧
      ∃ shown again,
        (∀ recur around world, Primitive.toText recur [made] around world =
          (if around.reaches function.body.nesting then .ok (.string shown)
            else .error around.tooDeep, world)) ∧
        Reader.parse shown.toList = .ok again ∧ Remakes again function := by
  obtain ⟨self, rfl⟩ := makes.made evaluated
  have legible : form.Legible := (Reader.legibleIn_of_parse parsed).legible.part part
  obtain ⟨names, forms⟩ := makes.legible legible
  have whole : (Datum.ofBody body).Legible := .ofBody forms
  have literal : (Datum.literal params (.ofBody body)).Legible := .literal names whole
  have reread := Reader.parse_render (literal.readable fun value inside =>
    short value (Datum.part_int_literal inside))
  rw [literal.unmarked_eq] at reread
  refine ⟨_, rfl, rfl, rfl, rfl, _, _, fun recur around world =>
    Primitive.toText_function (whole.readable short) recur around world, ?_, remakes_literal _⟩
  rwa [String.toList_ofList]

/-- The text `(list (define (k x) "a" (fn () x)))`. -/
def definitionText : List Char :=
  ['(', 'l', 'i', 's', 't', ' ', '(', 'd', 'e', 'f', 'i', 'n', 'e', ' ', '(', 'k', ' ', 'x', ')',
    ' ', '"', 'a', '"', ' ', '(', 'f', 'n', ' ', '(', ')', ' ', 'x', ')', ')', ')']

/-- The function that is defined in that text is shown with one form for its body. -/
theorem function_rereads_sequence :
    let body : List Datum := [.string "a", .list none [.symbol "fn", .list none [], .symbol "x"]]
    let form := functionDefinition "define" "k" ["x"] body
    Reader.parse definitionText = .ok (.list none [.symbol "list", form]) ∧
    ∃ function : Closure, function.body = .ofBody body ∧ function.self = some "k" ∧
      (evaluateAt .default (.limited (.int 0) 10) 0 form (.limited (.int 0) 10)
        (.ofScope [] 0)).1 = .ok function.toDatum ∧
      ∃ again, Reader.parse "(lambda (x) (begin \"a\" (fn () x)))".toList = .ok again ∧
        Remakes again function := by
  intro body form
  have cut : Token.tokenize definitionText =
      .ok [⟨.leftParen, ⟨1, 1⟩⟩, ⟨.symbol "list", ⟨1, 2⟩⟩, ⟨.leftParen, ⟨1, 7⟩⟩,
        ⟨.symbol "define", ⟨1, 8⟩⟩, ⟨.leftParen, ⟨1, 15⟩⟩, ⟨.symbol "k", ⟨1, 16⟩⟩,
        ⟨.symbol "x", ⟨1, 18⟩⟩, ⟨.rightParen, ⟨1, 19⟩⟩, ⟨.string "a", ⟨1, 21⟩⟩,
        ⟨.leftParen, ⟨1, 25⟩⟩, ⟨.symbol "fn", ⟨1, 26⟩⟩, ⟨.leftParen, ⟨1, 29⟩⟩,
        ⟨.rightParen, ⟨1, 30⟩⟩, ⟨.symbol "x", ⟨1, 32⟩⟩, ⟨.rightParen, ⟨1, 33⟩⟩,
        ⟨.rightParen, ⟨1, 34⟩⟩, ⟨.rightParen, ⟨1, 35⟩⟩, ⟨.endOfInput, ⟨1, 36⟩⟩] := by
    decide +kernel
  have parsed : Reader.parse definitionText = .ok (.list none [.symbol "list", form]) :=
    (Reader.parse_eq_ok_iff cut).mpr rfl
  have defines : Form.ofName? "define" = some .define := by decide
  have short : ∀ value, Datum.Part (.int value) (.ofBody body) → ¬ Datum.IsLong value := by
    intro value part
    have leaves : Datum.Part (.int value) Datum.beginSymbol ∨
        Datum.Part (.int value) (.string "a") ∨ Datum.Part (.int value) (.symbol "fn") ∨
        Datum.Part (.int value) (.symbol "x") := by
      simpa [Datum.ofBody, body, Datum.part_int_list_iff] using part
    rcases leaves with inside | inside | inside | inside <;> cases inside
  have made := evaluateAt_functionDefinition .default defines "k" ["x"] body
    (show 0 < Evaluator.levels (.limited (.int 0) 10) by decide) (.ofScope [] 0)
  obtain ⟨function, found, -, -, -, shown, again, written, reread, remakes⟩ :=
    function_rereads parsed (.item (.tail _ (.head _)) .whole)
      (.definition defines (.symbol "k")) short made
  have same : function = ⟨0, ["x"], .ofBody body, [], some "k"⟩ := by
    cases function
    cases found
    rfl
  subst same
  have text := written (fun _ => tooDeep) (.limited (.int 0) 10) (.ofScope [] 0)
  have spelled : shown = "(lambda (x) (begin \"a\" (fn () x)))" := by
    injection text with outcome
    injection outcome with outcome
    injection outcome with outcome
    exact outcome.symm.trans (by decide +kernel)
  rw [spelled] at reread
  exact ⟨parsed, _, rfl, rfl, congrArg Prod.fst made, again, reread, remakes⟩

end Eval

/-! ### Functions that are nested too deep to be shown -/

namespace Datum

theorem render_literal_hollow (depth : Nat) :
    (literal ["x"] (hollow depth)).render .source =
      "(lambda (x) ".toList ++ List.replicate (depth + 1) '(' ++
        List.replicate (depth + 1) ')' ++ [')'] := by
  have opens : "(lambda (x) ".toList =
      ['(', 'l', 'a', 'm', 'b', 'd', 'a', ' ', '(', 'x', ')', ' '] := by decide
  simp [render_literal, render_hollow, closureSource, opens, Text.joinWith, List.intercalate]

end Datum

namespace Eval

/-- A text that is read, and the function that it evaluates to, which cannot be shown: the brackets
of its body go deeper than the levels that showing may take. -/
theorem function_rereads_too_deep :
    let text := "(lambda (x) ".toList ++ List.replicate 3000 '(' ++ List.replicate 3000 ')' ++ [')']
    let around := (Evaluator.mk 100 .default).surroundings (.int 0)
    ∃ (expression : Datum) (function : Closure), Reader.parse text = .ok expression ∧
      MakesFunction ["x"] [Datum.hollow 2999] expression ∧
      (∀ value, ¬ Datum.Part (.int value) (Datum.hollow 2999)) ∧
      (evaluateAt .default around 0 expression around (.ofScope [] 0)).1 = .ok function.toDatum ∧
      ∀ recur world, (Primitive.toText recur [function.toDatum] around world).1 =
        .error (.limitExceeded 100) := by
  intro text around
  have whole := Datum.legible_hollow 2999
  have short value (part : Datum.Part (.int value) (Datum.hollow 2999)) : ¬ Datum.IsLong value :=
    (Datum.not_part_int_hollow value 2999 part).elim
  have named : Form.ofName? "lambda" = some .lambda := by decide
  have literal : (Datum.literal ["x"] (Datum.hollow 2999)).Legible := by
    refine .literal (List.forall_mem_singleton.mpr (.symbol ?_)) whole
    exact ⟨by decide, Atom.plain_of_all rfl, rfl, rfl, by decide +kernel⟩
  have reread := Reader.parse_render (literal.readable fun value inside =>
    short value (Datum.part_int_literal inside))
  have spelled : (Datum.literal ["x"] (Datum.hollow 2999)).render .source = text :=
    Datum.render_literal_hollow 2999
  rw [literal.unmarked_eq, spelled] at reread
  refine ⟨_, ⟨0, ["x"], Datum.hollow 2999, [], none⟩, reread, .lambda named,
    fun value => Datum.not_part_int_hollow value 2999, ?_, fun recur world => ?_⟩
  · exact congrArg Prod.fst
      (evaluateAt_lambda named ["x"] [Datum.hollow 2999] (by decide) (.ofScope [] 0))
  · have unreached : around.reaches (Datum.hollow 2999).nesting = false := by
      rw [Datum.nesting_hollow]
      decide
    rw [Primitive.toText_function (whole.readable short), if_neg (by simp [unreached])]
    rfl

end Eval

end SandboxLisp
