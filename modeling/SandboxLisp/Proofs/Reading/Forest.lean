import SandboxLisp.Proofs.Reading.Diagnostics

/-!
# The names of a document by its lists

The index of a document finds names in the flat row of its tokens.  Here the tokens of a text
without problems are seen as nested lists, and every list says by itself what it binds: a
definition the name behind its head, and a list of local names the first name of each of its items.
The main statement is that the index lists these names, visiting the lists in order of their opening
brackets and keeping the first binding of a name.

`Views` relates trees and tokens.  Each function of the index that takes tokens has one lemma that
says what it does behind the tokens that trees view, however the tokens go on.
-/

namespace SandboxLisp

theorem Token.exists_of_isOpening {token : Token} (opens : token.isOpening = true) :
    ∃ position, token = ⟨.leftParen, position⟩ := by
  obtain ⟨lexeme, position⟩ := token
  cases lexeme <;> cases opens
  exact ⟨position, rfl⟩

theorem Token.exists_of_isClosing {token : Token} (closes : token.isClosing = true) :
    ∃ position, token = ⟨.rightParen, position⟩ := by
  obtain ⟨lexeme, position⟩ := token
  cases lexeme <;> cases closes
  exact ⟨position, rfl⟩

/-- A token by itself, or a list of what stands between two brackets. -/
inductive Tree where
  | leaf (token : Token)
  | list (items : List Tree)

namespace Tree

/-- The tokens are those of the trees, one tree after another. -/
inductive Views : List Tree → List Token → Prop where
  | nil : Views [] []
  | leaf {token : Token} {trees : List Tree} {rest : List Token} (plain : token.isPlain = true)
      (others : Views trees rest) : Views (.leaf token :: trees) (token :: rest)
  | list {opening closing : Token} {items trees : List Tree} {inner rest : List Token}
      (opens : opening.isOpening = true) (inside : Views items inner)
      (closes : closing.isClosing = true) (others : Views trees rest) :
      Views (.list items :: trees) (opening :: (inner ++ closing :: rest))

/-! ### What lists bind -/

/-- The name at the start of a list, bound in a given way. -/
def bindingOfFirst (kind : BindingKind) : List Tree → List (String × Binding)
  | .leaf ⟨.symbol name, position⟩ :: _ => [(name, ⟨kind, position⟩)]
  | _ => []

/-- What a definition binds, its operands being given: the first one if it is a name, or else the
name at the start of the first one. -/
def definedBy : List Tree → List (String × Binding)
  | .list items :: _ => bindingOfFirst .function items
  | operands => bindingOfFirst .value operands

/-- What one item in a list of local names binds. -/
def localOf : Tree → List (String × Binding)
  | .list items => bindingOfFirst .localName items
  | .leaf _ => []

/-- What a form with local names binds, its operands being given. -/
def localsOf : List Tree → List (String × Binding)
  | .list items :: _ => items.flatMap localOf
  | _ => []

/-- What a list binds by itself, apart from the lists inside of it. -/
def ownBindings : List Tree → List (String × Binding)
  | .leaf ⟨.symbol head, _⟩ :: operands =>
      if head = "define" ∨ head = "defun" then definedBy operands
      else if head = "let" then localsOf operands
      else []
  | _ => []

mutual

/-- What the lists of a tree bind, in order of their opening brackets. -/
def bindings : Tree → List (String × Binding)
  | .leaf _ => []
  | .list items => ownBindings items ++ bindingsOf items

/-- What the lists of several trees bind. -/
def bindingsOf : List Tree → List (String × Binding)
  | [] => []
  | tree :: rest => bindings tree ++ bindingsOf rest

end

/-! ### The trees of tokens -/

/-- Whether a token ends the trees in front of it. -/
def stops (token : Token) : Bool :=
  !token.isOpening && !token.isPlain

theorem stops_of_isClosing {token : Token} (closes : token.isClosing = true) :
    stops token = true := by
  simp [stops, Token.isPlain, closes, Token.not_isOpening_of_isClosing closes]

/-- The trees in front of a token that ends them are determined by the tokens. -/
theorem Views.unique {trees others : List Tree} {tokens more rest behind : List Token}
    {stop halt : Token} (views : Views trees tokens) (viewsOthers : Views others more)
    (stopsHere : stops stop = true) (stopsThere : stops halt = true)
    (same : tokens ++ stop :: rest = more ++ halt :: behind) :
    trees = others ∧ tokens = more ∧ stop :: rest = halt :: behind := by
  induction views generalizing others more rest behind stop halt with
  | nil =>
    cases viewsOthers with
    | nil =>
      cases same
      exact ⟨rfl, rfl, rfl⟩
    | leaf plain =>
      cases same
      simp [stops, plain] at stopsHere
    | list opens =>
      cases same
      simp [stops, opens] at stopsHere
  | leaf plain _ ih =>
    cases viewsOthers with
    | nil =>
      cases same
      simp [stops, plain] at stopsThere
    | leaf plainOther viewsRest =>
      obtain ⟨rfl, tail⟩ := List.cons.inj same
      obtain ⟨rfl, rfl, left⟩ := ih viewsRest stopsHere stopsThere tail
      exact ⟨rfl, rfl, left⟩
    | list opens =>
      obtain ⟨rfl, -⟩ := List.cons.inj same
      rw [(Token.no_bracket_of_isPlain plain).1] at opens
      cases opens
  | list opens _ closes _ inner_ih rest_ih =>
    cases viewsOthers with
    | nil =>
      cases same
      simp [stops, opens] at stopsThere
    | leaf plain =>
      obtain ⟨rfl, -⟩ := List.cons.inj same
      rw [(Token.no_bracket_of_isPlain plain).1] at opens
      cases opens
    | list opensOther viewsItems closesOther viewsRest =>
      rw [List.cons_append, List.cons_append, List.append_assoc, List.append_assoc] at same
      obtain ⟨rfl, tail⟩ := List.cons.inj same
      obtain ⟨rfl, rfl, left⟩ := inner_ih viewsItems (stops_of_isClosing closes)
        (stops_of_isClosing closesOther) tail
      obtain ⟨rfl, further⟩ := List.cons.inj left
      obtain ⟨rfl, rfl, last⟩ := rest_ih viewsRest stopsHere stopsThere further
      exact ⟨rfl, rfl, last⟩

/-- Whole expressions are the tokens of trees. -/
theorem exists_views {tokens : List Token} {n : Nat} (whole : Brackets.Sequence tokens n) :
    ∃ trees, Views trees tokens := by
  induction whole with
  | nil => exact ⟨[], .nil⟩
  | atom plain _ ih =>
    obtain ⟨trees, views⟩ := ih
    exact ⟨_, .leaf plain views⟩
  | list opens _ closes _ inner_ih rest_ih =>
    obtain ⟨items, inside⟩ := inner_ih
    obtain ⟨trees, views⟩ := rest_ih
    exact ⟨_, .list opens inside closes views⟩

end Tree

/-! ### First bindings -/

/-- The entries of a list with the first entry of every name only. -/
def Table.firsts {α : Type} : List (String × α) → List (String × α)
  | [] => []
  | entry :: rest => entry :: (firsts rest).filter (·.1 != entry.1)

namespace Index

open SandboxLisp.Tree

/-- The bindings with several more, one after another. -/
def bindAll (symbols entries : List (String × Binding)) : List (String × Binding) :=
  entries.foldl (fun known entry => bind known entry.1 entry.2.kind entry.2.position) symbols

@[simp] theorem bindAll_append (symbols first second : List (String × Binding)) :
    bindAll symbols (first ++ second) = bindAll (bindAll symbols first) second :=
  List.foldl_append

/-- Binding one name after another adds the first binding of every name that is not bound yet. -/
theorem bindAll_eq (symbols entries : List (String × Binding)) :
    bindAll symbols entries =
      symbols ++ (Table.firsts entries).filter fun entry => !Table.has symbols entry.1 := by
  induction entries generalizing symbols with
  | nil => simp [bindAll, Table.firsts]
  | cons entry rest ih =>
    have step : bindAll symbols (entry :: rest) =
        bindAll (bind symbols entry.1 entry.2.kind entry.2.position) rest := rfl
    rw [step, ih, Table.firsts]
    by_cases known : Table.has symbols entry.1 = true
    · have others : (fun other : String × Binding =>
          !Table.has symbols other.1 && other.1 != entry.1) =
          fun other => !Table.has symbols other.1 := by
        funext other
        by_cases same : other.1 = entry.1
        · simp [same, known]
        · simp [same]
      simp [bind, known, List.filter_filter, others]
    · have others : (fun other : String × Binding =>
          !Table.has (symbols ++ [entry]) other.1) =
          fun other => !Table.has symbols other.1 && other.1 != entry.1 := by
        funext other
        rw [Table.has_concat, Bool.not_or]
        rfl
      simp [bind, known, List.filter_filter, others]

/-! ### What the index does with the tokens of trees -/

variable {trees : List Tree} {tokens : List Token} {closing : Token}

theorem bindFirst_of_views (views : Views trees tokens) (closes : closing.isClosing = true)
    (symbols : List (String × Binding)) (kind : BindingKind) (rest : List Token) :
    bindFirst symbols kind (tokens ++ closing :: rest) =
      bindAll symbols (bindingOfFirst kind trees) := by
  cases views with
  | nil =>
    obtain ⟨position, rfl⟩ := Token.exists_of_isClosing closes
    rfl
  | @leaf token others behind plain =>
    obtain ⟨lexeme, position⟩ := token
    cases lexeme <;> rfl
  | @list opening ending items others inner behind opens =>
    obtain ⟨position, rfl⟩ := Token.exists_of_isOpening opens
    rfl

theorem bindDefinition_of_views (views : Views trees tokens) (closes : closing.isClosing = true)
    (symbols : List (String × Binding)) (rest : List Token) :
    bindDefinition symbols (tokens ++ closing :: rest) = bindAll symbols (definedBy trees) := by
  cases views with
  | nil =>
    obtain ⟨position, rfl⟩ := Token.exists_of_isClosing closes
    rfl
  | @leaf token others behind plain =>
    obtain ⟨lexeme, position⟩ := token
    cases lexeme <;> first | rfl | cases plain
  | @list opening ending items others inner behind opens inside ends =>
    obtain ⟨position, rfl⟩ := Token.exists_of_isOpening opens
    rw [List.cons_append, List.append_assoc, List.cons_append, bindDefinition, definedBy]
    exact bindFirst_of_views inside ends symbols .function (behind ++ closing :: rest)

/-- Inside of an item of a list of local names nothing is bound. -/
theorem bindLocals_inside (views : Views trees tokens) {depth : Nat} (inside : 2 ≤ depth)
    (symbols : List (String × Binding)) (rest : List Token) :
    bindLocals symbols depth (tokens ++ rest) = bindLocals symbols depth rest := by
  induction views generalizing depth rest with
  | nil => rfl
  | @leaf token trees behind plain others ih =>
    obtain ⟨lexeme, position⟩ := token
    cases lexeme with
    | leftParen | rightParen => cases plain
    | _ => exact ih inside rest
  | @list opening ending items trees inner behind opens _ closes _ inner_ih rest_ih =>
    obtain ⟨position, rfl⟩ := Token.exists_of_isOpening opens
    obtain ⟨place, rfl⟩ := Token.exists_of_isClosing closes
    rw [List.cons_append, List.append_assoc, List.cons_append, bindLocals,
      if_neg (by omega), inner_ih (by omega), bindLocals, if_neg (by omega), Nat.add_sub_cancel]
    exact rest_ih inside rest

/-- Every item in a list of local names binds its first name. -/
theorem bindLocals_of_views (views : Views trees tokens) (symbols : List (String × Binding))
    (rest : List Token) :
    bindLocals symbols 1 (tokens ++ rest) =
      bindLocals (bindAll symbols (trees.flatMap localOf)) 1 rest := by
  induction views generalizing symbols with
  | nil => rfl
  | @leaf token trees behind plain others ih =>
    obtain ⟨lexeme, position⟩ := token
    cases lexeme with
    | leftParen | rightParen => cases plain
    | _ => exact ih symbols
  | @list opening ending items trees inner behind opens inside closes _ _ ih =>
    have first := bindFirst_of_views inside closes symbols .localName (behind ++ rest)
    obtain ⟨position, rfl⟩ := Token.exists_of_isOpening opens
    obtain ⟨place, rfl⟩ := Token.exists_of_isClosing closes
    rw [List.cons_append, List.append_assoc, List.cons_append, bindLocals, if_pos rfl, first,
      bindLocals_inside inside (by decide), bindLocals, if_neg (by decide), List.flatMap_cons,
      bindAll_append]
    exact ih _

theorem bindLet_of_views (views : Views trees tokens) (closes : closing.isClosing = true)
    (symbols : List (String × Binding)) (rest : List Token) :
    bindLet symbols (tokens ++ closing :: rest) = bindAll symbols (localsOf trees) := by
  cases views with
  | nil =>
    obtain ⟨position, rfl⟩ := Token.exists_of_isClosing closes
    rfl
  | @leaf token others behind plain =>
    obtain ⟨lexeme, position⟩ := token
    cases lexeme <;> first | rfl | cases plain
  | @list opening ending items others inner behind opens inside ends =>
    obtain ⟨position, rfl⟩ := Token.exists_of_isOpening opens
    obtain ⟨place, rfl⟩ := Token.exists_of_isClosing ends
    rw [List.cons_append, List.append_assoc, List.cons_append, bindLet, bindLocals,
      if_neg (by decide), bindLocals_of_views inside, bindLocals, if_pos (Nat.le_refl 1), localsOf]

/-- A list binds what the tree of its items says. -/
theorem bindList_of_views (views : Views trees tokens) (closes : closing.isClosing = true)
    (symbols : List (String × Binding)) (rest : List Token) :
    bindList symbols (tokens ++ closing :: rest) = bindAll symbols (ownBindings trees) := by
  cases views with
  | nil =>
    obtain ⟨position, rfl⟩ := Token.exists_of_isClosing closes
    rfl
  | @leaf token operands behind plain others =>
    obtain ⟨lexeme, position⟩ := token
    cases lexeme with
    | symbol head =>
      rw [List.cons_append, bindList, ownBindings]
      split
      · exact bindDefinition_of_views others closes symbols rest
      · split
        · exact bindLet_of_views others closes symbols rest
        · rfl
    | _ => rfl
  | @list opening ending items others inner behind opens =>
    obtain ⟨position, rfl⟩ := Token.exists_of_isOpening opens
    rfl

/-- The index binds what the lists of the trees bind, in order of their opening brackets. -/
theorem bindings_of_views (views : Views trees tokens) (symbols : List (String × Binding))
    (rest : List Token) :
    Index.bindings symbols (tokens ++ rest) =
      Index.bindings (bindAll symbols (bindingsOf trees)) rest := by
  induction views generalizing symbols rest with
  | nil => rfl
  | @leaf token trees behind plain others ih =>
    obtain ⟨lexeme, position⟩ := token
    cases lexeme with
    | leftParen | rightParen => cases plain
    | _ => exact ih symbols rest
  | @list opening ending items trees inner behind opens inside closes _ inner_ih rest_ih =>
    have own := bindList_of_views inside closes symbols (behind ++ rest)
    obtain ⟨position, rfl⟩ := Token.exists_of_isOpening opens
    obtain ⟨place, rfl⟩ := Token.exists_of_isClosing closes
    have passed (known : List (String × Binding)) :
        Index.bindings known (⟨.rightParen, place⟩ :: (behind ++ rest)) =
          Index.bindings known (behind ++ rest) := rfl
    rw [List.cons_append, List.append_assoc, List.cons_append, Index.bindings, own, inner_ih,
      passed, rest_ih, bindingsOf, Tree.bindings, bindAll_append, bindAll_append]

/-- The names of an index are those that the tokens of its text bind. -/
theorem symbols_of_build {text : List Char} {index : Index} {tokens : List Token}
    (built : build text = .ok index) (cut : Token.tokenize text = .ok tokens) :
    index.symbols = Index.bindings [] tokens := by
  rcases build_cases built with
    ⟨cause, position, stopped, -⟩ | ⟨others, problems, cutOthers, -, rfl⟩
  · cases stopped.symm.trans cut
  · cases cutOthers.symm.trans cut
    rfl

/-- The tokens of a text whose index has no problem are whole expressions and the end of the
text. -/
theorem sequence_of_build {text : List Char} {index : Index} (built : build text = .ok index)
    (clean : index.problems = []) :
    ∃ tokens here n, Token.tokenize text = .ok (tokens ++ [⟨.endOfInput, here⟩]) ∧
      Brackets.Sequence tokens n := by
  rcases build_cases built with ⟨cause, position, -, rfl⟩ | ⟨all, problems, cut, -, -⟩
  · cases clean
  · obtain ⟨found, builtFound, -, -, noProblem⟩ := build_of_tokens cut
    cases built.symm.trans builtFound
    have parts : Parts text 0 [] all (readAll text) :=
      readAll_parts (Position.Marks.start text) cut .nil
    have finished := noProblem.mp clean
    generalize readAll text = outcome at parts finished
    cases parts with
    | @complete forms used here split whole => exact ⟨used, here, _, by rw [cut, split], whole⟩
    | defective => cases finished

/-- The names of a document without problems are those that its lists bind.  Its tokens but the last
are the tokens of one row of trees, and the index has the first binding of every name that a list of
these trees binds, when the lists are visited in order of their opening brackets. -/
theorem build_symbols (text : List Char) (index : Index) (built : build text = .ok index)
    (clean : index.problems = []) :
    ∃ tokens here, Token.tokenize text = .ok (tokens ++ [⟨.endOfInput, here⟩]) ∧
      (∃! trees, Views trees tokens) ∧
      ∀ trees, Views trees tokens → index.symbols = Table.firsts (bindingsOf trees) := by
  obtain ⟨tokens, here, n, cut, whole⟩ := sequence_of_build built clean
  obtain ⟨trees, views⟩ := exists_views whole
  have ends : stops ⟨.endOfInput, here⟩ = true := rfl
  have row : tokens ++ [⟨.endOfInput, here⟩] = tokens ++ [⟨.endOfInput, here⟩] := rfl
  refine ⟨tokens, here, cut, ⟨trees, views, fun others same => ?_⟩, fun others same => ?_⟩
  · exact (Views.unique same views ends ends row).1
  · have last (known : List (String × Binding)) :
        Index.bindings known [⟨.endOfInput, here⟩] = known := rfl
    rw [symbols_of_build built cut, bindings_of_views same, last, bindAll_eq, List.nil_append]
    exact List.filter_eq_self.mpr fun _ _ => rfl

/-- A document whose local names have a definition and local names of their own inside. -/
def nestedText : List Char :=
  "(let ((a (let ((b 1)) b)) c (a 2)) (defun (f x) (define (define y 3) a)))".toList

/-- The first binding of `a` stands before the one of `b` inside of it; `c` is no list and binds
nothing, and `define` is bound by the list that it heads. -/
def nestedIndex : Index :=
  ⟨[("a", ⟨.localName, ⟨1, 8⟩⟩), ("b", ⟨.localName, ⟨1, 17⟩⟩), ("f", ⟨.function, ⟨1, 44⟩⟩),
    ("define", ⟨.function, ⟨1, 58⟩⟩), ("y", ⟨.value, ⟨1, 65⟩⟩)], [], 0, 1⟩

theorem build_symbols_nested :
    build nestedText = .ok nestedIndex ∧ nestedIndex.problems = [] ∧
      ∃ tokens here, Token.tokenize nestedText = .ok (tokens ++ [⟨.endOfInput, here⟩]) ∧
        (∃! trees, Views trees tokens) ∧
        ∀ trees, Views trees tokens → nestedIndex.symbols = Table.firsts (bindingsOf trees) := by
  have built : build nestedText = .ok nestedIndex := by decide +kernel
  exact ⟨built, rfl, build_symbols nestedText nestedIndex built rfl⟩

end Index

end SandboxLisp
