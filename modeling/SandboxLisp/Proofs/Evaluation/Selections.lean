import SandboxLisp.Proofs.Evaluation.CallPaths
import SandboxLisp.Proofs.Evaluation.Congruence

/-!
# One predicate in five forms

What is evaluated for each item of a list is the same for all forms that take it, and it is made in
the same way, whether the list is evaluated before it or behind it.  To keep items, and to count
them, is to map all of them first and then to look at the values; a search is the beginning of that.
-/

namespace SandboxLisp

/-- A form with its operands, as it is written. -/
def Form.call (form : Form) (operands : List Datum) : Datum :=
  .list none (.symbol form.name :: operands)

namespace Eval

/-- The items whose values count as true, in order. -/
def chosen (items values : List Datum) : List Datum :=
  ((items.zip values).filter fun entry => entry.2.isTruthy).map Prod.fst

theorem chosen_cons (item value : Datum) (items values : List Datum) :
    chosen (item :: items) (value :: values) =
      if value.isTruthy then item :: chosen items values else chosen items values := by
  rw [chosen, List.zip_cons_cons, List.filter_cons]
  split <;> rfl

/-! ### Going through the items -/

section Items

variable {function : Datum → Eval Datum}

/-- To keep items is to map all of them and to choose by the values. -/
theorem keep_eq (items : List Datum) :
    keep function items = items.mapM function >>= fun values => pure (chosen items values) := by
  induction items with
  | nil => rfl
  | cons item rest ih =>
    rw [keep, ih, List.mapM_cons]
    simp only [bind_assoc, pure_bind, chosen_cons]

variable {around : Surroundings} {values : List Datum}

/-- A map over the items of a list that ends in values maps the first item and then the others. -/
theorem mapM_cons_ok {item : Datum} {rest : List Datum} {world after : World}
    (ran : (item :: rest).mapM function around world = (.ok values, after)) :
    ∃ value others between, values = value :: others ∧
      function item around world = (.ok value, between) ∧
      rest.mapM function around between = (.ok others, after) := by
  rw [List.mapM_cons] at ran
  obtain ⟨value, between, first, ran⟩ := exists_of_bind_ok ran
  obtain ⟨others, last, later, ran⟩ := exists_of_bind_ok ran
  cases ran
  exact ⟨value, others, between, rfl, first, later⟩

theorem length_of_mapM {items : List Datum} {world after : World}
    (ran : items.mapM function around world = (.ok values, after)) :
    values.length = items.length := by
  induction items generalizing values world with
  | nil =>
    cases ran
    rfl
  | cons item rest ih =>
    obtain ⟨value, others, between, rfl, -, later⟩ := mapM_cons_ok ran
    rw [List.length_cons, List.length_cons, ih later]

/-- Where the map over all items ends in values, the search finds the first item that is chosen, and
the index of the first value that counts as true. -/
theorem search_of_mapM {items : List Datum} {world after : World}
    (ran : items.mapM function around world = (.ok values, after)) (start : Nat) :
    ∃ found, (search function start items around world).1 = .ok found ∧
      found.map Prod.snd = (chosen items values).head? ∧
      found.map Prod.fst = (values.findIdx? Datum.isTruthy).map (· + start) := by
  induction items generalizing values world start with
  | nil =>
    cases ran
    exact ⟨none, rfl, rfl, rfl⟩
  | cons item rest ih =>
    obtain ⟨value, others, between, rfl, first, later⟩ := mapM_cons_ok ran
    rw [search, bind_of_ok first, chosen_cons, List.findIdx?_cons]
    cases value.isTruthy with
    | true => exact ⟨some (start, item), rfl, rfl, by simp⟩
    | false =>
      obtain ⟨found, searched, items, places⟩ := ih later (start + 1)
      refine ⟨found, searched, items, places.trans ?_⟩
      simp [Function.comp_def, Nat.add_assoc, Nat.add_comm 1]

end Items

/-! ### Making the function -/

/-- A function place only makes a function or looks one up. -/
theorem keepsScope_place (registry : Registry) (levels : Nat) {expression : Datum}
    (isPlace : isFunctionPlace expression = true) :
    KeepsScope (evaluateFor registry levels expression) := by
  cases levels with
  | zero => exact fun _ _ => rfl
  | succ levels =>
    unfold isFunctionPlace at isPlace
    split at isPlace
    · exact fun _ _ => rfl
    · next mark head operands =>
      have found : Form.ofName? head = some .lambda := by simpa [Form.isLambdaName] using isPlace
      rw [evaluateFor, step, list, found]
      cases operands with
      | nil => exact fun _ _ => rfl
      | cons params body =>
        have named : KeepsScope (parameterNames "lambda" params) :=
          (steady_parameterNames "lambda" params).scope_eq
        exact named.bind fun names _ _ => rfl
    · cases isPlace

theorem keepsScope_itemFunction (registry : Registry) (levels : Nat) (expression : Datum) :
    KeepsScope (itemFunction (evaluateFor registry levels) expression) := by
  unfold itemFunction
  split
  · next isPlace =>
    apply (keepsScope_place registry levels isPlace).bind
    intro value
    split
    · exact fun _ _ => rfl
    · exact fun _ _ => rfl
  · exact fun _ _ => rfl

/-! ### The five forms -/

section Forms

variable (registry : Registry) {around : Surroundings} {depth : Nat}

theorem evaluateAt_call (reached : depth < Evaluator.levels around) (found : Form)
    (operands : List Datum) :
    evaluateAt registry around depth (found.call operands) =
      form (evaluateAt registry around (depth + 1)) found operands := by
  rw [evaluateAt_eq_step reached, Form.call, step, list, Form.ofName?_name]

variable {world : World} {xs : String} {mark : Option Mark} {items : List Datum}
  (within : depth + 1 < Evaluator.levels around)
  (listed : Table.get? world.scope xs = some (.list mark items)) (predicate : Datum)
  {β : Type} (name : String) (next : (Datum → Eval Datum) → List Datum → Eval β)

include within listed

/-- A form that makes the function first finds the same list behind it. -/
theorem run_functionFirst :
    (itemFunction (evaluateAt registry around (depth + 1)) predicate >>= fun function =>
        evaluateAt registry around (depth + 1) (.symbol xs) >>= fun value =>
          expectList name value >>= next function) around world =
      (itemFunction (evaluateAt registry around (depth + 1)) predicate >>= fun function =>
        next function items) around world := by
  have kept := keepsScope_itemFunction registry (Evaluator.levels around - (depth + 1)) predicate
    around world
  apply bind_congr_run rfl
  intro function
  exact bind_of_ok (evaluateAt_symbol within (kept ▸ listed))

/-- A form that evaluates the list first makes the function in the same world. -/
theorem run_listFirst :
    (evaluateAt registry around (depth + 1) (.symbol xs) >>= fun value =>
        expectList name value >>= fun found =>
          itemFunction (evaluateAt registry around (depth + 1)) predicate >>= fun function =>
            next function found) around world =
      (itemFunction (evaluateAt registry around (depth + 1)) predicate >>= fun function =>
        next function items) around world :=
  bind_of_ok (evaluateAt_symbol within listed)

/-- `(filter predicate xs)` -/
theorem run_filter :
    evaluateAt registry around depth (Form.filter.call [predicate, .symbol xs]) around world =
      (itemFunction (evaluateAt registry around (depth + 1)) predicate >>= fun function =>
        keep function items >>= newList) around world := by
  rw [evaluateAt_call registry (Nat.lt_of_succ_lt within)]
  exact run_functionFirst registry within listed predicate "filter" _

/-- `(map predicate xs)` -/
theorem run_map :
    evaluateAt registry around depth (Form.map.call [predicate, .symbol xs]) around world =
      (itemFunction (evaluateAt registry around (depth + 1)) predicate >>= fun function =>
        items.mapM function >>= newList) around world := by
  rw [evaluateAt_call registry (Nat.lt_of_succ_lt within)]
  exact run_functionFirst registry within listed predicate "map" _

/-- `(count xs predicate)` -/
theorem run_count :
    evaluateAt registry around depth (Form.count.call [.symbol xs, predicate]) around world =
      (itemFunction (evaluateAt registry around (depth + 1)) predicate >>= fun function =>
        keep function items >>= fun kept => pure (.int kept.length)) around world := by
  rw [evaluateAt_call registry (Nat.lt_of_succ_lt within)]
  exact run_listFirst registry within listed predicate "count" _

/-- `(find xs predicate)` -/
theorem run_find :
    evaluateAt registry around depth (Form.find.call [.symbol xs, predicate]) around world =
      (itemFunction (evaluateAt registry around (depth + 1)) predicate >>= fun function =>
        search function 0 items >>= fun found =>
          pure ((found.map Prod.snd).getD .nil)) around world := by
  rw [evaluateAt_call registry (Nat.lt_of_succ_lt within)]
  refine (run_listFirst registry within listed predicate "find" _).trans ?_
  apply bind_congr_run rfl
  intro function
  apply bind_congr_run rfl
  rintro (_ | found) <;> rfl

/-- `(find-index xs predicate)` -/
theorem run_findIndex :
    evaluateAt registry around depth (Form.findIndex.call [.symbol xs, predicate]) around world =
      (itemFunction (evaluateAt registry around (depth + 1)) predicate >>= fun function =>
        search function 0 items >>= fun found =>
          pure (.int ((found.map Prod.fst).elim (-1) Int.ofNat))) around world := by
  rw [evaluateAt_call registry (Nat.lt_of_succ_lt within)]
  refine (run_listFirst registry within listed predicate "find-index" _).trans ?_
  apply bind_congr_run rfl
  intro function
  apply bind_congr_run rfl
  rintro (_ | found) <;> rfl

end Forms

/-- At the limit, where neither a function nor a list can be evaluated, a form that needs both is too
deep. -/
theorem evaluateAt_call_tooDeep (registry : Registry) {around : Surroundings} {depth : Nat}
    (beyond : Evaluator.levels around ≤ depth + 1) (xs : String) (predicate : Datum) (world : World)
    (call : Datum) (among : call ∈ [Form.filter.call [predicate, .symbol xs],
      Form.map.call [predicate, .symbol xs], Form.count.call [.symbol xs, predicate]]) :
    (evaluateAt registry around depth call around world).1 = .error around.tooDeep := by
  by_cases reached : depth < Evaluator.levels around
  case neg => rw [evaluateAt_eq_tooDeep (Nat.le_of_not_lt reached)]
  have failed (part : Datum) : evaluateAt registry around (depth + 1) part around world =
      (.error around.tooDeep, world) := evaluateAt_eq_tooDeep beyond part world
  -- An expression is not evaluated before the items are there, so the list is the first to fail.
  have functionFirst (next : (Datum → Eval Datum) → List Datum → Eval Datum) (name : String) :
      ((itemFunction (evaluateAt registry around (depth + 1)) predicate >>= fun function =>
        evaluateAt registry around (depth + 1) (.symbol xs) >>= fun value =>
          expectList name value >>= next function) around world).1 = .error around.tooDeep := by
    unfold itemFunction
    split
    · rw [bind_assoc, bind_of_error (failed predicate)]
    · rw [pure_bind, bind_of_error (failed (.symbol xs))]
  simp only [List.mem_cons, List.not_mem_nil, or_false] at among
  rcases among with rfl | rfl | rfl
  · rw [evaluateAt_call registry reached]
    exact functionFirst _ "filter"
  · rw [evaluateAt_call registry reached]
    exact functionFirst _ "map"
  · rw [evaluateAt_call registry reached]
    exact congrArg Prod.fst (bind_of_error (failed (.symbol xs)))

/-- With one predicate on one list, the forms that go through all items end alike.  If they do not
fail, the kept items are those whose mapped values count as true, as many as are counted; the first
of them is found, and the least index of such a value, or nothing if none is kept.  That is so for
every predicate, whether a function is made or looked up or an expression is evaluated for each item,
in every environment and at every depth and limit. -/
theorem predicate_forms_agree (registry : Registry) (around : Surroundings) (depth : Nat)
    {world : World} {xs : String} {mark : Option Mark} {items : List Datum}
    (listed : Table.get? world.scope xs = some (.list mark items)) (predicate : Datum) :
    let run (form : Form) (operands : List Datum) :=
      (evaluateAt registry around depth (form.call operands) around world).1
    (∃ error, run .filter [predicate, .symbol xs] = .error error ∧
      run .map [predicate, .symbol xs] = .error error ∧
      run .count [.symbol xs, predicate] = .error error) ∨
    ∃ values kept, values.length = items.length ∧ kept = chosen items values ∧
      (∃ mark, run .map [predicate, .symbol xs] = .ok (.list mark values)) ∧
      (∃ mark, run .filter [predicate, .symbol xs] = .ok (.list mark kept)) ∧
      run .count [.symbol xs, predicate] = .ok (.int kept.length) ∧
      run .find [.symbol xs, predicate] = .ok (kept.head?.getD .nil) ∧
      (kept = [] → run .findIndex [.symbol xs, predicate] = .ok (.int (-1))) ∧
      (kept ≠ [] → ∃ place : Nat, ∃ value,
        run .findIndex [.symbol xs, predicate] = .ok (.int place) ∧
        values[place]? = some value ∧ value.isTruthy = true ∧
        ∀ earlier < place, ∀ other, values[earlier]? = some other → other.isTruthy = false) := by
  intro run
  by_cases within : depth + 1 < Evaluator.levels around
  case neg =>
    have failed := evaluateAt_call_tooDeep registry (Nat.le_of_not_lt within) xs predicate world
    exact .inl ⟨_, failed _ (by simp), failed _ (by simp), failed _ (by simp)⟩
  simp only [run, run_filter registry within listed, run_map registry within listed,
    run_count registry within listed, run_find registry within listed,
    run_findIndex registry within listed, keep_eq, bind_assoc, pure_bind]
  simp only [bind_apply]
  cases itemFunction (evaluateAt registry around (depth + 1)) predicate around world with
  | mk made between =>
    cases made with
    | error error => exact .inl ⟨error, rfl, rfl, rfl⟩
    | ok function =>
      dsimp only
      cases ran : items.mapM function around between with
      | mk outcome after =>
        cases outcome with
        | error error => exact .inl ⟨error, rfl, rfl, rfl⟩
        | ok values =>
          right
          obtain ⟨found, searched, first, place⟩ := search_of_mapM ran 0
          generalize search function 0 items around between = ended at searched ⊢
          obtain ⟨outcome, last⟩ := ended
          obtain rfl : outcome = .ok found := searched
          refine ⟨values, chosen items values, length_of_mapM ran, rfl, ⟨_, rfl⟩, ⟨_, rfl⟩, rfl,
            ?_, fun empty => ?_, fun some => ?_⟩
          · rw [← first]
            rfl
          · rw [empty] at first
            rw [Option.map_eq_none_iff.mp first]
            rfl
          · cases found with
            | none => exact absurd (List.head?_eq_none_iff.mp first.symm) some
            | some entry =>
              have least := List.findIdx?_eq_some_iff_getElem.mp (by simpa using place.symm)
              obtain ⟨inside, truthy, before⟩ := least
              refine ⟨entry.1, values[entry.1], rfl, List.getElem?_eq_getElem inside, truthy, ?_⟩
              intro earlier below other there
              obtain ⟨_, rfl⟩ := List.getElem?_eq_some_iff.mp there
              exact Bool.eq_false_iff.mpr (before earlier below)

/-- `(if @ "yes" it)` -/
def yesOrItem : Datum :=
  .list none [.symbol "if", .symbol "@", .string "yes", .symbol "it"]

/-- A world that binds `xs` to `(nil 1 false 1)`. -/
def selectingWorld : World :=
  .ofScope [("xs", .list (some 0) [.nil, .int 1, .bool false, .int 1])] 1

/-- The expression is evaluated for each item, and the one is kept both times. -/
theorem predicate_forms_agree_inline :
    let run (form : Form) (operands : List Datum) :=
      (evaluateAt .default (.limited (.int 0) 5) 0 (form.call operands) (.limited (.int 0) 5)
        selectingWorld).1
    (∃ mark, run .map [yesOrItem, .symbol "xs"] =
        .ok (.list mark [.nil, .string "yes", .bool false, .string "yes"])) ∧
      (∃ mark, run .filter [yesOrItem, .symbol "xs"] = .ok (.list mark [.int 1, .int 1])) ∧
      run .count [.symbol "xs", yesOrItem] = .ok (.int 2) ∧
      run .find [.symbol "xs", yesOrItem] = .ok (.int 1) ∧
      ∃ place : Nat, run .findIndex [.symbol "xs", yesOrItem] = .ok (.int place) := by
  intro run
  have listed : Table.get? selectingWorld.scope "xs" =
      some (.list (some 0) [.nil, .int 1, .bool false, .int 1]) := rfl
  have value : run .map [yesOrItem, .symbol "xs"] =
      .ok (.list (some 1) [.nil, .string "yes", .bool false, .string "yes"]) := rfl
  obtain ⟨error, -, failed, -⟩ | ⟨values, kept, -, rfl, ⟨mark, mapped⟩, filtered, counted, found,
    -, least⟩ := predicate_forms_agree .default (.limited (.int 0) 5) 0 listed yesOrItem
  · cases value.symm.trans failed
  · cases value.symm.trans mapped
    obtain ⟨place, -, index, -⟩ := least nofun
    exact ⟨⟨_, mapped⟩, filtered, counted, found, place, index⟩

end Eval

end SandboxLisp
