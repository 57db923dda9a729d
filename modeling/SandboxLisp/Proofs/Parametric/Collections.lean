import SandboxLisp.Proofs.Parametric.Scalars
import SandboxLisp.Registry

/-!
# Primitives for lists and objects

These primitives take like data apart and put the parts into new data, which are alike because the
marks that they carry are drawn by both runs at the same moment.  With them every default primitive
is accounted for: `parametric_of_get?` says of the whole registry that it is parametric.
-/

namespace SandboxLisp.Primitive

open Eval

variable {view : View}

/-! ### Lists -/

section Items

variable {pairing : Pairing} {items items' : List Datum}

theorem getElem?_alike (alike : ItemsAlike view pairing items items') (index : Nat) :
    BindingsAlike view pairing items[index]? items'[index]? := by
  induction items generalizing items' index with
  | nil =>
    cases alike
    exact .none
  | cons item rest ih =>
    cases alike with
    | cons first others =>
      cases index with
      | zero => exact .some first
      | succ index => exact ih others index

theorem getD_alike {found found' : Option Datum} (alike : BindingsAlike view pairing found found') :
    Alike view pairing (found.getD .nil) (found'.getD .nil) := by
  cases alike with
  | none => exact .nil
  | some alike => exact alike

theorem append_alike {others others' : List Datum} (alike : ItemsAlike view pairing items items')
    (behind : ItemsAlike view pairing others others') :
    ItemsAlike view pairing (items ++ others) (items' ++ others') :=
  itemsAlike_iff.mpr (List.rel_append (itemsAlike_iff.mp alike) (itemsAlike_iff.mp behind))

theorem reverse_alike (alike : ItemsAlike view pairing items items') :
    ItemsAlike view pairing items.reverse items'.reverse :=
  itemsAlike_iff.mpr (List.forall₂_reverse_iff.mpr (itemsAlike_iff.mp alike))

theorem drop_alike (alike : ItemsAlike view pairing items items') (count : Nat) :
    ItemsAlike view pairing (items.drop count) (items'.drop count) :=
  itemsAlike_iff.mpr (List.forall₂_drop count (itemsAlike_iff.mp alike))

theorem take_alike (alike : ItemsAlike view pairing items items') (count : Nat) :
    ItemsAlike view pairing (items.take count) (items'.take count) :=
  itemsAlike_iff.mpr (List.forall₂_take count (itemsAlike_iff.mp alike))

theorem itemAt?_alike (alike : ItemsAlike view pairing items items') (index : Int) :
    BindingsAlike view pairing (itemAt? items index) (itemAt? items' index) := by
  unfold itemAt?
  split
  · exact .none
  · exact getElem?_alike alike index.toNat

end Items

theorem converts_steps (finish step : Number) (bound : Nat) (current : Number)
    (before : List Number) : Converts (steps bound finish step current before) := by
  induction bound generalizing current before with
  | zero =>
    unfold steps
    extract_lets goesOn
    split
    · exact rfl
    · trivial
  | succ bound ih =>
    unfold steps
    extract_lets goesOn
    split
    · apply (Number.converts_add _ _).bind
      intro next
      split
      · exact rfl
      · exact ih next _
    · trivial

theorem parametric_range : Parametric view range := by
  apply parametric_oneToThree
  intro pairing names first first' second second' third third' one another last
  extract_lets goOn goOn'
  have goesOn (bounds : Number × Number) :
      RunAlike view pairing names (Alike view) (goOn bounds) (goOn' bounds) := by
    obtain ⟨start, finish⟩ := bounds
    unfold goOn goOn'
    dsimp only
    have lists (step : Number) : RunAlike view pairing names (Alike view)
        (ofNumber (progression start finish step) >>= fun numbers =>
          numbers.mapM number >>= newList)
        (ofNumber (progression start finish step) >>= fun numbers =>
          numbers.mapM number >>= newList) := by
      apply RunAlike.bindSame (.plain (.ofNumber (converts_steps _ _ _ _ _)))
      intro numbers
      apply (RunAlike.mapM (List.forall₂_same.mpr fun _ _ => rfl) (grows_alike view) _).bind
      · intro later grows items items' alike
        exact .newList (itemsAlike_iff.mpr alike)
      · rintro later grows value _ rfl
        exact .number value
    cases last with
    | none => exact lists _
    | some given => exact ((asks_expectNumber view "range").runAlike given).bindSame lists
  cases another with
  | none =>
    apply ((asks_expectNumber view "range").runAlike one).bindSame
    intro finish
    exact goesOn (.int 0, finish)
  | some given =>
    apply ((asks_expectNumber view "range").runAlike one).bindSame
    intro start
    apply ((asks_expectNumber view "range").runAlike given).bindSame
    intro finish
    exact goesOn (start, finish)

theorem parametric_slice : Parametric view slice := by
  apply parametric_oneToThree
  intro pairing names list list' start start' stop stop' alike startAlike stopAlike
  apply (RunAlike.expectList "slice" alike).bind
  intro later grows items items' parts
  rw [parts.length_eq]
  extract_lets goOn goOn'
  have goesOn (first : Nat) :
      RunAlike view later names (Alike view) (goOn first) (goOn' first) := by
    unfold goOn goOn'
    extract_lets cutOut cutOut'
    have cuts (last : Nat) : RunAlike view later names (Alike view) (cutOut last) (cutOut' last) :=
      .newList (take_alike (drop_alike parts first) _)
    have givenAlike := given?_alike (stopAlike.mono grows)
    generalize given? stop = given, given? stop' = given' at givenAlike ⊢
    cases givenAlike with
    | none => exact cuts _
    | some given =>
      apply RunAlike.bindSame _ cuts
      exact ((asks_expectInteger view "slice").runAlike given).mapSame fun _ _ _ => rfl
  have givenAlike := given?_alike (startAlike.mono grows)
  generalize given? start = given, given? start' = given' at givenAlike ⊢
  cases givenAlike with
  | none => exact goesOn _
  | some given =>
    apply RunAlike.bindSame _ goesOn
    exact ((asks_expectInteger view "slice").runAlike given).mapSame fun _ _ _ => rfl

theorem indexAmong_alike {pairing : Pairing} {names : String → Prop} {needle needle' : Datum}
    (wanted : Alike view pairing needle needle') {items items' : List Datum}
    (alike : ItemsAlike view pairing items items') (index : Nat) :
    RunAlike view pairing names Same (indexAmong needle index items)
      (indexAmong needle' index items') := by
  induction items generalizing items' index with
  | nil =>
    cases alike
    exact .pure fun _ _ => rfl
  | cons item rest ih =>
    cases alike with
    | cons first others =>
      apply (RunAlike.equal first wanted).bindSame
      intro found
      split
      · exact .pure fun _ _ => rfl
      · exact ih others (index + 1)

theorem indexIn_alike {pairing : Pairing} {names : String → Prop}
    {haystack haystack' needle needle' : Datum} (alike : Alike view pairing haystack haystack')
    (wanted : Alike view pairing needle needle') :
    RunAlike view pairing names Same (indexIn haystack needle) (indexIn haystack' needle') := by
  have reported := expectedError_eq alike "index-of" .list
  unfold indexIn
  cases alike with
  | string text => cases wanted <;> exact .pure fun _ _ => rfl
  | list _ parts => exact indexAmong_alike wanted parts 0
  | _ =>
    dsimp only
    rw [reported]
    exact .fail trivial

theorem parametric_lists : ∀ entry ∈ lists, Parametric view entry.2 := by
  have list : Parametric view list := parametric_variadic fun alike => .newList alike
  have length : Parametric view length := by
    apply parametric_unary
    intro pairing names argument argument' alike
    have reported := expectedError_eq alike "length" .listOrString
    cases alike with
    | list _ parts =>
      dsimp only
      rw [parts.length_eq]
      exact .pure fun _ _ => .int _
    | string _ => exact .pure fun _ _ => .int _
    | _ =>
      dsimp only
      rw [reported]
      exact .fail trivial
  have isEmpty : Parametric view isEmpty := by
    apply parametric_unary
    intro pairing names argument argument' alike
    have reported := expectedError_eq alike "empty?" .listOrString
    cases alike with
    | list _ parts => cases parts <;> exact .pure fun _ _ => .bool _
    | string _ => exact .pure fun _ _ => .bool _
    | _ =>
      dsimp only
      rw [reported]
      exact .fail trivial
  have first : Parametric view first := by
    apply parametric_unary
    intro pairing names argument argument' alike
    apply (RunAlike.expectList "first" alike).map
    intro later grows items items' parts last further
    cases parts with
    | nil => exact .nil
    | cons one _ => exact one.mono further
  have last : Parametric view last := by
    apply parametric_unary
    intro pairing names argument argument' alike
    apply (RunAlike.expectList "last" alike).map
    intro later grows items items' parts last further
    have turned := reverse_alike parts
    rw [← List.head?_reverse, ← List.head?_reverse]
    generalize items.reverse = items, items'.reverse = items' at turned ⊢
    cases turned with
    | nil => exact .nil
    | cons one _ => exact one.mono further
  have rest : Parametric view rest := by
    apply parametric_unary
    intro pairing names argument argument' alike
    apply (RunAlike.expectList "rest" alike).bind
    intro later grows items items' parts
    exact .newList (drop_alike parts 1)
  have reverse : Parametric view reverse := by
    apply parametric_unary
    intro pairing names argument argument' alike
    apply (RunAlike.expectList "reverse" alike).bind
    intro later grows items items' parts
    exact .newList (reverse_alike parts)
  have append : Parametric view append := by
    apply parametric_binary
    intro pairing names list list' item item' alike added
    apply (RunAlike.expectList "append" alike).bind
    intro later grows items items' parts
    exact .newList (append_alike parts (.cons (added.mono grows) .nil))
  have prepend : Parametric view prepend := by
    apply parametric_binary
    intro pairing names list list' item item' alike added
    apply (RunAlike.expectList "prepend" alike).bind
    intro later grows items items' parts
    exact .newList (.cons (added.mono grows) parts)
  have nth : Parametric view nth := by
    apply parametric_binary
    intro pairing names list list' index index' alike indexAlike
    apply (RunAlike.expectList "nth" alike).bind
    intro later grows items items' parts
    apply ((asks_expectInteger view "nth").runAlike (indexAlike.mono grows)).mapSame
    intro last further place
    exact getD_alike (itemAt?_alike (parts.mono further) place)
  have concatLists : Parametric view concatLists := by
    apply parametric_variadic
    intro pairing names arguments arguments' alike
    have lists : RunAlike view pairing names (fun last => List.Forall₂ (ItemsAlike view last))
        (arguments.mapM (expectList "concat-lists"))
        (arguments'.mapM (expectList "concat-lists")) := by
      apply RunAlike.mapM (itemsAlike_iff.mp alike)
      · intro earlier later grows items items' parts
        exact parts.mono grows
      · intro later grows argument argument' alike
        exact .expectList "concat-lists" (alike.mono grows)
    apply lists.bind
    intro later grows parts parts' alike
    have items := alike.imp fun _ _ => itemsAlike_iff.mp
    exact .newList (itemsAlike_iff.mpr (List.rel_flatten items))
  have contains : Parametric view contains := by
    apply parametric_binary
    intro pairing names haystack haystack' needle needle' alike wanted
    exact (indexIn_alike alike wanted).mapSame fun _ _ _ => .bool _
  have indexOf : Parametric view indexOf := by
    apply parametric_binary
    intro pairing names haystack haystack' needle needle' alike wanted
    apply (indexIn_alike alike wanted).bindSame
    intro found
    cases found <;> exact .pure fun _ _ => .int _
  simp [lists, list, length, first, rest, last, nth, append, prepend, concatLists,
    parametric_slice, reverse, parametric_range, isEmpty, contains, indexOf]

/-! ### Objects -/

theorem writePairs_alike {pairing : Pairing} {names : String → Prop} :
    (pairs pairs' : List Datum) → ItemsAlike view pairing pairs pairs' →
    (fields fields' : List (String × Datum)) → FieldsAlike view pairing fields fields' →
      RunAlike view pairing names (FieldsAlike view) (writePairs fields pairs)
        (writePairs fields' pairs')
  | [], _, .nil, _, _, written => .pure fun _ grows => written.mono grows
  | [_], _, .cons key .nil, _, _, written => by
      apply ((asks_keyOf view).runAlike key).mapSame
      intro later grows name
      exact (written.mono grows).put name .nil
  | _ :: _ :: rest, _, .cons key (.cons value others), fields, fields', written => by
      apply ((asks_keyOf view).runAlike key).bindSame
      intro name
      exact writePairs_alike rest _ others _ _ (written.put name value)

theorem follow_alike {pairing : Pairing} {names : String → Prop}
    {current current' key key' : Datum}
    (alike : Alike view pairing current current') (keyAlike : Alike view pairing key key') :
    RunAlike view pairing names (Alike view) (follow current key) (follow current' key') := by
  unfold follow
  cases alike with
  | object _ parts =>
    apply ((asks_keyOf view).runAlike keyAlike).mapSame
    intro later grows name
    exact getD_alike ((parts.mono grows).get? name)
  | list _ parts =>
    apply RunAlike.pure
    intro later grows
    rw [keyAlike.number?_eq]
    split
    · exact getD_alike (itemAt?_alike (parts.mono grows) _)
    · exact .nil
  | string characters =>
    dsimp only
    rw [keyAlike.number?_eq]
    apply RunAlike.pure
    intro later grows
    split
    · cases itemAt? characters.toList _ with
      | none => exact .nil
      | some found => exact .string _
    · exact .nil
  | _ => exact .pure fun _ _ => .nil

theorem followAll_alike {pairing : Pairing} {names : String → Prop} {keys keys' : List Datum}
    (alike : ItemsAlike view pairing keys keys') {current current' : Datum}
    (reached : Alike view pairing current current') :
    RunAlike view pairing names (Alike view) (followAll current keys)
      (followAll current' keys') := by
  induction keys generalizing pairing keys' current current' with
  | nil =>
    cases alike
    exact .pure fun _ grows => reached.mono grows
  | cons key rest ih =>
    cases alike with
    | @cons _ key' _ rest' first others =>
      have goesOn : RunAlike view pairing names (Alike view)
          (follow current key >>= fun found => followAll found rest)
          (follow current' key' >>= fun found => followAll found rest') := by
        apply (follow_alike reached first).bind
        intro later grows found found' alike
        exact ih (others.mono grows) alike
      cases reached with
      | nil => exact .pure fun _ _ => .nil
      | _ => exact goesOn

theorem mergeAll_alike {pairing : Pairing} {names : String → Prop} {objects objects' : List Datum}
    (alike : ItemsAlike view pairing objects objects') {fields fields' : List (String × Datum)}
    (written : FieldsAlike view pairing fields fields') :
    RunAlike view pairing names (FieldsAlike view) (mergeAll fields objects)
      (mergeAll fields' objects') := by
  induction objects generalizing pairing objects' fields fields' with
  | nil =>
    cases alike
    exact .pure fun _ grows => written.mono grows
  | cons argument rest ih =>
    cases alike with
    | @cons _ argument' _ rest' first others =>
      have goesOn : RunAlike view pairing names (FieldsAlike view)
          (expectObject "merge" argument >>= fun more => mergeAll (Table.putAll fields more) rest)
          (expectObject "merge" argument' >>= fun more =>
            mergeAll (Table.putAll fields' more) rest') := by
        apply (expectObject_alike _ "merge" first).bind
        intro later grows more more' parts
        exact ih (others.mono grows) ((written.mono grows).putAll parts)
      cases first with
      | nil => exact ih others written
      | _ => exact goesOn

theorem parametric_set : Parametric view set := by
  apply parametric_ternary
  intro pairing names target target' key key' value value' alike keyAlike valueAlike
  extract_lets goOn goOn'
  have goesOn (later : Pairing) (grows : pairing ≤ later) (fields fields' : List (String × Datum))
      (written : FieldsAlike view later fields fields') :
      RunAlike view later names (Alike view) (goOn fields) (goOn' fields') := by
    apply ((asks_keyOf view).runAlike (keyAlike.mono grows)).bindSame
    intro name
    exact .newObject (written.put name (valueAlike.mono grows))
  have fieldsOf := (expectObject_alike names "set" alike).bind goesOn
  cases alike with
  | nil => exact goesOn pairing (le_refl pairing) [] [] .nil
  | _ => exact fieldsOf

theorem writeAt_alike {pairing : Pairing} {items items' : List Datum} {item item' : Datum}
    (alike : ItemsAlike view pairing items items') (index : Nat)
    (written : Alike view pairing item item') :
    ItemsAlike view pairing (writeAt items index item) (writeAt items' index item') := by
  unfold writeAt
  rw [alike.length_eq]
  split
  · next within =>
    rw [List.set_eq_take_append_cons_drop, List.set_eq_take_append_cons_drop, alike.length_eq,
      if_pos within, if_pos within]
    exact append_alike (take_alike alike index) (.cons written (drop_alike alike (index + 1)))
  · have filled : ItemsAlike view pairing (List.replicate (index - items'.length) .nil)
        (List.replicate (index - items'.length) .nil) := by
      apply itemsAlike_iff.mpr
      apply List.forall₂_same.mpr
      intro item mem
      rw [List.eq_of_mem_replicate mem]
      exact .nil
    exact append_alike (append_alike alike filled) (.cons written .nil)

theorem parametric_updateAt : Parametric view updateAt := by
  apply parametric_ternary
  intro pairing names list list' index index' item item' alike indexAlike written
  apply (RunAlike.expectList "update-at" alike).bind
  intro later grows items items' parts
  apply ((asks_expectInteger view "update-at").runAlike (indexAlike.mono grows)).bindSame
  intro place
  rw [parts.length_eq]
  split
  · split
    · exact .fail trivial
    · exact .fail rfl
  · split
    · exact .fail rfl
    · split
      · exact .fail rfl
      · exact .newList (writeAt_alike parts _ (written.mono grows))

theorem keys_alike {pairing : Pairing} {fields fields' : List (String × Datum)}
    (alike : FieldsAlike view pairing fields fields') :
    ItemsAlike view pairing (fields.map fun field => .string field.1)
      (fields'.map fun field => .string field.1) := by
  induction fields generalizing fields' with
  | nil =>
    cases alike
    exact .nil
  | cons field rest ih =>
    cases alike with
    | cons key one others => exact .cons (.string key) (ih others)

theorem parametric_objects : ∀ entry ∈ objects, Parametric view entry.2 := by
  have object : Parametric view object := by
    apply parametric_variadic
    intro pairing names arguments arguments' alike
    apply (writePairs_alike _ _ alike [] [] .nil).bind
    intro later grows fields fields' written
    exact .newObject written
  have get : Parametric view get := parametric_atLeastOne fun alike others =>
    followAll_alike others alike
  have keys : Parametric view keys := by
    apply parametric_unary
    intro pairing names argument argument' alike
    apply (expectObject_alike _ "keys" alike).bind
    intro later grows fields fields' parts
    exact .newList (keys_alike parts)
  have values : Parametric view values := by
    apply parametric_unary
    intro pairing names argument argument' alike
    apply (expectObject_alike _ "values" alike).bind
    intro later grows fields fields' parts
    exact .newList parts.values
  have hasKey : Parametric view hasKey := by
    apply parametric_binary
    intro pairing names target target' key key' alike keyAlike
    apply ((asks_keyOf view).runAlike keyAlike).bindSame
    intro name
    apply (expectObject_alike _ "has-key" alike).map
    intro later grows fields fields' parts last further
    rw [parts.has_eq]
    exact .bool _
  have merge : Parametric view merge := by
    apply parametric_variadic
    intro pairing names arguments arguments' alike
    apply (mergeAll_alike alike .nil).bind
    intro later grows fields fields' written
    exact .newObject written
  simp [objects, object, get, parametric_set, keys, values, hasKey, parametric_updateAt, merge]

end SandboxLisp.Primitive

namespace SandboxLisp

/-- Every default primitive is parametric. -/
theorem Registry.parametric_of_get? {view : View} {name : String} {primitive : Primitive}
    (found : Registry.default.get? name = some primitive) : primitive.Parametric view :=
  forall_mem_defaultPrimitives Primitive.parametric_arithmetic Primitive.parametric_comparison
    Primitive.parametric_logic Primitive.parametric_strings Primitive.parametric_lists
    Primitive.parametric_objects Primitive.parametric_mathematics Primitive.parametric_predicates
    Primitive.parametric_ambient _ (Table.mem_of_get? found)

end SandboxLisp
