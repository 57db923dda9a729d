import SandboxLisp.Primitive.Objects
import SandboxLisp.Proofs.Data.Sameness
import SandboxLisp.Proofs.Data.Tables
import SandboxLisp.Proofs.Evaluation.CallPaths

/-!
# Objects as maps with an order

The object primitives are said here to do what the operations on tables do: a call in any world
returns a value, or makes an object or a list and draws one mark for it.  A key counts only by the
name that it stands for, so different keys may lead to one field.

The main statement puts the laws together: what `get`, `has-key` and `keys` see behind a `set`, how
`keys` and `values` go together, that `obj` is one `set` after another, and that `merge` is
associative in values and order, with nil and the empty object as identities.
-/

namespace SandboxLisp

/-- A datum stands for a name as a key: a string for itself, and anything else for its display
text. -/
def Surroundings.Names (around : Surroundings) (key : Datum) (name : String) : Prop :=
  around.text .display key = .ok name

/-- A datum that counts as a table without a repeated name: an object, or nil as the empty one. -/
inductive Datum.Tabulates : Datum → List (String × Datum) → Prop where
  | nil : Tabulates .nil []
  | object (mark : Mark) {fields : List (String × Datum)} (distinct : (Table.names fields).Nodup) :
      Tabulates (.object mark fields) fields

theorem Datum.Tabulates.distinct {datum : Datum} {fields : List (String × Datum)}
    (tabulates : datum.Tabulates fields) : (Table.names fields).Nodup := by
  cases tabulates with
  | nil => exact .nil
  | object _ distinct => exact distinct

namespace Primitive

open Eval

/-! ### Calls -/

section Calls

variable (around : Surroundings) (primitive : Primitive) (arguments : List Datum)

/-- A call of a primitive returns a value and changes nothing, in any world. -/
def Returns (value : Datum) : Prop :=
  ∀ recur world, primitive recur arguments around world = (.ok value, world)

/-- A call of a primitive makes an object with the given fields and changes nothing else, in any
world. -/
def MakesObject (fields : List (String × Datum)) : Prop :=
  ∀ recur world, primitive recur arguments around world =
    (.ok (.object world.nextMark fields), { world with nextMark := world.nextMark + 1 })

/-- A call of a primitive makes a list of the given items and changes nothing else, in any world. -/
def MakesList (items : List Datum) : Prop :=
  ∀ recur world, primitive recur arguments around world =
    (.ok (.list (some world.nextMark) items), { world with nextMark := world.nextMark + 1 })

end Calls

section Keys

variable {around : Surroundings} {key : Datum} {name : String}

/-- A key is turned into its name, and nothing else happens. -/
theorem keyOf_run (names : around.Names key name) (world : World) :
    keyOf key around world = (.ok name, world) := by
  have asked : text .display key around world =
      ofExcept (around.text .display key) around world := rfl
  have shown : text .display key around world = (.ok name, world) := by
    rw [asked, names]
    rfl
  cases key with
  | string text =>
    cases names
    rfl
  | _ => exact shown

variable (names : around.Names key name) (mark : Mark) (fields : List (String × Datum))

include names

theorem get_returns :
    Returns around get [.object mark fields, key] ((Table.get? fields name).getD .nil) := by
  intro recur world
  have follows : follow (.object mark fields) key around world =
      (.ok ((Table.get? fields name).getD .nil), world) := bind_of_ok (keyOf_run names world)
  exact bind_of_ok follows

theorem hasKey_returns :
    Returns around hasKey [.object mark fields, key] (.bool (Table.has fields name)) :=
  fun _ world => bind_of_ok (keyOf_run names world)

theorem set_makes (value : Datum) :
    MakesObject around set [.object mark fields, key, value] (Table.put fields name value) :=
  fun _ world => bind_of_ok (keyOf_run names world)

end Keys

theorem keys_makes (around : Surroundings) (mark : Mark) (fields : List (String × Datum)) :
    MakesList around keys [.object mark fields] ((Table.names fields).map .string) := by
  intro recur world
  rw [Table.names, List.map_map]
  rfl

theorem values_makes (around : Surroundings) (mark : Mark) (fields : List (String × Datum)) :
    MakesList around values [.object mark fields] (fields.map Prod.snd) :=
  fun _ _ => rfl

/-- Writing keys and values by turns is setting one field after another. -/
theorem writePairs_sets {around : Surroundings} {pairs : List (Datum × Datum)}
    (named : ∀ pair ∈ pairs, ∃ name, around.Names pair.1 name) {fields : List (String × Datum)}
    (distinct : (Table.names fields).Nodup) :
    ∃ written, (Table.names written).Nodup ∧
      (∀ world, writePairs fields (pairs.flatMap fun pair => [pair.1, pair.2]) around world =
        (.ok written, world)) ∧
      ∀ recur mark world, ∃ mark' after,
        pairs.foldlM (fun target pair => set recur [target, pair.1, pair.2]) (.object mark fields)
          around world = (.ok (.object mark' written), after) := by
  induction pairs generalizing fields with
  | nil => exact ⟨fields, distinct, fun _ => rfl, fun _ mark world => ⟨mark, world, rfl⟩⟩
  | cons pair rest ih =>
    obtain ⟨⟨name, names⟩, others⟩ := List.forall_mem_cons.mp named
    obtain ⟨written, distinctWritten, writes, sets⟩ :=
      ih others (Table.nodup_names_put distinct name pair.2)
    refine ⟨written, distinctWritten, fun world => ?_, fun recur mark world => ?_⟩
    · exact (bind_of_ok (keyOf_run names world)).trans (writes world)
    · obtain ⟨mark', after, ends⟩ := sets recur world.nextMark _
      refine ⟨mark', after, ?_⟩
      rw [List.foldlM_cons, bind_of_ok (set_makes names mark fields pair.2 recur world)]
      exact ends

/-- The tables of several objects are written one over another. -/
theorem mergeAll_run {arguments : List Datum} {tables : List (List (String × Datum))}
    (tabulated : List.Forall₂ Datum.Tabulates arguments tables) (fields : List (String × Datum))
    (around : Surroundings) (world : World) :
    mergeAll fields arguments around world = (.ok (tables.foldl Table.putAll fields), world) := by
  induction tabulated generalizing fields with
  | nil => rfl
  | cons first _ ih =>
    cases first with
    | nil => exact ih fields
    | object mark distinct => exact ih _

theorem merge_makes (around : Surroundings) {arguments : List Datum}
    {tables : List (List (String × Datum))}
    (tabulated : List.Forall₂ Datum.Tabulates arguments tables) :
    MakesObject around merge arguments (tables.foldl Table.putAll []) :=
  fun _ world => bind_of_ok (mergeAll_run tabulated [] around world)

/-! ### Laws -/

section Laws

variable {around : Surroundings}

/-- Behind a written name every key with that name leads to the value, and any other key leads to
what it led to before. -/
theorem found_put {key : Datum} {name : String} (names : around.Names key name) (mark mark' : Mark)
    (fields : List (String × Datum)) (written : String) (value : Datum) :
    ∃ before had, Returns around get [.object mark fields, key] before ∧
      Returns around get [.object mark' (Table.put fields written value), key]
        (if name = written then value else before) ∧
      Returns around hasKey [.object mark fields, key] (.bool had) ∧
      Returns around hasKey [.object mark' (Table.put fields written value), key]
        (.bool (name = written || had)) := by
  have got := get_returns names mark' (Table.put fields written value)
  have has := hasKey_returns names mark' (Table.put fields written value)
  rw [Table.get?_put] at got
  rw [Table.has, Table.get?_put] at has
  refine ⟨_, _, get_returns names mark fields, ?_, hasKey_returns names mark fields, ?_⟩
  · by_cases same : name = written
    · simpa only [if_pos same, Option.getD_some] using got
    · simpa only [if_neg same] using got
  · by_cases same : name = written
    · simpa [same] using has
    · simpa [same, Table.has] using has

/-- Behind a written name the keys are in the order they were in, and a new one comes last. -/
theorem keys_put {key : Datum} {name : String} (names : around.Names key name) (mark mark' : Mark)
    (fields : List (String × Datum)) (value : Datum) :
    ∃ (known : List String) (had : Bool),
      MakesList around keys [.object mark fields] (known.map .string) ∧
      Returns around hasKey [.object mark fields, key] (.bool had) ∧
      MakesList around keys [.object mark' (Table.put fields name value)]
        ((if had then known else known ++ [name]).map .string) := by
  refine ⟨_, _, keys_makes around mark fields, hasKey_returns names mark fields, ?_⟩
  have found := keys_makes around mark' (Table.put fields name value)
  rw [Table.names_put] at found
  simpa only [Table.has_iff] using found

/-- The keys of an object are distinct, and the value at each place is what the key at that place
leads to. -/
theorem keys_values (around : Surroundings) (mark : Mark) {fields : List (String × Datum)}
    (distinct : (Table.names fields).Nodup) :
    ∃ (known : List String) (items : List Datum),
      MakesList around keys [.object mark fields] (known.map .string) ∧
      MakesList around values [.object mark fields] items ∧
      known.Nodup ∧ known.length = items.length ∧
      ∀ entry ∈ known.zip items,
        Returns around get [.object mark fields, .string entry.1] entry.2 := by
  refine ⟨_, _, keys_makes around mark fields, values_makes around mark fields, distinct, ?_, ?_⟩
  · simp [Table.names]
  · intro entry isEntry
    have isField : entry ∈ fields := by
      rwa [Table.names, List.zip_map', List.map_id''] at isEntry
      exact fun _ => rfl
    have names : around.Names (.string entry.1) entry.1 := rfl
    have found := get_returns names mark fields
    rwa [Table.get?_of_mem distinct isField] at found

/-- An object is made as if its fields were set one after another, from the empty object on. -/
theorem object_sets {pairs : List (Datum × Datum)}
    (named : ∀ pair ∈ pairs, ∃ name, around.Names pair.1 name) :
    ∃ fields, (Table.names fields).Nodup ∧
      MakesObject around object (pairs.flatMap fun pair => [pair.1, pair.2]) fields ∧
      ∀ recur mark world, ∃ mark' after,
        pairs.foldlM (fun target pair => set recur [target, pair.1, pair.2]) (.object mark [])
          around world = (.ok (.object mark' fields), after) := by
  have empty : (Table.names ([] : List (String × Datum))).Nodup := .nil
  obtain ⟨written, distinct, writes, sets⟩ := writePairs_sets named empty
  exact ⟨written, distinct, fun _ world => bind_of_ok (writes world), sets⟩

/-! ### Merging -/

/-- Objects are merged from the left or from the right, with the same fields in the same order. -/
theorem merge_assoc {a b c : Datum} {fields fields' fields'' : List (String × Datum)}
    (one : a.Tabulates fields) (other : b.Tabulates fields') (last : c.Tabulates fields'') :
    ∃ first second all, MakesObject around merge [a, b] first ∧
      MakesObject around merge [b, c] second ∧ MakesObject around merge [a, b, c] all ∧
      ∀ mark, MakesObject around merge [.object mark first, c] all ∧
        MakesObject around merge [a, .object mark second] all := by
  have left := merge_makes around (.cons one (.cons other .nil))
  have right := merge_makes around (.cons other (.cons last .nil))
  have whole := merge_makes around (.cons one (.cons other (.cons last .nil)))
  simp only [List.foldl_cons, List.foldl_nil, Table.putAll_nil_left one.distinct,
    Table.putAll_nil_left other.distinct] at left right whole
  refine ⟨_, _, _, left, right, whole, fun mark => ⟨?_, ?_⟩⟩
  · have distinct := Table.nodup_names_putAll one.distinct fields'
    have made := merge_makes around (.cons (.object mark distinct) (.cons last .nil))
    rwa [List.foldl_cons, List.foldl_cons, Table.putAll_nil_left distinct] at made
  · have distinct := Table.nodup_names_putAll other.distinct fields''
    have made := merge_makes around (.cons one (.cons (.object mark distinct) .nil))
    rwa [List.foldl_cons, List.foldl_cons, Table.putAll_nil_left one.distinct, List.foldl_nil,
      Table.putAll_putAll other.distinct] at made

/-- Nil and the empty object make no difference to what they are merged with. -/
theorem merge_empty {datum empty : Datum} {fields : List (String × Datum)}
    (tabulates : datum.Tabulates fields) (isEmpty : empty.Tabulates []) :
    MakesObject around merge [empty, datum] fields ∧
      MakesObject around merge [datum, empty] fields := by
  have left := merge_makes around (.cons isEmpty (.cons tabulates .nil))
  have right := merge_makes around (.cons tabulates (.cons isEmpty .nil))
  have same : Table.putAll [] fields = fields := Table.putAll_nil_left tabulates.distinct
  exact ⟨same ▸ left, same ▸ right⟩

/-- A key of merged objects leads to the value in the last one that has it. -/
theorem merge_last {arguments : List Datum} {tables : List (List (String × Datum))}
    (tabulated : List.Forall₂ Datum.Tabulates arguments tables) :
    ∃ all, (Table.names all).Nodup ∧ MakesObject around merge arguments all ∧
      ∀ mark key name, around.Names key name →
        Returns around hasKey [.object mark all, key]
          (.bool (tables.reverse.findSome? fun table => Table.get? table name).isSome) ∧
        Returns around get [.object mark all, key]
          ((tables.reverse.findSome? fun table => Table.get? table name).getD .nil) := by
  have distinct : ∀ table ∈ tables, (Table.names table).Nodup := by
    induction tabulated with
    | nil => exact nofun
    | cons first _ ih => exact List.forall_mem_cons.mpr ⟨first.distinct, ih⟩
  have empty : (Table.names ([] : List (String × Datum))).Nodup := .nil
  refine ⟨_, Table.nodup_names_foldl_putAll tables empty, merge_makes around tabulated, ?_⟩
  intro mark key name names
  have found : Table.get? (tables.foldl Table.putAll []) name =
      tables.reverse.findSome? fun table => Table.get? table name := by
    rw [Table.get?_foldl_putAll distinct, Table.get?, Option.or_none]
  have has := hasKey_returns names mark (tables.foldl Table.putAll [])
  have got := get_returns names mark (tables.foldl Table.putAll [])
  rw [Table.has, found] at has
  rw [found] at got
  exact ⟨has, got⟩

end Laws

/-! ### Objects -/

/-- What a written object has to do with the one that a field is written into. -/
structure Sets (around : Surroundings) (fields : List (String × Datum)) (key : Datum)
    (name : String) (value : Datum) (written : List (String × Datum)) : Prop where
  distinct : (Table.names written).Nodup
  made (mark : Mark) : MakesObject around set [.object mark fields, key, value] written
  /-- Every key with the written name leads to the value, and any other to what it led to. -/
  found (mark mark' : Mark) {other : Datum} {name' : String} (names : around.Names other name') :
    ∃ before had, Returns around get [.object mark fields, other] before ∧
      Returns around get [.object mark' written, other] (if name' = name then value else before) ∧
      Returns around hasKey [.object mark fields, other] (.bool had) ∧
      Returns around hasKey [.object mark' written, other] (.bool (name' = name || had))
  /-- The keys keep their order, and a new one comes last. -/
  keys (mark mark' : Mark) :
    ∃ (known : List String) (had : Bool),
      MakesList around keys [.object mark fields] (known.map .string) ∧
      Returns around hasKey [.object mark fields, key] (.bool had) ∧
      MakesList around Primitive.keys [.object mark' written]
        ((if had then known else known ++ [name]).map .string)

/-- Objects are maps with an order, whose keys count by the names that they stand for.  A set field
is found, and the others as before, with the keys in order; the keys are distinct and go with the
values place by place; an object is made like one set field after another; and merging is
associative, order included, with nil and the empty object as identities, the last object that has a
key giving its value. -/
theorem objects_ordered (around : Surroundings) :
    (∀ fields key name value, (Table.names fields).Nodup → around.Names key name →
      ∃ written, Sets around fields key name value written) ∧
    (∀ mark fields, (Table.names fields).Nodup → ∃ (known : List String) (items : List Datum),
      MakesList around keys [.object mark fields] (known.map .string) ∧
      MakesList around values [.object mark fields] items ∧
      known.Nodup ∧ known.length = items.length ∧
      ∀ entry ∈ known.zip items,
        Returns around get [.object mark fields, .string entry.1] entry.2) ∧
    (∀ pairs : List (Datum × Datum), (∀ pair ∈ pairs, ∃ name, around.Names pair.1 name) →
      ∃ fields, (Table.names fields).Nodup ∧
        MakesObject around object (pairs.flatMap fun pair => [pair.1, pair.2]) fields ∧
        ∀ recur mark world, ∃ mark' after,
          pairs.foldlM (fun target pair => set recur [target, pair.1, pair.2]) (.object mark [])
            around world = (.ok (.object mark' fields), after)) ∧
    (∀ a b c fields fields' fields'', a.Tabulates fields → b.Tabulates fields' →
      c.Tabulates fields'' → ∃ first second all,
        MakesObject around merge [a, b] first ∧ MakesObject around merge [b, c] second ∧
        MakesObject around merge [a, b, c] all ∧
        ∀ mark, MakesObject around merge [.object mark first, c] all ∧
          MakesObject around merge [a, .object mark second] all) ∧
    (∀ datum empty fields, datum.Tabulates fields → empty.Tabulates [] →
      MakesObject around merge [empty, datum] fields ∧
        MakesObject around merge [datum, empty] fields) ∧
    ∀ arguments tables, List.Forall₂ Datum.Tabulates arguments tables →
      ∃ all, (Table.names all).Nodup ∧ MakesObject around merge arguments all ∧
        ∀ mark key name, around.Names key name →
          Returns around hasKey [.object mark all, key]
            (.bool (tables.reverse.findSome? fun table => Table.get? table name).isSome) ∧
          Returns around get [.object mark all, key]
            ((tables.reverse.findSome? fun table => Table.get? table name).getD .nil) := by
  refine ⟨fun fields key name value distinct names => ?_,
    fun mark fields => keys_values around mark, fun pairs => object_sets,
    fun a b c fields fields' fields'' => merge_assoc,
    fun datum empty fields => merge_empty, fun arguments tables => merge_last⟩
  exact ⟨Table.put fields name value,
    { distinct := Table.nodup_names_put distinct name value
      made := fun mark => set_makes names mark fields value
      found := fun mark mark' other name' names' => found_put names' mark mark' fields name value
      keys := fun mark mark' => keys_put names mark mark' fields value }⟩

/-- The truth value and the string `true` are one key, which keeps its place when it is written. -/
theorem objects_ordered_truth :
    let around : Surroundings := ⟨100, some 1000, .int 0⟩
    let fields : List (String × Datum) := [("true", .nil), ("b", .int 2)]
    around.Names (.bool true) "true" ∧ (Table.names fields).Nodup ∧
      ∃ written, MakesObject around set [.object 0 fields, .bool true, .int 7] written ∧
        Returns around get [.object 1 written, .string "true"] (.int 7) ∧
        MakesList around keys [.object 1 written] [.string "true", .string "b"] := by
  intro around fields
  have names : around.Names (.bool true) "true" := rfl
  have distinct : (Table.names fields).Nodup := by decide
  obtain ⟨sets, -⟩ := objects_ordered around
  obtain ⟨written, isWritten⟩ := sets fields (.bool true) "true" (.int 7) distinct names
  refine ⟨names, distinct, written, isWritten.made 0, ?_, ?_⟩
  · have same : around.Names (.string "true") "true" := rfl
    obtain ⟨before, had, -, found, -⟩ := isWritten.found 0 1 same
    rwa [if_pos rfl] at found
  · obtain ⟨known, had, shown, has, kept⟩ := isWritten.keys 0 1
    have listed : Except.ok (Datum.list (some 0) (known.map .string)) =
        (.ok (.list (some 0) [.string "true", .string "b"]) : Except EvalError Datum) :=
      congrArg Prod.fst (shown (fun _ => pure .nil) ⟨[], [], 0, 0⟩).symm
    have present : Except.ok (Datum.bool had) = (.ok (.bool true) : Except EvalError Datum) :=
      congrArg Prod.fst (has (fun _ => pure .nil) ⟨[], [], 0, 0⟩).symm
    have items : known.map Datum.string = [.string "true", .string "b"] :=
      (Datum.list.inj (Except.ok.inj listed)).2
    cases present
    rwa [if_pos rfl, items] at kept

end Primitive

end SandboxLisp
