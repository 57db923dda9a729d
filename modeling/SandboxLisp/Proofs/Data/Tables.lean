import Mathlib.Data.List.Basic
import SandboxLisp.Table

/-!
# Tables as maps with an order

A table without a repeated name is a map, and it has an order of its names besides.  Writing a name
leaves the order as it is, or puts the name at the end if it is new.  Writing all entries of a table
over another one is associative, order included: a name that is written twice keeps its first place
and its last value.
-/

namespace SandboxLisp.Table

variable {α : Type}

/-! ### Names -/

theorem has_iff {table : List (String × α)} {name : String} :
    has table name = true ↔ name ∈ names table := by
  induction table with
  | nil => simp [has, get?, names]
  | cons entry rest ih =>
    obtain ⟨key, value⟩ := entry
    rw [names, List.map_cons, List.mem_cons, ← names, ← ih, has, get?, has]
    by_cases same : key = name
    · simp [same]
    · simp [same, Ne.symm same]

theorem get?_eq_none_iff {table : List (String × α)} {name : String} :
    get? table name = none ↔ name ∉ names table := by
  rw [← has_iff, has, Option.isSome_iff_ne_none, not_not]

/-- A table whose values are changed has the changed value under a name. -/
theorem get?_map {β : Type} (function : α → β) (table : List (String × α)) (name : String) :
    get? (table.map fun entry => (entry.1, function entry.2)) name =
      (get? table name).map function := by
  induction table with
  | nil => rfl
  | cons entry rest ih =>
    obtain ⟨key, value⟩ := entry
    rw [List.map_cons, get?, get?]
    split
    · rfl
    · exact ih

/-- A name that is present keeps its place, and a new one is the last. -/
theorem names_put (table : List (String × α)) (name : String) (value : α) :
    names (put table name value) =
      if name ∈ names table then names table else names table ++ [name] := by
  induction table with
  | nil => rfl
  | cons entry rest ih =>
    obtain ⟨key, old⟩ := entry
    rw [put]
    by_cases same : key = name
    · simp [names, same]
    · rw [if_neg same, names, List.map_cons, ← names, ih]
      have split : (name ∈ names ((key, old) :: rest)) ↔ name ∈ names rest := by
        rw [names, List.map_cons, List.mem_cons]
        exact ⟨fun among => among.resolve_left (Ne.symm same), .inr⟩
      simp only [split]
      split <;> rfl

theorem mem_names_put {table : List (String × α)} {name other : String} {value : α} :
    other ∈ names (put table name value) ↔ other = name ∨ other ∈ names table := by
  rw [names_put]
  split
  · next present => exact ⟨.inr, fun among => among.elim (fun same => same ▸ present) id⟩
  · rw [List.mem_append, List.mem_singleton, or_comm]

/-- Writing a name does not repeat a name. -/
theorem nodup_names_put {table : List (String × α)} (distinct : (names table).Nodup)
    (name : String) (value : α) : (names (put table name value)).Nodup := by
  rw [names_put]
  split
  · exact distinct
  · next absent =>
    refine List.nodup_append.mpr ⟨distinct, List.pairwise_singleton _ name, ?_⟩
    rintro known among _ (_ | ⟨_, ⟨⟩⟩) rfl
    exact absent among

theorem nodup_names_putAll {table : List (String × α)} (distinct : (names table).Nodup)
    (entries : List (String × α)) : (names (putAll table entries)).Nodup := by
  induction entries generalizing table with
  | nil => exact distinct
  | cons entry rest ih => exact ih (nodup_names_put distinct entry.1 entry.2)

/-! ### Writing one name -/

theorem get?_put (table : List (String × α)) (name other : String) (value : α) :
    get? (put table name value) other = if other = name then some value else get? table other := by
  split
  · next same =>
    subst same
    exact get?_put_self table other value
  · next different => exact get?_put_of_ne table value (Ne.symm different)

/-- The value that is written last counts. -/
theorem put_put (table : List (String × α)) (name : String) (value value' : α) :
    put (put table name value) name value' = put table name value' := by
  induction table with
  | nil => simp [put]
  | cons entry rest ih =>
    obtain ⟨key, old⟩ := entry
    by_cases same : key = name
    · simp [put, same]
    · simp [put, same, ih]

/-- The value of a name that is present can be written before or after another name. -/
theorem put_comm {table : List (String × α)} {name : String} (present : name ∈ names table)
    {other : String} (different : other ≠ name) (value value' : α) :
    put (put table other value') name value = put (put table name value) other value' := by
  induction table with
  | nil => cases present
  | cons entry rest ih =>
    obtain ⟨key, old⟩ := entry
    by_cases first : key = name
    · subst first
      simp [put, Ne.symm different]
    · have later : name ∈ names rest := by
        rcases List.mem_cons.mp present with same | later
        · exact absurd same.symm first
        · exact later
      by_cases second : key = other
      · subst second
        simp [put, different]
      · simp [put, first, second, ih later]

theorem put_of_not_mem {table : List (String × α)} {name : String} (absent : name ∉ names table)
    (value : α) : put table name value = table ++ [(name, value)] := by
  induction table with
  | nil => rfl
  | cons entry rest ih =>
    obtain ⟨key, old⟩ := entry
    obtain ⟨different, later⟩ := List.ne_and_not_mem_of_not_mem_cons absent
    rw [put, if_neg (Ne.symm different), ih later, List.cons_append]

/-! ### Writing several names -/

theorem putAll_cons (table rest : List (String × α)) (entry : String × α) :
    putAll table (entry :: rest) = putAll (put table entry.1 entry.2) rest := rfl

/-- The value of a name that is present can be written before or after other names. -/
theorem put_putAll {entries : List (String × α)} {name : String} (absent : name ∉ names entries)
    {table : List (String × α)} (present : name ∈ names table) (value : α) :
    put (putAll table entries) name value = putAll (put table name value) entries := by
  induction entries generalizing table with
  | nil => rfl
  | cons entry rest ih =>
    obtain ⟨different, later⟩ := List.ne_and_not_mem_of_not_mem_cons absent
    rw [putAll_cons, putAll_cons, ih later (mem_names_put.mpr (.inr present)),
      put_comm present (Ne.symm different)]

/-- Entries among which a name is written are written as before, and then the name. -/
theorem putAll_put {entries : List (String × α)} (distinct : (names entries).Nodup)
    (table : List (String × α)) (name : String) (value : α) :
    putAll table (put entries name value) = put (putAll table entries) name value := by
  induction entries generalizing table with
  | nil => rfl
  | cons entry rest ih =>
    obtain ⟨key, old⟩ := entry
    obtain ⟨fresh, others⟩ := List.nodup_cons.mp distinct
    rw [put]
    by_cases same : key = name
    · subst same
      have present : key ∈ names (put table key old) := mem_names_put.mpr (.inl rfl)
      rw [if_pos rfl, putAll_cons, putAll_cons, put_putAll fresh present, put_put]
    · rw [if_neg same, putAll_cons, putAll_cons, ih others]

/-- Tables are written over one another from the left or from the right. -/
theorem putAll_putAll {entries : List (String × α)} (distinct : (names entries).Nodup)
    (table others : List (String × α)) :
    putAll table (putAll entries others) = putAll (putAll table entries) others := by
  induction others generalizing entries with
  | nil => rfl
  | cons entry rest ih =>
    rw [putAll_cons, putAll_cons, ih (nodup_names_put distinct entry.1 entry.2),
      putAll_put distinct]

/-- New names are appended with their values. -/
theorem putAll_eq_append {table entries : List (String × α)}
    (distinct : (names (table ++ entries)).Nodup) : putAll table entries = table ++ entries := by
  induction entries generalizing table with
  | nil => rw [List.append_nil]; rfl
  | cons entry rest ih =>
    have fresh : entry.1 ∉ names table := by
      rw [names, List.map_append, List.nodup_append] at distinct
      exact fun among => distinct.2.2 entry.1 among entry.1 (.head _) rfl
    have moved : table ++ entry :: rest = table ++ [entry] ++ rest := by simp
    rw [putAll_cons, put_of_not_mem fresh, moved, ih]
    rwa [← moved]

/-- The empty table has nothing to be written over. -/
theorem putAll_nil_left {entries : List (String × α)} (distinct : (names entries).Nodup) :
    putAll [] entries = entries := by
  have whole : (names ([] ++ entries)).Nodup := distinct
  exact putAll_eq_append whole

/-- The value of the table that is written last counts. -/
theorem get?_putAll_of_nodup {entries : List (String × α)} (distinct : (names entries).Nodup)
    (table : List (String × α)) (name : String) :
    get? (putAll table entries) name = (get? entries name).or (get? table name) := by
  induction entries generalizing table with
  | nil => rfl
  | cons entry rest ih =>
    obtain ⟨key, value⟩ := entry
    obtain ⟨fresh, others⟩ := List.nodup_cons.mp distinct
    rw [putAll_cons, ih others, get?_put, get?]
    by_cases same : key = name
    · subst same
      have missing : get? rest key = none := get?_eq_none_iff.mpr fresh
      simp [missing]
    · simp [same, Ne.symm same]

/-- Of several tables that are written one over another, the last one that has a name counts. -/
theorem get?_foldl_putAll {tables : List (List (String × α))}
    (distinct : ∀ table ∈ tables, (names table).Nodup) (table : List (String × α)) (name : String) :
    get? (tables.foldl putAll table) name =
      (tables.reverse.findSome? fun written => get? written name).or (get? table name) := by
  induction tables generalizing table with
  | nil => rfl
  | cons first rest ih =>
    obtain ⟨one, others⟩ := List.forall_mem_cons.mp distinct
    rw [List.foldl_cons, ih others, get?_putAll_of_nodup one, List.reverse_cons,
      List.findSome?_append, Option.or_assoc, List.findSome?_singleton]

theorem nodup_names_foldl_putAll (tables : List (List (String × α))) {table : List (String × α)}
    (distinct : (names table).Nodup) : (names (tables.foldl putAll table)).Nodup := by
  induction tables generalizing table with
  | nil => exact distinct
  | cons first rest ih => exact ih (nodup_names_putAll distinct first)

end SandboxLisp.Table
