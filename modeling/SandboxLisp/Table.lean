/-!
# Tables in order of insertion

A table is a list of named entries.  Writing a name that is present replaces its entry in place, and
writing a new name appends it, so a name keeps the place of its first writing.
-/

namespace SandboxLisp

namespace Table

/-- The entry of a name. -/
def get? {α : Type} : List (String × α) → String → Option α
  | [], _ => none
  | (key, value) :: rest, name => if key = name then some value else get? rest name

/-- The table with a name written. -/
def put {α : Type} : List (String × α) → String → α → List (String × α)
  | [], name, value => [(name, value)]
  | (key, old) :: rest, name, value =>
      if key = name then (key, value) :: rest else (key, old) :: put rest name value

/-- The table with several names written, one after another. -/
def putAll {α : Type} (table entries : List (String × α)) : List (String × α) :=
  entries.foldl (fun written entry => put written entry.1 entry.2) table

/-- The table that arises from writing the entries in order. -/
def ofList {α : Type} (entries : List (String × α)) : List (String × α) :=
  putAll [] entries

/-- The names of a table, in order. -/
def names {α : Type} (table : List (String × α)) : List String :=
  table.map Prod.fst

/-- Whether a name has an entry. -/
def has {α : Type} (table : List (String × α)) (name : String) : Bool :=
  (get? table name).isSome

theorem mem_of_get? {α : Type} {name : String} {value : α} :
    {table : List (String × α)} → get? table name = some value → (name, value) ∈ table
  | [], found => by simp [get?] at found
  | (key, first) :: rest, found => by
      rw [get?] at found
      split at found
      · next same =>
        cases found
        exact same ▸ .head _
      · exact .tail _ (mem_of_get? found)

/-- The name written last is found. -/
@[simp] theorem get?_put_self {α : Type} (table : List (String × α)) (name : String) (value : α) :
    get? (put table name value) name = some value := by
  induction table with
  | nil => simp [put, get?]
  | cons entry rest ih =>
    obtain ⟨key, old⟩ := entry
    by_cases same : key = name <;> simp [put, get?, same, ih]

/-- Writing a name leaves the other names as they were. -/
theorem get?_put_of_ne {α : Type} (table : List (String × α)) {name other : String} (value : α)
    (different : name ≠ other) : get? (put table name value) other = get? table other := by
  induction table with
  | nil => simp [put, get?, different]
  | cons entry rest ih =>
    obtain ⟨key, old⟩ := entry
    by_cases same : key = name
    · subst same
      simp [put, get?, different]
    · simp only [put, same, if_false, get?, ih]

/-- In a table with one more entry a name keeps its entry, and the new name has the new one. -/
theorem get?_concat {α : Type} (table : List (String × α)) (entry : String × α) (name : String) :
    get? (table ++ [entry]) name =
      (get? table name).or (if entry.1 = name then some entry.2 else none) := by
  induction table with
  | nil => simp [get?]
  | cons first rest ih =>
    obtain ⟨key, value⟩ := first
    by_cases same : key = name
    · simp [get?, same]
    · simpa [get?, same] using ih

/-- A name has an entry in a longer table if it had one or is the new name. -/
theorem has_concat {α : Type} (table : List (String × α)) (entry : String × α) (name : String) :
    has (table ++ [entry]) name = (has table name || name == entry.1) := by
  by_cases same : entry.1 = name
  · simp [has, get?_concat, same]
  · simp [has, get?_concat, same, Ne.symm same]

/-- A table without the entries of a name has no entry of it and all others as before. -/
theorem get?_filter_ne {α : Type} (table : List (String × α)) (name other : String) :
    get? (table.filter fun (known, _) => known != name) other =
      if other = name then none else get? table other := by
  induction table with
  | nil => simp [get?]
  | cons entry rest ih =>
    obtain ⟨key, value⟩ := entry
    by_cases dropped : key = name
    · subst dropped
      rw [List.filter_cons_of_neg (by simp), ih, get?]
      by_cases same : other = key
      · rw [if_pos same, if_pos same]
      · rw [if_neg same, if_neg same, if_neg (Ne.symm same)]
    · rw [List.filter_cons_of_pos (by simpa using dropped), get?, get?, ih]
      by_cases same : key = other
      · subst same
        rw [if_pos rfl, if_neg dropped, if_pos rfl]
      · rw [if_neg same, if_neg same]

end Table

end SandboxLisp
