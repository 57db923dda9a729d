import SandboxLisp.Index
import SandboxLisp.Proofs.Reading.Cutting

/-!
# What the entries of an index are

Every entry in the index of a document comes from a symbol of its text.  `Entries` holds of the
bindings while the tokens are scanned, and the main statement is that the name of every entry is
spelled by an atom at the position of the entry (`exists_atomAt_of_entry`), whether or not the
document has problems.
-/

namespace SandboxLisp

namespace Index

/-- Every entry binds a symbol among the tokens at its position, and is the one of its name. -/
structure Entries (tokens : List Token) (symbols : List (String × Binding)) : Prop where
  among : ∀ entry ∈ symbols, ⟨.symbol entry.1, entry.2.position⟩ ∈ tokens
  found : ∀ entry ∈ symbols, Table.get? symbols entry.1 = some entry.2

namespace Entries

variable {all tokens : List Token} {symbols : List (String × Binding)}

theorem bind {name : String} {position : Position} (entries : Entries all symbols)
    (among : ⟨.symbol name, position⟩ ∈ all) (kind : BindingKind) :
    Entries all (Index.bind symbols name kind position) := by
  unfold Index.bind
  split
  · exact entries
  · next fresh =>
    have unbound : Table.get? symbols name = none := by simpa [Table.has] using fresh
    refine ⟨fun entry listed => ?_, fun entry listed => ?_⟩ <;>
      rcases List.mem_append.mp listed with known | new
    · exact entries.among entry known
    · rw [List.mem_singleton.mp new]
      exact among
    · rw [Table.get?_concat, entries.found entry known, Option.some_or]
    · rw [List.mem_singleton.mp new, Table.get?_concat, unbound, Option.none_or, if_pos rfl]

theorem bindFirst (entries : Entries all symbols) (inside : tokens ⊆ all) (kind : BindingKind) :
    Entries all (Index.bindFirst symbols kind tokens) := by
  unfold Index.bindFirst
  split
  · exact entries.bind (inside (.head _)) kind
  · exact entries

theorem bindDefinition (entries : Entries all symbols) (inside : tokens ⊆ all) :
    Entries all (Index.bindDefinition symbols tokens) := by
  unfold Index.bindDefinition
  split
  · exact entries.bindFirst (List.subset_of_cons_subset inside) .function
  · exact entries.bindFirst inside .value

theorem bindLocals {depth : Nat} (entries : Entries all symbols) (inside : tokens ⊆ all) :
    Entries all (Index.bindLocals symbols depth tokens) := by
  fun_induction Index.bindLocals symbols depth tokens with
  | case1 => exact entries
  | case2 symbols depth position rest ih =>
    have behind := List.subset_of_cons_subset inside
    refine ih ?_ behind
    split
    · exact entries.bindFirst behind .localName
    · exact entries
  | case3 => exact entries
  | case4 symbols depth position rest more ih =>
    exact ih entries (List.subset_of_cons_subset inside)
  | case5 symbols depth token rest _ _ ih => exact ih entries (List.subset_of_cons_subset inside)

theorem bindLet (entries : Entries all symbols) (inside : tokens ⊆ all) :
    Entries all (Index.bindLet symbols tokens) := by
  unfold Index.bindLet
  split
  · exact entries.bindLocals inside
  · exact entries

theorem bindList (entries : Entries all symbols) (inside : tokens ⊆ all) :
    Entries all (Index.bindList symbols tokens) := by
  unfold Index.bindList
  split
  · have behind := List.subset_of_cons_subset inside
    split
    · exact entries.bindDefinition behind
    · split
      · exact entries.bindLet behind
      · exact entries
  · exact entries

theorem bindings (entries : Entries all symbols) (inside : tokens ⊆ all) :
    Entries all (Index.bindings symbols tokens) := by
  fun_induction Index.bindings symbols tokens with
  | case1 => exact entries
  | case2 symbols position rest ih =>
    have behind := List.subset_of_cons_subset inside
    exact ih (entries.bindList behind) behind
  | case3 symbols token rest _ ih => exact ih entries (List.subset_of_cons_subset inside)

end Entries

/-- A text that binds a name can be cut into tokens, and the entries come from them. -/
theorem entries_of_build {text : List Char} {index : Index} (built : build text = .ok index)
    {entry : String × Binding} (listed : entry ∈ index.symbols) :
    ∃ tokens, Token.tokenize text = .ok tokens ∧ Entries tokens index.symbols := by
  rcases build_cases built with ⟨cause, position, -, rfl⟩ | ⟨tokens, problems, cut, -, rfl⟩
  · cases listed
  · have none : Entries tokens [] := ⟨by simp, by simp⟩
    exact ⟨tokens, cut, none.bindings (List.Subset.refl tokens)⟩

/-- The name of an entry is spelled by an atom at the position of the entry. -/
theorem exists_atomAt_of_entry {text : List Char} {index : Index} (built : build text = .ok index)
    {name : String} {binding : Binding} (listed : (name, binding) ∈ index.symbols) :
    ∃ before after, Token.AtomAt text before name.toList after ∧
      binding.position = Position.start.after before := by
  obtain ⟨tokens, cut, entries⟩ := entries_of_build built listed
  obtain ⟨before, spelling, after, atomAt, here, spells⟩ :=
    Token.exists_atomAt_of_mem cut (entries.among _ listed) rfl
  obtain ⟨rfl, -, -⟩ := Token.of_classify_symbol spells
  exact ⟨before, after, atomAt, here⟩

end Index

end SandboxLisp
