import SandboxLisp.Proofs.Evaluation.Simulation
import SandboxLisp.Primitive.Objects

/-!
# Parametric primitives

A parametric primitive treats like arguments alike: it fails in the same way or gives like values,
and it neither looks at the scope of its caller nor evaluates anything.  What every primitive does
first is count its arguments and ask for their types, and both come out the same for like arguments.
-/

namespace SandboxLisp.Primitive

open Eval

/-- A primitive that runs alike on like arguments, whatever is known of the scope of its caller. -/
def Parametric (view : View) (primitive : Primitive) : Prop :=
  ∀ pairing names recur recur' arguments arguments',
    ItemsAlike view pairing arguments arguments' →
      RunAlike view pairing names (Alike view) (primitive recur arguments)
        (primitive recur' arguments')

variable {view : View}

/-! ### Numbers of arguments -/

section Arities

variable {pairing : Pairing}

/-- A wrong number of arguments is reported alike. -/
theorem fail_arguments (names : String → Prop) (name : String) (least : Nat) (most : Option Nat)
    {arguments arguments' : List Datum} (alike : ItemsAlike view pairing arguments arguments') :
    RunAlike view pairing names (Alike view) (fail (argumentsError name least most arguments))
      (fail (argumentsError name least most arguments')) := by
  unfold argumentsError
  rw [alike.length_eq]
  exact .fail trivial

/-- Computations from a number of data that run alike on like data. -/
theorem parametric_variadic {body : List Datum → Eval Datum}
    (alike : ∀ {pairing names arguments arguments'}, ItemsAlike view pairing arguments arguments' →
      RunAlike view pairing names (Alike view) (body arguments) (body arguments')) :
    Parametric view (variadic body) :=
  fun _ _ _ _ _ _ given => alike given

theorem parametric_atLeastOne {name : String} {body : Datum → List Datum → Eval Datum}
    (alike : ∀ {pairing names first first' rest rest'}, Alike view pairing first first' →
      ItemsAlike view pairing rest rest' →
      RunAlike view pairing names (Alike view) (body first rest) (body first' rest')) :
    Parametric view (atLeastOne name body) := by
  intro pairing names recur recur' arguments arguments' given
  cases given with
  | nil => exact .fail trivial
  | cons first rest => exact alike first rest

theorem parametric_unary {name : String} {body : Datum → Eval Datum}
    (alike : ∀ {pairing names argument argument'}, Alike view pairing argument argument' →
      RunAlike view pairing names (Alike view) (body argument) (body argument')) :
    Parametric view (unary name body) := by
  intro pairing names recur recur' arguments arguments' given
  have wrong := fail_arguments names name 1 (some 1) given
  rcases given with _ | ⟨first, _ | ⟨second, rest⟩⟩
  · exact wrong
  · exact alike first
  · exact wrong

theorem parametric_binary {name : String} {body : Datum → Datum → Eval Datum}
    (alike : ∀ {pairing names first first' second second'}, Alike view pairing first first' →
      Alike view pairing second second' →
      RunAlike view pairing names (Alike view) (body first second) (body first' second')) :
    Parametric view (binary name body) := by
  intro pairing names recur recur' arguments arguments' given
  have wrong := fail_arguments names name 2 (some 2) given
  rcases given with _ | ⟨first, _ | ⟨second, _ | ⟨third, rest⟩⟩⟩
  · exact wrong
  · exact wrong
  · exact alike first second
  · exact wrong

theorem parametric_ternary {name : String} {body : Datum → Datum → Datum → Eval Datum}
    (alike : ∀ {pairing names first first' second second' third third'},
      Alike view pairing first first' → Alike view pairing second second' →
      Alike view pairing third third' →
      RunAlike view pairing names (Alike view) (body first second third)
        (body first' second' third')) :
    Parametric view (ternary name body) := by
  intro pairing names recur recur' arguments arguments' given
  have wrong := fail_arguments names name 3 (some 3) given
  rcases given with _ | ⟨first, _ | ⟨second, _ | ⟨third, _ | ⟨fourth, rest⟩⟩⟩⟩
  · exact wrong
  · exact wrong
  · exact wrong
  · exact alike first second third
  · exact wrong

theorem parametric_oneOrTwo {name : String} {body : Datum → Option Datum → Eval Datum}
    (alike : ∀ {pairing names first first' second second'}, Alike view pairing first first' →
      BindingsAlike view pairing second second' →
      RunAlike view pairing names (Alike view) (body first second) (body first' second')) :
    Parametric view (oneOrTwo name body) := by
  intro pairing names recur recur' arguments arguments' given
  have wrong := fail_arguments names name 1 (some 2) given
  rcases given with _ | ⟨first, _ | ⟨second, _ | ⟨third, rest⟩⟩⟩
  · exact wrong
  · exact alike first .none
  · exact alike first (.some second)
  · exact wrong

theorem parametric_twoOrThree {name : String} {body : Datum → Datum → Option Datum → Eval Datum}
    (alike : ∀ {pairing names first first' second second' third third'},
      Alike view pairing first first' → Alike view pairing second second' →
      BindingsAlike view pairing third third' →
      RunAlike view pairing names (Alike view) (body first second third)
        (body first' second' third')) :
    Parametric view (twoOrThree name body) := by
  intro pairing names recur recur' arguments arguments' given
  have wrong := fail_arguments names name 2 (some 3) given
  rcases given with _ | ⟨first, _ | ⟨second, _ | ⟨third, _ | ⟨fourth, rest⟩⟩⟩⟩
  · exact wrong
  · exact wrong
  · exact alike first second .none
  · exact alike first second (.some third)
  · exact wrong

theorem parametric_oneToThree {name : String}
    {body : Datum → Option Datum → Option Datum → Eval Datum}
    (alike : ∀ {pairing names first first' second second' third third'},
      Alike view pairing first first' → BindingsAlike view pairing second second' →
      BindingsAlike view pairing third third' →
      RunAlike view pairing names (Alike view) (body first second third)
        (body first' second' third')) :
    Parametric view (oneToThree name body) := by
  intro pairing names recur recur' arguments arguments' given
  have wrong := fail_arguments names name 1 (some 3) given
  rcases given with _ | ⟨first, _ | ⟨second, _ | ⟨third, _ | ⟨fourth, rest⟩⟩⟩⟩
  · exact wrong
  · exact alike first .none .none
  · exact alike first (.some second) .none
  · exact alike first (.some second) (.some third)
  · exact wrong

end Arities

/-! ### Types of arguments -/

theorem asks_expectNumber (view : View) (name : String) : Asks view (expectNumber name) := by
  constructor
  · intro datum
    unfold expectNumber
    split
    · exact .pure _
    · exact .fail trivial
  · intro pairing datum datum' alike
    unfold expectNumber
    rw [alike.number?_eq, expectedError_eq alike]

theorem asks_expectInteger (view : View) (name : String) : Asks view (expectInteger name) := by
  constructor
  · intro datum
    unfold expectInteger
    split
    · split
      · exact .pure _
      · exact .fail trivial
    · exact .fail trivial
  · intro pairing datum datum' alike
    unfold expectInteger
    rw [alike.number?_eq, expectedError_eq alike]

theorem asks_expectString (view : View) (name : String) : Asks view (expectString name) := by
  constructor
  · intro datum
    unfold expectString
    split
    · exact .pure _
    · exact .fail trivial
  · intro pairing datum datum' alike
    have reported := expectedError_eq alike name .string
    cases alike with
    | string _ => rfl
    | _ => exact congrArg fail reported

theorem asks_displayOrNothing (view : View) : Asks view displayOrNothing := by
  constructor
  · intro datum
    unfold displayOrNothing
    split
    · exact .pure _
    · exact .text _ _
  · intro pairing datum datum' alike
    have shown := (asks_text view .display).same alike
    cases alike with
    | nil => rfl
    | _ => exact shown

theorem asks_keyOf (view : View) : Asks view keyOf := by
  constructor
  · intro datum
    unfold keyOf
    split
    · exact .pure _
    · exact .text _ _
  · intro pairing datum datum' alike
    have shown := (asks_text view .display).same alike
    cases alike with
    | string _ => rfl
    | _ => exact shown

section Arguments

variable {pairing : Pairing} {datum datum' : Datum}

theorem expectObject_alike (names : String → Prop) (name : String)
    (alike : Alike view pairing datum datum') :
    RunAlike view pairing names (FieldsAlike view) (expectObject name datum)
      (expectObject name datum') := by
  have reported := expectedError_eq alike name .object
  cases alike with
  | object _ parts => exact .pure fun _ grows => parts.mono grows
  | _ =>
    unfold expectObject
    dsimp only
    rw [reported]
    exact .fail trivial

theorem given?_alike {argument argument' : Option Datum}
    (alike : BindingsAlike view pairing argument argument') :
    BindingsAlike view pairing (given? argument) (given? argument') := by
  cases alike with
  | none => exact .none
  | some given =>
    have whole := BindingsAlike.some given
    cases given with
    | nil => exact .none
    | _ => exact whole

/-- A property that likeness preserves has the same values for like data. -/
theorem map_eq {α : Type} {property : Datum → α} {items items' : List Datum}
    (same : ∀ {datum datum'}, Alike view pairing datum datum' → property datum = property datum')
    (alike : ItemsAlike view pairing items items') : items.map property = items'.map property := by
  induction items generalizing items' with
  | nil =>
    cases alike
    rfl
  | cons item rest ih =>
    cases alike with
    | cons first others => rw [List.map_cons, List.map_cons, same first, ih others]

end Arguments

end SandboxLisp.Primitive
