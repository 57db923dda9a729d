import SandboxLisp.Primitive.Ambient
import SandboxLisp.Primitive.Comparison
import SandboxLisp.Primitive.Mathematics
import SandboxLisp.Primitive.Objects
import SandboxLisp.Primitive.Strings
import SandboxLisp.Primitive.Types
import SandboxLisp.Settings

/-!
# The registry of primitives

A registry is fixed when it is made: the default primitives with what the host offers written over
them.  An offer may be faulty, because its name is not a string or because it is no function; the
first faulty entry of the merged table is reported.
-/

namespace SandboxLisp

/-- What a host offers under a name; `none` if that is not a function. -/
structure Offer where
  name : Datum
  primitive : Option Primitive

/-- A fixed table of primitives. -/
structure Registry where
  entries : List (String × Primitive)
  /-- The names that the host offered. -/
  offered : List String

/-- The primitives that every evaluator has unless the host writes over them. -/
def defaultPrimitives : List (String × Primitive) :=
  Primitive.arithmetic ++ Primitive.comparison ++ Primitive.logic ++ Primitive.strings ++
    Primitive.lists ++ Primitive.objects ++ Primitive.mathematics ++ Primitive.predicates ++
    Primitive.ambient

/-- What holds of the primitives of every group holds of all default primitives. -/
theorem forall_mem_defaultPrimitives {holds : String × Primitive → Prop}
    (arithmetic : ∀ entry ∈ Primitive.arithmetic, holds entry)
    (comparison : ∀ entry ∈ Primitive.comparison, holds entry)
    (logic : ∀ entry ∈ Primitive.logic, holds entry)
    (strings : ∀ entry ∈ Primitive.strings, holds entry)
    (lists : ∀ entry ∈ Primitive.lists, holds entry)
    (objects : ∀ entry ∈ Primitive.objects, holds entry)
    (mathematics : ∀ entry ∈ Primitive.mathematics, holds entry)
    (predicates : ∀ entry ∈ Primitive.predicates, holds entry)
    (ambient : ∀ entry ∈ Primitive.ambient, holds entry) :
    ∀ entry ∈ defaultPrimitives, holds entry := by
  simp only [defaultPrimitives, List.forall_mem_append]
  exact ⟨⟨⟨⟨⟨⟨⟨⟨arithmetic, comparison⟩, logic⟩, strings⟩, lists⟩, objects⟩, mathematics⟩,
    predicates⟩, ambient⟩

namespace Offer

/-- Whether an offer is made under a given name. -/
def isNamed (offer : Offer) (name : String) : Bool :=
  match offer.name with
  | .string text => text == name
  | _ => false

/-- A list of offers with one more; an offer under the same name is replaced in place. -/
def write (offers : List Offer) (offer : Offer) : List Offer :=
  match offer.name with
  | .string name =>
      if offers.any fun other => other.isNamed name then
        offers.map fun other => if other.isNamed name then offer else other
      else offers ++ [offer]
  | _ => offers ++ [offer]

/-- The name and the function of an offer that is not faulty. -/
def check (offer : Offer) : Except SettingsError (String × Primitive) :=
  match offer.name, offer.primitive with
  | .string name, some primitive => .ok (name, primitive)
  | .string name, none => .error (.notCallable (Text.quotedString name))
  | other, _ => .error (.showing .nameNotString other)

/-- The names of the offers that have one. -/
def names (offers : List Offer) : List String :=
  offers.filterMap fun offer =>
    match offer.name with
    | .string name => some name
    | _ => none

end Offer

namespace Registry

/-- The registry of the defaults with offers written over them. -/
def ofOffers (offers : List Offer) : Except SettingsError Registry := do
  let defaults := defaultPrimitives.map fun (name, primitive) => ⟨.string name, some primitive⟩
  let entries ← (offers.foldl Offer.write defaults).mapM Offer.check
  return ⟨entries, Offer.names offers⟩

/-- The registry of the defaults alone. -/
def default : Registry := ⟨defaultPrimitives, []⟩

/-- The primitive under a name. -/
def get? (registry : Registry) (name : String) : Option Primitive :=
  Table.get? registry.entries name

/-- Whether there is a primitive under a name. -/
def has (registry : Registry) (name : String) : Bool :=
  (registry.get? name).isSome

/-- The number of primitives. -/
def size (registry : Registry) : Nat :=
  registry.entries.length

/-- Whether the host offered the primitive under a name. -/
def isOverridden (registry : Registry) (name : String) : Bool :=
  registry.has name && registry.offered.contains name

/-- The names of primitives that are not default ones. -/
def newNames (registry : Registry) : List String :=
  (Table.names registry.entries).filter fun name => !Table.has defaultPrimitives name

/-- What a registry looks like in messages. -/
def describe (registry : Registry) : String :=
  Text.sentence ["<PrimitiveRegistry ", toString registry.size, " primitives>"]

end Registry

end SandboxLisp
