import SandboxLisp.Evaluator
import SandboxLisp.Primitive.Comparison
import SandboxLisp.Proofs.Data.Levels
import SandboxLisp.Proofs.Data.Ordering

/-!
# The comparing primitives tell one story

The four order relations of two values answer from one ordering, or fail together.  The answers are
those of a strict order that is transitive through lists of any nesting and across integers and
doubles, and values without booleans are equal in the language exactly if neither is below the other.
-/

namespace SandboxLisp

namespace Primitive

open Eval Datum

/-- An order relation changes nothing, and ends as the comparison in its surroundings does. -/
theorem ordering_run (relation : Relation) (recur : Datum → Eval Datum) (first second : Datum)
    (around : Surroundings) (world : World) :
    ordering relation recur [first, second] around world =
      (match around.relate relation first second with
      | .ok (.ok answer) => .ok (.bool answer)
      | .ok (.error _) => .error (.type (.incomparable first.typeName second.typeName relation))
      | .error cause => .error cause, world) := by
  rw [ordering, binary, bind_apply]
  simp only [Eval.surroundings, bind_apply]
  rcases around.relate relation first second with cause | (blamed | answer) <;> rfl

/-- Where the comparison goes too deep, so does every order relation. -/
theorem ordering_of_tooDeep {around : Surroundings} {relation : Relation} {first second : Datum}
    (deep : around.relate relation first second = .error around.tooDeep)
    (recur : Datum → Eval Datum) (world : World) :
    ordering relation recur [first, second] around world = (.error around.tooDeep, world) := by
  rw [ordering_run, deep]

/-- Equality changes nothing, and ends as the comparison in its surroundings does. -/
theorem equals_run (recur : Datum → Eval Datum) (first second : Datum) (around : Surroundings)
    (world : World) :
    equals recur [first, second] around world =
      (match around.equal .strict first second with
      | .ok answer => .ok (.bool answer)
      | .error cause => .error cause, world) := by
  rw [equals, binary, bind_apply, Eval.equal, bind_apply]
  simp only [Eval.surroundings]
  rcases around.equal .strict first second with cause | answer <;> rfl

section Reached

variable {around : Surroundings} {levels : Nat} {first second : Datum}
  (recur : Datum → Eval Datum) (world : World)

/-- The relations of data that turn out ordered answer as the ordering says. -/
theorem ordering_of_ordered (reaches : around.Reaches levels first second) {found : Ordering}
    (ordered : Ordered levels first second found) (relation : Relation) :
    ordering relation recur [first, second] around world =
      (.ok (.bool (relation.holds found)), world) := by
  rw [ordering_run, reaches.relate, ordered relation, Surroundings.reached]

/-- Data of which the first is found below the second turn out ordered so. -/
theorem ordered_of_less (reaches : around.Reaches levels first second)
    (notNan : first.Every NotNan) (notNan' : second.Every NotNan)
    (below : ordering .less recur [first, second] around world = (.ok (.bool true), world)) :
    Ordered levels first second .lt := by
  apply Ordered.of_less notNan notNan'
  rw [ordering_run, reaches.relate] at below
  rcases answer : first.relateWithin .less levels second with _ | (blamed | value)
  · rw [answer] at below
    cases below
  · rw [answer] at below
    cases below
  · rw [answer] at below
    cases below
    rfl

/-- Data without booleans that turn out ordered are equal in the language as the ordering says. -/
theorem equals_of_ordered {store : Store} (reaches : around.Reaches levels first second)
    (proper : first.Every store.Proper) (proper' : second.Every store.Proper)
    (notBool : first.Every NotBool) (notBool' : second.Every NotBool) {found : Ordering}
    (ordered : Ordered levels first second found) :
    equals recur [first, second] around world = (.ok (.bool (found == .eq)), world) := by
  have stands := ordered.stands proper proper'
  have loosely : first.equalWithin .loose levels second = some (found == .eq) := by
    cases found with
    | eq => exact stands
    | lt => exact stands.1
    | gt => exact stands.1
  rw [equals_run, reaches.equal, equalWithin_strict notBool notBool' loosely, Surroundings.reached]

end Reached

/-- The order relations of three values, and their equality, answer as one strict order does.  The
four relations of two values fail together, because the values have no order or because the host
bounds the levels that a comparison may go through and both are nested deeper; otherwise all four
answer, each as it follows from the others.  Nothing is below itself, what is below something is
below whatever that is below, and of two values without booleans one is below the other or they are
equal, and only one of these.  The values belong to one store, as all that evaluation has made do. -/
theorem comparisons_cohere (around : Surroundings) (world : World) (recur : Datum → Eval Datum)
    {store : Store} {a b c : Datum} (proper : ∀ datum ∈ [a, b, c], datum.Every store.Proper) :
    let call (relation : Relation) (first second : Datum) :=
      ordering relation recur [first, second] around world
    let answer (value : Bool) : Except EvalError Datum × World := (.ok (.bool value), world)
    ((∀ relation, call relation a b =
        (.error (.type (.incomparable a.typeName b.typeName relation)), world)) ∨
      (around.IsExceededBy a b ∧ ∀ relation, call relation a b = (.error around.tooDeep, world)) ∨
      ∃ below above, call .less a b = answer below ∧ call .greater a b = answer above ∧
        call .lessOrEqual a b = answer (!above) ∧ call .greaterOrEqual a b = answer (!below) ∧
        call .less b a = answer above ∧
        (a.Every NotBool → b.Every NotBool → ∃ equal,
          equals recur [a, b] around world = answer equal ∧
            [below, equal, above].count true = 1)) ∧
    call .less a a ≠ answer true ∧
    (call .less a b = answer true → call .less b c = answer true →
      call .less a c = answer true) := by
  intro call answer
  have properA := proper a (by simp)
  have properB := proper b (by simp)
  have properC := proper c (by simp)
  obtain ⟨levels, reaches⟩ := around.exists_reaches fun datum isDatum => (proper datum isDatum).holds
  have related : around.Reaches levels a b := reaches a (by simp) b (by simp)
  refine ⟨?_, ?_, ?_⟩
  · obtain tooDeep | ⟨blamed, failed⟩ | ⟨found, ordered⟩ :=
      relateWithin_cases levels properA.notNan properB.notNan
    · right
      left
      have deep relation : around.relate relation a b = .error around.tooDeep := by
        rw [related.relate, tooDeep relation, Surroundings.reached]
      exact ⟨(Surroundings.relate_fails (deep .less)).1,
        fun relation => ordering_of_tooDeep (deep relation) recur world⟩
    · left
      intro relation
      show ordering _ _ _ _ _ = _
      rw [ordering_run, related.relate, failed relation, Surroundings.reached]
    · right
      right
      have turned := ordered.swap properA properB
      have turnedAnswer : (found == .gt) = Relation.less.holds found.swap := by cases found <;> rfl
      refine ⟨found == .lt, found == .gt, ordering_of_ordered recur world related ordered .less,
        ordering_of_ordered recur world related ordered .greater,
        ordering_of_ordered recur world related ordered .lessOrEqual,
        ordering_of_ordered recur world related ordered .greaterOrEqual, ?_, ?_⟩
      · show _ = (_, _)
        rw [turnedAnswer]
        exact ordering_of_ordered recur world (reaches b (by simp) a (by simp)) turned .less
      · intro notBool notBool'
        refine ⟨_, equals_of_ordered recur world related properA properB notBool notBool' ordered, ?_⟩
        cases found <;> rfl
  · intro below
    have ordered := ordered_of_less recur world (reaches a (by simp) a (by simp)) properA.notNan
      properA.notNan below
    have turned := ordered.swap properA properA
    cases (ordered .less).symm.trans (turned .less)
  · intro below below'
    have ordered := ordered_of_less recur world related properA.notNan properB.notNan below
    have ordered' := ordered_of_less recur world (reaches b (by simp) c (by simp)) properB.notNan
      properC.notNan below'
    have stands := chains store levels properA properB properC (by decide) (by decide)
      (ordered.stands properA properB) (ordered'.stands properB properC)
    exact ordering_of_ordered recur world (reaches a (by simp) c (by simp)) stands.2 .less

/-- Two numbers within 3000 lists each, `1` and `2`, are values without booleans that are neither
found to have no order nor compared. -/
theorem comparisons_cohere_too_deep :
    let call (relation : Relation) :=
      ordering relation (evaluateFor .default 5) [.nested 0 3000 (.int 1), .nested 3000 3000 (.int 2)]
        ((Evaluator.mk 100 .default).surroundings (.int 0)) (.ofScope [] 6000)
    (Datum.nested 0 3000 (.int 1)).Every NotNan ∧ (Datum.nested 3000 3000 (.int 2)).Every NotNan ∧
      ¬((∀ relation, ∃ cause, (call relation).1 = .error (.type cause)) ∨
        (∀ relation, ∃ value, (call relation).1 = .ok value)) := by
  intro call
  have lists (mark : Mark) (items : List Datum) : (Datum.list (some mark) items).NotNan := nofun
  have number (value : Int) : (Datum.int value).Every NotNan := .intro nofun nofun
  have failed (relation : Relation) : (call relation).1 = .error (.limitExceeded 100) :=
    congrArg Prod.fst (ordering_of_tooDeep (Surroundings.relate_nested rfl (by decide) (by decide)
      relation (.int 1) (.int 2)) (evaluateFor .default 5) (.ofScope [] 6000))
  refine ⟨every_nested (number 1) lists 0 3000, every_nested (number 2) lists 3000 3000, ?_⟩
  rintro (types | values)
  · obtain ⟨cause, found⟩ := types .less
    cases (failed .less).symm.trans found
  · obtain ⟨value, found⟩ := values .less
    cases (failed .less).symm.trans found

/-- `((nil 1) "x")`, `((nil true) "y")` and `((nil 1) "z")`, of which the first items are equal one by
one and have no order: the first is below the second, which is below the third. -/
theorem comparisons_cohere_lists :
    let heads : List (List Datum) := [[.nil, .int 1], [.nil, .bool true], [.nil, .int 1]]
    let store : Store := ⟨fun mark => heads.getD mark [], fun _ => []⟩
    let pair (mark : Mark) (text : String) : Datum :=
      .list none [.list (some mark) (heads.getD mark []), .string text]
    (∀ datum ∈ [pair 0 "x", pair 1 "y", pair 2 "z"], datum.Every store.Proper) ∧
      ordering .less (evaluateFor .default 5) [pair 0 "x", pair 2 "z"]
        ((Evaluator.mk 100 .default).surroundings (.int 0)) (.ofScope [] 3) =
          (.ok (.bool true), .ofScope [] 3) := by
  intro heads store pair
  have proper : ∀ datum ∈ [pair 0 "x", pair 1 "y", pair 2 "z"], datum.Every store.Proper := by
    have nil : Datum.nil.Every store.Proper := .intro ⟨trivial, nofun⟩ nofun
    have one : (Datum.int 1).Every store.Proper := .intro ⟨trivial, nofun⟩ nofun
    have truth : (Datum.bool true).Every store.Proper := .intro ⟨trivial, nofun⟩ nofun
    have pairs mark text (every : ∀ item ∈ heads.getD mark [], item.Every store.Proper) :
        (pair mark text).Every store.Proper := by
      have texts : (Datum.string text).Every store.Proper := .intro ⟨trivial, nofun⟩ nofun
      have first : (Datum.list (some mark) (heads.getD mark [])).Every store.Proper :=
        .intro ⟨rfl, nofun⟩ every
      exact .intro ⟨trivial, nofun⟩ (List.forall_mem_cons.mpr ⟨first, List.forall_mem_singleton.mpr texts⟩)
    simp only [List.forall_mem_cons]
    exact ⟨pairs 0 "x" (by simp [heads, nil, one]), pairs 1 "y" (by simp [heads, nil, truth]),
      pairs 2 "z" (by simp [heads, nil, one]), nofun⟩
  obtain ⟨-, -, trans⟩ := comparisons_cohere ((Evaluator.mk 100 .default).surroundings (.int 0))
    (.ofScope [] 3) (evaluateFor .default 5) proper
  exact ⟨proper, trans rfl rfl⟩

end Primitive

end SandboxLisp
