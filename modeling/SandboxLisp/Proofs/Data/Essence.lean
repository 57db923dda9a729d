import SandboxLisp.Datum.Order

/-!
# What a comparison sees of data without parts

Integers and doubles are compared exactly, so they have ranks on one line, with the two infinities at
its ends.  Equality and order look at nothing else of a number, and of any datum without parts
they look at its essence only: two such data are equal if they have one essence, and the order
compares essences that are both ranks or both texts.
-/

namespace SandboxLisp

/-- Where a number stands on the line: at an end, or at a count of units. -/
inductive Rank where
  | lowest
  | at (units : Int)
  | highest
deriving DecidableEq

namespace Rank

/-- The order of two ranks. -/
def compare : Rank → Rank → Ordering
  | .at units, .at units' => Ord.compare units units'
  | .lowest, .lowest => .eq
  | .highest, .highest => .eq
  | .lowest, _ => .lt
  | _, .lowest => .gt
  | .highest, _ => .gt
  | _, .highest => .lt

theorem compare_swap (first second : Rank) : second.compare first = (first.compare second).swap := by
  cases first <;> cases second <;> simp [compare, Int.compare_swap]

theorem compare_eq_iff {first second : Rank} : first.compare second = .eq ↔ first = second := by
  cases first <;> cases second <;> simp [compare]

theorem compare_trans {first second third : Rank} (below : first.compare second = .lt)
    (below' : second.compare third = .lt) : first.compare third = .lt := by
  cases first <;> cases second <;> simp only [compare, reduceCtorEq] at below <;>
    cases third <;> simp only [compare, reduceCtorEq] at below' ⊢
  exact Std.TransCmp.lt_trans below below'

end Rank

namespace Number

/-- The rank of a number; what is not a number has none. -/
def rank? : Number → Option Rank
  | .int value => some (.at (value * (Double.unitsPerOne : Int)))
  | .double (.finite negative magnitude) => some (.at (Double.signedUnits negative magnitude))
  | .double (.infinite true) => some .lowest
  | .double (.infinite false) => some .highest
  | .nan => none

/-- Two integers are ordered as their units. -/
theorem compare_units (first second : Int) :
    Ord.compare (first * (Double.unitsPerOne : Int)) (second * (Double.unitsPerOne : Int)) =
      Ord.compare first second := by
  have positive : (0 : Int) < Double.unitsPerOne := Int.natCast_pos.mpr Double.unitsPerOne_pos
  rcases Int.lt_trichotomy first second with below | rfl | above
  · rw [Int.compare_eq_lt.mpr below,
      Int.compare_eq_lt.mpr (Int.mul_lt_mul_of_pos_right below positive)]
  · rw [Int.compare_eq_eq.mpr rfl, Int.compare_eq_eq.mpr rfl]
  · rw [Int.compare_eq_gt.mpr above,
      Int.compare_eq_gt.mpr (Int.mul_lt_mul_of_pos_right above positive)]

/-- The order of numbers is that of their ranks. -/
theorem compare?_eq (first second : Number) :
    compare? first second = do return (← first.rank?).compare (← second.rank?) := by
  rcases first with _ | (⟨_, _⟩ | ⟨_ | _⟩) | _ <;> rcases second with _ | (⟨_, _⟩ | ⟨_ | _⟩) | _ <;>
    simp [compare?, rank?, Rank.compare, Double.compare, Double.compareInt, compare_units,
      Int.compare_swap]

/-- Numbers are equal if they have one rank. -/
theorem equal_iff (first second : Number) :
    first.equal second ↔ ∃ rank, first.rank? = some rank ∧ second.rank? = some rank := by
  rw [equal, compare?_eq]
  cases first.rank? with
  | none => simp
  | some rank =>
    cases second.rank? with
    | none => simp
    | some rank' =>
      simp [Rank.compare_eq_iff, @eq_comm _ rank]

/-- Every number has a rank but the result that is not a number. -/
theorem exists_rank {number : Number} (isNumber : number ≠ .nan) :
    ∃ rank, number.rank? = some rank := by
  rcases number with _ | (⟨_, _⟩ | ⟨_ | _⟩) | _
  case nan => exact absurd rfl isNumber
  all_goals exact ⟨_, rfl⟩

end Number

/-- Texts are ordered as the lists of the codes of their characters. -/
theorem Datum.compareCodes_eq (first second : List Char) :
    compareCodes first second = Ord.compare (first.map Char.toNat) (second.map Char.toNat) := by
  induction first generalizing second with
  | nil => cases second <;> rfl
  | cons character rest ih =>
    cases second with
    | nil => rfl
    | cons character' rest' =>
      rw [compareCodes, List.map_cons, List.map_cons, List.compare_cons_cons, ih]
      cases Ord.compare character.toNat character'.toNat <;> rfl

/-- What a comparison sees of a datum that has no parts. -/
inductive Essence where
  | nil
  | bool (value : Bool)
  | number (rank : Rank)
  | nan (mark : Mark)
  | string (text : String)
  | symbol (name : String)
  | closure (mark : Mark)
deriving DecidableEq

namespace Essence

/-- The order of two essences, if they have one. -/
def compare? : Essence → Essence → Option Ordering
  | .number first, .number second => some (first.compare second)
  | .string first, .string second => some (Datum.compareCodes first.toList second.toList)
  | _, _ => none

/-- Looked at from the other side, the order is the other way round. -/
theorem compare?_swap (first second : Essence) :
    second.compare? first = (first.compare? second).map Ordering.swap := by
  cases first <;> cases second <;> try rfl
  · exact congrArg some (Rank.compare_swap _ _)
  · simp only [compare?, Datum.compareCodes_eq, Option.map_some, Option.some.injEq]
    exact Std.OrientedCmp.eq_swap

/-- Two essences that are ordered as equal are one. -/
theorem compare?_eq_iff {first second : Essence} (ordered : (first.compare? second).isSome) :
    first.compare? second = some .eq ↔ first = second := by
  cases first <;> cases second <;> try simp [compare?] at ordered
  · simp [compare?, Rank.compare_eq_iff]
  · rename_i text text'
    simp only [compare?, Datum.compareCodes_eq, Option.some.injEq, string.injEq]
    rw [Std.LawfulEqCmp.compare_eq_iff_eq, List.map_inj_right fun _ _ same => Char.toNat_inj.mp same,
      String.toList_inj]

/-- The order of essences is transitive. -/
theorem compare?_trans {first second third : Essence} (below : first.compare? second = some .lt)
    (below' : second.compare? third = some .lt) : first.compare? third = some .lt := by
  cases first <;> cases second <;> simp only [compare?, reduceCtorEq] at below <;>
    cases third <;> simp only [compare?, reduceCtorEq, Option.some.injEq] at below'
  · rw [Option.some.injEq] at below
    exact congrArg some (Rank.compare_trans below below')
  · rw [Option.some.injEq, Datum.compareCodes_eq] at below
    rw [Datum.compareCodes_eq] at below'
    simpa [compare?, Datum.compareCodes_eq] using Std.TransCmp.lt_trans below below'

end Essence

namespace Datum

/-- The essence of a datum without parts, under a way of looking at booleans. -/
def essence? (matching : Matching) : Datum → Option Essence
  | .nil => some .nil
  | .bool value =>
      match matching with
      | .strict => some (.bool value)
      | .loose => (numberOfBool value).rank?.map .number
  | .int value => (Number.int value).rank?.map .number
  | .double value => (Number.double value).rank?.map .number
  | .nan mark => some (.nan mark)
  | .string text => some (.string text)
  | .symbol name => some (.symbol name)
  | .list _ _ => none
  | .object _ _ => none
  | .closure mark _ _ _ _ => some (.closure mark)

/-- Whether a datum has no parts. -/
def isAtom : Datum → Bool
  | .list _ _ => false
  | .object _ _ => false
  | _ => true

/-- A datum without parts has an essence. -/
theorem exists_essence (matching : Matching) (datum : Datum) (isAtom : datum.isAtom) :
    ∃ essence, datum.essence? matching = some essence := by
  cases datum with
  | bool value => cases matching <;> exact ⟨_, rfl⟩
  | double value =>
    obtain ⟨rank, found⟩ := @Number.exists_rank (.double value) nofun
    exact ⟨.number rank, congrArg (Option.map Essence.number) found⟩
  | list mark items => cases isAtom
  | object mark fields => cases isAtom
  | _ => exact ⟨_, rfl⟩

/-- The number that equality compares is what it sees of a datum. -/
theorem essence?_of_measure? {matching : Matching} {datum : Datum} {number : Number}
    (measured : datum.measure? matching = some number) :
    datum.essence? matching = number.rank?.map .number := by
  cases datum <;> cases matching <;> simp_all [measure?, essence?]

/-- Data without parts are equal if they have one essence. -/
theorem atomsEqual_iff (matching : Matching) (first second : Datum) :
    atomsEqual matching first second ↔
      ∃ essence, first.essence? matching = some essence ∧
        second.essence? matching = some essence := by
  unfold atomsEqual
  cases measured : first.measure? matching with
  | some number =>
    rw [essence?_of_measure? measured]
    cases measured' : second.measure? matching with
    | some number' =>
      rw [essence?_of_measure? measured']
      simp only [Number.equal_iff, Option.map_eq_some_iff]
      constructor
      · rintro ⟨rank, one, other⟩
        exact ⟨.number rank, ⟨rank, one, rfl⟩, rank, other, rfl⟩
      · rintro ⟨_, ⟨rank, one, rfl⟩, rank', other, same⟩
        cases same
        exact ⟨rank, one, other⟩
    | none =>
      cases second <;> cases matching <;> simp_all [measure?, essence?]
  | none =>
    cases measured' : second.measure? matching with
    | some number' =>
      rw [essence?_of_measure? measured']
      cases first <;> cases matching <;> simp_all [measure?, essence?]
    | none =>
      cases first <;> cases matching <;> simp only [measure?, reduceCtorEq] at measured <;>
        cases second <;> simp_all [measure?, essence?]
      all_goals exact eq_comm

/-- A datum without parts is equal to itself. -/
theorem atomsEqual_self (matching : Matching) {datum : Datum} (isAtom : datum.isAtom) :
    atomsEqual matching datum datum := by
  obtain ⟨essence, seen⟩ := exists_essence matching datum isAtom
  exact (atomsEqual_iff matching datum datum).mpr ⟨essence, seen, seen⟩

/-- Whether a datum is anything but a result that is not a number. -/
def NotNan (datum : Datum) : Prop :=
  ∀ mark, datum ≠ .nan mark

/-- The rank of the number that the order compares is what it sees of a datum. -/
theorem essence?_of_orderNumber? {datum : Datum} {number : Number} (notNan : datum.NotNan)
    (measured : datum.orderNumber? = some number) :
    ∃ rank, number.rank? = some rank ∧ datum.essence? .loose = some (.number rank) := by
  have isNumber : number ≠ .nan := by
    rintro rfl
    cases datum <;> simp_all [orderNumber?, number?, NotNan, numberOfBool]
  obtain ⟨rank, found⟩ := Number.exists_rank isNumber
  refine ⟨rank, found, ?_⟩
  cases datum <;> simp_all [orderNumber?, number?, essence?]

/-- A datum that is seen as a rank is compared as a number. -/
theorem orderNumber?_of_essence? {datum : Datum} {rank : Rank}
    (seen : datum.essence? .loose = some (.number rank)) :
    ∃ number, datum.orderNumber? = some number := by
  cases datum <;> simp_all [orderNumber?, number?, essence?]

/-- A datum that is seen as a text is that text. -/
theorem eq_string_of_essence? {datum : Datum} {matching : Matching} {text : String}
    (seen : datum.essence? matching = some (.string text)) : datum = .string text := by
  cases datum <;> cases matching <;> simp_all [essence?]

/-- The order of data without parts is that of their essences. -/
theorem relateAtoms_eq (relation : Relation) {first second : Datum} (notNan : first.NotNan)
    (notNan' : second.NotNan) :
    relateAtoms relation first second =
      match (do (← first.essence? .loose).compare? (← second.essence? .loose)) with
      | some ordering => .ok (relation.holds ordering)
      | none => .error (first, second) := by
  unfold relateAtoms
  split
  · next number number' measured measured' =>
    obtain ⟨rank, found, seen⟩ := essence?_of_orderNumber? notNan measured
    obtain ⟨rank', found', seen'⟩ := essence?_of_orderNumber? notNan' measured'
    simp [Number.compare?_eq, found, found', seen, seen', Essence.compare?]
  · next unmeasured =>
    split
    · simp [essence?, Essence.compare?]
    · next unwritten =>
      have unordered : (do (← first.essence? .loose).compare? (← second.essence? .loose)) = none := by
        cases seen : first.essence? .loose with
        | none => rfl
        | some essence =>
          cases seen' : second.essence? .loose with
          | none => rfl
          | some essence' =>
            cases essence <;> cases essence' <;> try rfl
            · obtain ⟨number, measured⟩ := orderNumber?_of_essence? seen
              obtain ⟨number', measured'⟩ := orderNumber?_of_essence? seen'
              exact absurd measured' (unmeasured _ _ measured)
            · exact absurd (eq_string_of_essence? seen') (unwritten _ _ (eq_string_of_essence? seen))
      rw [unordered]

end Datum

end SandboxLisp
