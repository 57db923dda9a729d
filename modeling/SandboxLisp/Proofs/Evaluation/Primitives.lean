import SandboxLisp.Proofs.Evaluation.Steady
import SandboxLisp.Registry

/-!
# The default primitives are steady

No default primitive evaluates anything, looks at the bindings of its caller or binds a name.  Each
is put together from conversions, texts and fresh marks, so it is steady; `isSteady_of_get?` says so
of the whole registry.
-/

namespace SandboxLisp.Primitive

open Eval

/-- A primitive that is steady whatever it is given and makes no use of evaluation. -/
structure IsSteady (primitive : Primitive) : Prop where
  steady (recur : Datum → Eval Datum) (arguments : List Datum) : Steady (primitive recur arguments)
  ignores (recur recur' : Datum → Eval Datum) (arguments : List Datum) :
    primitive recur arguments = primitive recur' arguments

/-! ### Numbers of arguments -/

theorem isSteady_variadic {body : List Datum → Eval Datum}
    (steady : ∀ arguments, Steady (body arguments)) : IsSteady (variadic body) :=
  ⟨fun _ arguments => steady arguments, fun _ _ _ => rfl⟩

theorem isSteady_atLeastOne {name : String} {body : Datum → List Datum → Eval Datum}
    (steady : ∀ first rest, Steady (body first rest)) : IsSteady (atLeastOne name body) := by
  refine ⟨fun recur arguments => ?_, fun _ _ _ => rfl⟩
  unfold atLeastOne
  split
  · exact steady _ _
  · exact .fail _

theorem isSteady_unary {name : String} {body : Datum → Eval Datum}
    (steady : ∀ argument, Steady (body argument)) : IsSteady (unary name body) := by
  refine ⟨fun recur arguments => ?_, fun _ _ _ => rfl⟩
  unfold unary
  split
  · exact steady _
  · exact .fail _

theorem isSteady_binary {name : String} {body : Datum → Datum → Eval Datum}
    (steady : ∀ first second, Steady (body first second)) : IsSteady (binary name body) := by
  refine ⟨fun recur arguments => ?_, fun _ _ _ => rfl⟩
  unfold binary
  split
  · exact steady _ _
  · exact .fail _

theorem isSteady_ternary {name : String} {body : Datum → Datum → Datum → Eval Datum}
    (steady : ∀ first second third, Steady (body first second third)) :
    IsSteady (ternary name body) := by
  refine ⟨fun recur arguments => ?_, fun _ _ _ => rfl⟩
  unfold ternary
  split
  · exact steady _ _ _
  · exact .fail _

theorem isSteady_oneOrTwo {name : String} {body : Datum → Option Datum → Eval Datum}
    (steady : ∀ first second, Steady (body first second)) : IsSteady (oneOrTwo name body) := by
  refine ⟨fun recur arguments => ?_, fun _ _ _ => rfl⟩
  unfold oneOrTwo
  split
  · exact steady _ _
  · exact steady _ _
  · exact .fail _

theorem isSteady_twoOrThree {name : String} {body : Datum → Datum → Option Datum → Eval Datum}
    (steady : ∀ first second third, Steady (body first second third)) :
    IsSteady (twoOrThree name body) := by
  refine ⟨fun recur arguments => ?_, fun _ _ _ => rfl⟩
  unfold twoOrThree
  split
  · exact steady _ _ _
  · exact steady _ _ _
  · exact .fail _

theorem isSteady_oneToThree {name : String}
    {body : Datum → Option Datum → Option Datum → Eval Datum}
    (steady : ∀ first second third, Steady (body first second third)) :
    IsSteady (oneToThree name body) := by
  refine ⟨fun recur arguments => ?_, fun _ _ _ => rfl⟩
  unfold oneToThree
  split
  · exact steady _ _ _
  · exact steady _ _ _
  · exact steady _ _ _
  · exact .fail _

/-! ### Types of arguments -/

theorem steady_expectNumber (name : String) (argument : Datum) :
    Steady (expectNumber name argument) := by
  unfold expectNumber
  split
  · exact .pure _
  · exact .fail _

theorem steady_expectInteger (name : String) (argument : Datum) :
    Steady (expectInteger name argument) := by
  unfold expectInteger
  split
  · split
    · exact .pure _
    · exact .fail _
  · exact .fail _

theorem steady_expectString (name : String) (argument : Datum) :
    Steady (expectString name argument) := by
  unfold expectString
  split
  · exact .pure _
  · exact .fail _

theorem steady_expectList (name : String) (argument : Datum) :
    Steady (expectList name argument) := by
  unfold expectList
  split
  · exact .pure _
  · exact .fail _

theorem steady_expectObject (name : String) (argument : Datum) :
    Steady (expectObject name argument) := by
  unfold expectObject
  split
  · exact .pure _
  · exact .fail _

theorem steady_displayOrNothing (argument : Datum) : Steady (displayOrNothing argument) := by
  unfold displayOrNothing
  split
  · exact .pure _
  · exact .text _ _

/-! ### Arithmetic -/

theorem isSteady_add : IsSteady add := by
  apply isSteady_variadic
  intro arguments
  split
  · exact (Steady.mapM steady_displayOrNothing arguments).map _
  · split
    · exact (Steady.ofNumber _).bind .number
    · exact .fail _

theorem isSteady_subtract : IsSteady subtract := by
  apply isSteady_atLeastOne
  intro first rest
  refine (steady_expectNumber _ _).bind fun start => ?_
  refine (Steady.mapM (steady_expectNumber _) rest).bind fun others => ?_
  split
  · exact .number _
  · exact (Steady.ofNumber _).bind .number

theorem isSteady_multiply : IsSteady multiply := by
  apply isSteady_variadic
  intro arguments
  refine Steady.bind (Steady.foldlM ?_ arguments _) .number
  intro product argument
  exact (steady_expectNumber _ _).bind fun factor => .ofNumber _

theorem isSteady_divide : IsSteady divide := by
  apply isSteady_atLeastOne
  intro first rest
  refine (steady_expectNumber _ _).bind fun start => ?_
  refine (Steady.mapM (steady_expectNumber _) rest).bind fun divisors => ?_
  split
  · exact .pure _
  · refine Steady.bind (Steady.foldlM ?_ _ _) .number
    intro quotient divisor
    split
    · exact .fail _
    · exact .ofNumber _

theorem isSteady_modulo : IsSteady modulo := by
  apply isSteady_binary
  intro first second
  refine (steady_expectNumber _ _).bind fun dividend => ?_
  refine (steady_expectNumber _ _).bind fun divisor => ?_
  split
  · exact .fail _
  · exact (Steady.ofNumber _).bind .number

theorem isSteady_arithmetic : ∀ entry ∈ arithmetic, IsSteady entry.2 := by
  simp [arithmetic, isSteady_add, isSteady_subtract, isSteady_multiply, isSteady_divide,
    isSteady_modulo]

/-! ### Comparison and logic -/

theorem isSteady_ordering (relation : Relation) : IsSteady (ordering relation) := by
  apply isSteady_binary
  intro first second
  apply Steady.ask
  · intro around
    refine (Steady.ofExcept _).bind fun answer => ?_
    split
    · exact .pure _
    · exact .fail _
  · intro clock limit other
    rfl

theorem isSteady_comparison : ∀ entry ∈ comparison, IsSteady entry.2 := by
  have equals : IsSteady equals :=
    isSteady_binary fun first second => (Steady.equal first second).map _
  have differs : IsSteady differs :=
    isSteady_binary fun first second => (Steady.equal first second).map _
  simp [comparison, equals, differs, isSteady_ordering]

theorem isSteady_logic : ∀ entry ∈ logic, IsSteady entry.2 := by
  have conjunction : IsSteady conjunction := isSteady_variadic fun _ => .pure _
  have disjunction : IsSteady disjunction := isSteady_variadic fun _ => .pure _
  have negation : IsSteady negation := isSteady_unary fun _ => .pure _
  simp [logic, conjunction, disjunction, negation]

/-! ### Strings -/

theorem isSteady_parseInteger : IsSteady parseInteger := by
  apply isSteady_oneOrTwo
  intro subject radixArgument
  extract_lets goOn
  have steady : ∀ radix, Steady (goOn radix) := by
    intro radix
    unfold goOn
    split
    · refine (Steady.text _ _).bind fun shown => ?_
      exact (Steady.ofNumber _).map _
    · exact .pure _
  split
  · split
    · exact (Steady.pure _).bind steady
    · exact (steady_expectInteger _ _).bind steady
  · exact (Steady.pure _).bind steady

theorem isSteady_substring : IsSteady substring := by
  apply isSteady_twoOrThree
  intro subject startArgument endArgument
  refine (steady_expectString _ _).bind fun characters => ?_
  refine (steady_expectInteger _ _).bind fun start => ?_
  extract_lets goOn
  have steady : ∀ stop, Steady (goOn stop) := fun stop => .pure _
  split
  · exact ((steady_expectInteger _ _).map _).bind steady
  · exact (Steady.pure _).bind steady

theorem isSteady_join : IsSteady join := by
  apply isSteady_oneOrTwo
  intro list separatorArgument
  refine (steady_expectList _ _).bind fun items => ?_
  extract_lets goOn
  have steady : ∀ separator, Steady (goOn separator) := fun separator =>
    (Steady.mapM steady_displayOrNothing items).map _
  split
  · exact (Steady.text _ _).bind steady
  · exact (Steady.pure _).bind steady

/-- A primitive that computes something from two strings. -/
theorem steady_ofTwoStrings {name : String} (first second : Datum)
    {body : List Char → List Char → Eval Datum} (steady : ∀ one other, Steady (body one other)) :
    Steady (expectString name first >>= fun one => expectString name second >>= body one) :=
  (steady_expectString _ _).bind fun one => (steady_expectString _ _).bind (steady one)

theorem isSteady_replace : IsSteady replace := by
  apply isSteady_ternary
  intro subject old new
  apply steady_ofTwoStrings
  intro characters pattern
  exact (steady_expectString _ _).bind fun replacement => .pure _

theorem isSteady_strings : ∀ entry ∈ strings, IsSteady entry.2 := by
  have concat : IsSteady concat :=
    isSteady_variadic fun arguments => (Steady.mapM (Steady.text _) arguments).map _
  have toText : IsSteady toText := isSteady_unary fun _ => (Steady.text _ _).map _
  have stringLength : IsSteady stringLength :=
    isSteady_unary fun _ => (steady_expectString _ _).map _
  have startsWith : IsSteady startsWith :=
    isSteady_binary fun first second => steady_ofTwoStrings first second fun _ _ => .pure _
  have endsWith : IsSteady endsWith :=
    isSteady_binary fun first second => steady_ofTwoStrings first second fun _ _ => .pure _
  have containsText : IsSteady containsText :=
    isSteady_binary fun first second => steady_ofTwoStrings second first fun _ _ => .pure _
  have split : IsSteady split :=
    isSteady_binary fun first second => steady_ofTwoStrings first second fun _ _ => .newList _
  have trim : IsSteady trim := isSteady_unary fun _ => (steady_expectString _ _).map _
  have upper : IsSteady upper := isSteady_unary fun _ => (steady_expectString _ _).map _
  have lower : IsSteady lower := isSteady_unary fun _ => (steady_expectString _ _).map _
  have parseNumber : IsSteady parseNumber :=
    isSteady_unary fun _ => (Steady.text _ _).bind fun _ => (Steady.ofNumber _).bind .number
  simp [strings, concat, toText, stringLength, isSteady_substring, startsWith, endsWith,
    containsText, isSteady_replace, split, isSteady_join, trim, upper, lower, parseNumber,
    isSteady_parseInteger]

/-! ### Lists -/

theorem isSteady_range : IsSteady range := by
  apply isSteady_oneToThree
  intro first second third
  extract_lets goOn
  have steady : ∀ bounds, Steady (goOn bounds) := by
    rintro ⟨start, finish⟩
    simp only [goOn]
    have lists (step : Number) :
        Steady (ofNumber (progression start finish step) >>= fun numbers =>
          numbers.mapM number >>= newList) :=
      (Steady.ofNumber _).bind fun numbers => (Steady.mapM Steady.number numbers).bind .newList
    split
    · exact (Steady.pure _).bind lists
    · exact (steady_expectNumber _ _).bind lists
  split
  · exact (steady_expectNumber _ _).bind fun finish => (Steady.pure _).bind steady
  · refine (steady_expectNumber _ _).bind fun start => ?_
    exact (steady_expectNumber _ _).bind fun finish => (Steady.pure _).bind steady

theorem isSteady_slice : IsSteady slice := by
  apply isSteady_oneToThree
  intro list startArgument endArgument
  refine (steady_expectList _ _).bind fun items => ?_
  extract_lets goOn
  have steady : ∀ start, Steady (goOn start) := by
    intro start
    unfold goOn
    extract_lets cutOut
    have cuts : ∀ stop, Steady (cutOut stop) := fun stop => .newList _
    split
    · exact ((steady_expectInteger _ _).map _).bind cuts
    · exact (Steady.pure _).bind cuts
  split
  · exact ((steady_expectInteger _ _).map _).bind steady
  · exact (Steady.pure _).bind steady

theorem steady_indexAmong (needle : Datum) :
    (items : List Datum) → (index : Nat) → Steady (indexAmong needle index items)
  | [], _ => .pure _
  | item :: rest, index => by
      refine (Steady.equal item needle).bind fun found => ?_
      split
      · exact .pure _
      · exact steady_indexAmong needle rest (index + 1)

theorem steady_indexIn (haystack needle : Datum) : Steady (indexIn haystack needle) := by
  unfold indexIn
  split
  · exact .pure _
  · exact .pure _
  · exact steady_indexAmong _ _ _
  · exact .fail _

theorem isSteady_lists : ∀ entry ∈ lists, IsSteady entry.2 := by
  have list : IsSteady list := isSteady_variadic .newList
  have length : IsSteady length := by
    apply isSteady_unary
    intro argument
    split
    · exact .pure _
    · exact .pure _
    · exact .fail _
  have isEmpty : IsSteady isEmpty := by
    apply isSteady_unary
    intro argument
    split
    · exact .pure _
    · exact .pure _
    · exact .fail _
  have first : IsSteady first := isSteady_unary fun _ => (steady_expectList _ _).map _
  have last : IsSteady last := isSteady_unary fun _ => (steady_expectList _ _).map _
  have rest : IsSteady rest :=
    isSteady_unary fun _ => (steady_expectList _ _).bind fun _ => .newList _
  have reverse : IsSteady reverse :=
    isSteady_unary fun _ => (steady_expectList _ _).bind fun _ => .newList _
  have append : IsSteady append :=
    isSteady_binary fun _ _ => (steady_expectList _ _).bind fun _ => .newList _
  have prepend : IsSteady prepend :=
    isSteady_binary fun _ _ => (steady_expectList _ _).bind fun _ => .newList _
  have nth : IsSteady nth :=
    isSteady_binary fun _ _ => (steady_expectList _ _).bind fun _ => (steady_expectInteger _ _).map _
  have concatLists : IsSteady concatLists :=
    isSteady_variadic fun arguments =>
      (Steady.mapM (steady_expectList _) arguments).bind fun _ => .newList _
  have contains : IsSteady contains :=
    isSteady_binary fun haystack needle => (steady_indexIn haystack needle).map _
  have indexOf : IsSteady indexOf := by
    apply isSteady_binary
    intro haystack needle
    refine (steady_indexIn haystack needle).bind fun found => ?_
    split
    · exact .pure _
    · exact .pure _
  simp [lists, list, length, first, rest, last, nth, append, prepend, concatLists, isSteady_slice,
    reverse, isSteady_range, isEmpty, contains, indexOf]

/-! ### Objects -/

theorem steady_keyOf (key : Datum) : Steady (keyOf key) := by
  unfold keyOf
  split
  · exact .pure _
  · exact .text _ _

theorem steady_writePairs :
    (pairs : List Datum) → (fields : List (String × Datum)) → Steady (writePairs fields pairs)
  | [], _ => .pure _
  | [key], _ => (steady_keyOf key).map _
  | key :: value :: rest, fields =>
      (steady_keyOf key).bind fun name => steady_writePairs rest (Table.put fields name value)

theorem steady_follow (current key : Datum) : Steady (follow current key) := by
  unfold follow
  split
  · exact (steady_keyOf key).map _
  · exact .pure _
  · exact .pure _
  · exact .pure _

theorem steady_followAll : (keys : List Datum) → (current : Datum) → Steady (followAll current keys)
  | [], _ => .pure _
  | key :: rest, current => by
      unfold followAll
      split
      · exact .pure _
      · exact (steady_follow current key).bind fun found => steady_followAll rest found

theorem steady_mergeAll (objects : List Datum) (fields : List (String × Datum)) :
    Steady (mergeAll fields objects) := by
  fun_induction mergeAll fields objects with
  | case1 => exact .pure _
  | case2 _ _ steady => exact steady
  | case3 fields argument rest other steady =>
      exact (steady_expectObject _ _).bind steady

theorem isSteady_set : IsSteady set := by
  apply isSteady_ternary
  intro target key value
  extract_lets goOn
  have steady : ∀ fields, Steady (goOn fields) := fun fields =>
    (steady_keyOf _).bind fun name => .newObject _
  split
  · exact (Steady.pure _).bind steady
  · exact (steady_expectObject _ _).bind steady

theorem isSteady_updateAt : IsSteady updateAt := by
  apply isSteady_ternary
  intro list indexArgument item
  refine (steady_expectList _ _).bind fun items => ?_
  refine (steady_expectInteger _ _).bind fun index => ?_
  split
  · split
    · exact .fail _
    · exact .fail _
  · split
    · exact .fail _
    · split
      · exact .fail _
      · exact .newList _

theorem isSteady_objects : ∀ entry ∈ objects, IsSteady entry.2 := by
  have object : IsSteady object :=
    isSteady_variadic fun arguments => (steady_writePairs arguments []).bind .newObject
  have get : IsSteady get :=
    isSteady_atLeastOne fun first rest => steady_followAll rest first
  have keys : IsSteady keys :=
    isSteady_unary fun _ => (steady_expectObject _ _).bind fun _ => .newList _
  have values : IsSteady values :=
    isSteady_unary fun _ => (steady_expectObject _ _).bind fun _ => .newList _
  have hasKey : IsSteady hasKey :=
    isSteady_binary fun _ _ => (steady_keyOf _).bind fun _ => (steady_expectObject _ _).map _
  have merge : IsSteady merge :=
    isSteady_variadic fun arguments => (steady_mergeAll arguments []).bind .newObject
  simp [objects, object, get, isSteady_set, keys, values, hasKey, isSteady_updateAt, merge]

/-! ### Mathematics and types -/

theorem isSteady_numeric (name : String) (function : Number → Except NumberError Number) :
    IsSteady (numeric name function) := by
  apply isSteady_unary
  intro argument
  refine (steady_expectNumber _ _).bind fun value => ?_
  split
  · exact .number _
  · exact .fail _

theorem isSteady_extremum (name : String) (precedes : Number → Number → Bool) :
    IsSteady (extremum name precedes) := by
  apply isSteady_atLeastOne
  intro first rest
  refine ((steady_expectNumber _ _).map _).bind fun _ => ?_
  apply Steady.foldlM
  intro current candidate
  exact (steady_expectNumber _ _).bind fun left => (steady_expectNumber _ _).map _

theorem isSteady_mathematics : ∀ entry ∈ mathematics, IsSteady entry.2 := by
  have raise : IsSteady raise := by
    apply isSteady_binary
    intro base exponent
    refine (steady_expectNumber _ _).bind fun left => ?_
    refine (steady_expectNumber _ _).bind fun right => ?_
    split
    · exact .number _
    · exact .fail _
  have clamp : IsSteady clamp := by
    apply isSteady_ternary
    intro subject low high
    refine (steady_expectNumber _ _).bind fun value => ?_
    refine (steady_expectNumber _ _).bind fun lowest => ?_
    exact (steady_expectNumber _ _).map _
  simp [mathematics, isSteady_numeric, isSteady_extremum, raise, clamp]

theorem isSteady_predicates : ∀ entry ∈ predicates, IsSteady entry.2 := by
  have test (name : String) (holds : Datum → Bool) : IsSteady (test name holds) :=
    isSteady_unary fun _ => .pure _
  simp [predicates, test]

/-! ### Time, chance and logging -/

theorem steady_milliseconds : Steady milliseconds := by
  apply Steady.ask
  · intro around
    exact .ofNumber _
  · intro clock limit other
    rfl

theorem isSteady_addUnits (name : String) (unitLength : Int) :
    IsSteady (addUnits name unitLength) := by
  apply isSteady_binary
  intro time count
  refine (steady_expectNumber _ _).bind fun start => ?_
  refine (steady_expectNumber _ _).bind fun units => ?_
  exact (Steady.ofNumber _).bind .number

theorem isSteady_ambient : ∀ entry ∈ ambient, IsSteady entry.2 := by
  have now : IsSteady now := isSteady_variadic fun _ => steady_milliseconds.map _
  have daysSince : IsSteady daysSince := by
    apply isSteady_unary
    intro time
    refine steady_milliseconds.bind fun current => ?_
    exact (steady_expectNumber _ _).bind fun start => (Steady.ofNumber _).map _
  have print : IsSteady print := by
    apply isSteady_variadic
    intro arguments
    refine (Steady.mapM (Steady.text _) arguments).bind fun shown => ?_
    exact (Steady.logLine _).map _
  have random : IsSteady random := isSteady_variadic fun _ => Steady.nextSeed.bind fun _ => .number _
  simp [ambient, now, isSteady_addUnits, daysSince, print, random]

end SandboxLisp.Primitive

namespace SandboxLisp

/-- Every default primitive is steady. -/
theorem isSteady_of_mem_defaultPrimitives {entry : String × Primitive}
    (listed : entry ∈ defaultPrimitives) : entry.2.IsSteady :=
  forall_mem_defaultPrimitives Primitive.isSteady_arithmetic Primitive.isSteady_comparison
    Primitive.isSteady_logic Primitive.isSteady_strings Primitive.isSteady_lists
    Primitive.isSteady_objects Primitive.isSteady_mathematics Primitive.isSteady_predicates
    Primitive.isSteady_ambient entry listed

theorem Registry.isSteady_of_get? {name : String} {primitive : Primitive}
    (found : Registry.default.get? name = some primitive) : primitive.IsSteady :=
  isSteady_of_mem_defaultPrimitives (Table.mem_of_get? found)

end SandboxLisp
