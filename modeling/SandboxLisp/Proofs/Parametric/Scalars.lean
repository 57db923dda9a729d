import SandboxLisp.Primitive.Ambient
import SandboxLisp.Primitive.Comparison
import SandboxLisp.Primitive.Mathematics
import SandboxLisp.Primitive.Strings
import SandboxLisp.Primitive.Types
import SandboxLisp.Proofs.Parametric.Arguments

/-!
# Primitives for numbers, texts and tests

These primitives ask their arguments for numbers or texts and compute with the answers, which are
the same for like arguments.  Whatever a conversion fails with does not depend on the run either.
-/

namespace SandboxLisp.Primitive

open Eval

variable {view : View}

/-! ### Arithmetic -/

theorem isString_eq {pairing : Pairing} {datum datum' : Datum}
    (alike : Alike view pairing datum datum') : isString datum = isString datum' := by
  cases alike <;> rfl

theorem converts_sum (terms : List Number) : Converts (sum terms) :=
  .foldlM Number.converts_add terms _

theorem parametric_add : Parametric view add := by
  apply parametric_variadic
  intro pairing names arguments arguments' alike
  have strings : arguments.any isString = arguments'.any isString := by
    have same := map_eq isString_eq alike
    have anyOf := congrArg (List.any · id) same
    rwa [List.any_map, List.any_map] at anyOf
  have numbers : arguments.mapM Datum.orderNumber? = arguments'.mapM Datum.orderNumber? := by
    have same := map_eq Alike.orderNumber?_eq alike
    have allOf := congrArg (List.mapM id) same
    rwa [List.mapM_map, List.mapM_map] at allOf
  rw [strings, numbers]
  split
  · apply (asks_displayOrNothing view).mapM alike |>.mapSame
    intro later grows shown
    exact .string _
  · split
    · next terms _ =>
      exact (RunAlike.plain (.ofNumber (converts_sum terms))).bindSame .number
    · exact .fail trivial

theorem parametric_subtract : Parametric view subtract := by
  apply parametric_atLeastOne
  intro pairing names first first' rest rest' alike others
  apply ((asks_expectNumber view "-").runAlike alike).bindSame
  intro start
  apply ((asks_expectNumber view "-").mapM others).bindSame
  intro numbers
  split
  · exact .number _
  · apply RunAlike.bindSame (.plain (.ofNumber _)) .number
    exact .foldlM Number.converts_sub _ _

theorem parametric_multiply : Parametric view multiply := by
  apply parametric_variadic
  intro pairing names arguments arguments' alike
  apply RunAlike.bindSame _ .number
  apply RunAlike.foldlM (itemsAlike_iff.mp alike)
  · rintro later grows product _ rfl argument argument' alike
    apply ((asks_expectNumber view "*").runAlike (alike.mono grows)).bindSame
    intro factor
    exact .plain (.ofNumber (Number.converts_mul product factor))
  · intro pairing later grows value value' same
    exact same
  · rfl

theorem plain_divideAll (start : Number) (divisors : List Number) :
    Plain (divideAll start divisors) := by
  apply Plain.foldlM
  intro quotient divisor
  split
  · exact .fail trivial
  · exact .ofNumber (Number.converts_div quotient divisor)

theorem parametric_divide : Parametric view divide := by
  apply parametric_atLeastOne
  intro pairing names first first' rest rest' alike others
  apply ((asks_expectNumber view "/").runAlike alike).bindSame
  intro start
  apply ((asks_expectNumber view "/").mapM others).bindSame
  intro divisors
  split
  · exact .pure fun later grows => alike.mono grows
  · exact (RunAlike.plain (plain_divideAll start _)).bindSame .number

theorem parametric_modulo : Parametric view modulo := by
  apply parametric_binary
  intro pairing names first first' second second' one another
  apply ((asks_expectNumber view "%").runAlike one).bindSame
  intro dividend
  apply ((asks_expectNumber view "%").runAlike another).bindSame
  intro divisor
  split
  · exact .fail trivial
  · apply RunAlike.bindSame (.plain (.ofNumber _)) .number
    exact Number.converts_remainder dividend divisor

theorem parametric_arithmetic : ∀ entry ∈ arithmetic, Parametric view entry.2 := by
  simp [arithmetic, parametric_add, parametric_subtract, parametric_multiply, parametric_divide,
    parametric_modulo]

/-! ### Comparison and logic -/

theorem parametric_ordering (relation : Relation) : Parametric view (ordering relation) := by
  apply parametric_binary
  intro pairing names first first' second second' one another
  apply RunAlike.ask
  intro around
  apply (RunAlike.ofExcept fun _ _ => relate_alike around relation one another).bind
  intro later grows answer answer' same
  cases answer with
  | ok holds =>
    cases answer' with
    | ok holds' =>
      cases same
      exact .pure fun _ _ => .bool holds
    | error _ => cases same
  | error _ =>
    cases answer' with
    | ok _ => cases same
    | error _ =>
      dsimp only
      rw [one.typeName_eq, another.typeName_eq]
      exact .fail trivial

theorem parametric_comparison : ∀ entry ∈ comparison, Parametric view entry.2 := by
  have equals : Parametric view equals := parametric_binary fun one another =>
    (RunAlike.equal one another).mapSame fun _ _ _ => .bool _
  have differs : Parametric view differs := parametric_binary fun one another =>
    (RunAlike.equal one another).mapSame fun _ _ _ => .bool _
  simp [comparison, equals, differs, parametric_ordering]

theorem parametric_logic : ∀ entry ∈ logic, Parametric view entry.2 := by
  have conjunction : Parametric view conjunction := by
    apply parametric_variadic
    intro pairing names arguments arguments' alike
    have allOf := congrArg (List.all · id) (map_eq Alike.isTruthy_eq alike)
    rw [List.all_map, List.all_map] at allOf
    exact .pure fun _ _ => allOf ▸ .bool _
  have disjunction : Parametric view disjunction := by
    apply parametric_variadic
    intro pairing names arguments arguments' alike
    have anyOf := congrArg (List.any · id) (map_eq Alike.isTruthy_eq alike)
    rw [List.any_map, List.any_map] at anyOf
    exact .pure fun _ _ => anyOf ▸ .bool _
  have negation : Parametric view negation := by
    apply parametric_unary
    intro pairing names argument argument' alike
    rw [alike.isTruthy_eq]
    exact .pure fun _ _ => .bool _
  simp [logic, conjunction, disjunction, negation]

/-! ### Strings -/

theorem converts_leadingNumber (characters : List Char) : Converts (leadingNumber characters) := by
  unfold leadingNumber
  split
  · exact Numeral.converts_value _
  · trivial

theorem converts_radixNumeral (radix : Nat) (spelling : List Char) :
    Converts (radixNumeral radix spelling) := by
  unfold radixNumeral
  dsimp only
  split
  · exact rfl
  · split
    · exact rfl
    · trivial

theorem converts_leadingInteger (radix : Nat) (characters : List Char) :
    Converts (leadingInteger radix characters) := by
  unfold leadingInteger
  dsimp only
  split
  · trivial
  · exact (converts_radixNumeral radix _).map _

theorem parametric_parseInteger : Parametric view parseInteger := by
  apply parametric_oneOrTwo
  intro pairing names subject subject' radixArgument radixArgument' alike radixAlike
  extract_lets goOn goOn'
  have goesOn (radix : Int) :
      RunAlike view pairing names (Alike view) (goOn radix) (goOn' radix) := by
    unfold goOn goOn'
    split
    · apply ((asks_text view .display).runAlike alike).bindSame
      intro shown
      apply RunAlike.mapSame (.plain (.ofNumber (converts_leadingInteger _ _)))
      intro later grows value
      exact .int value
    · exact .pure fun _ _ => .int 0
  cases radixAlike with
  | none => exact goesOn 10
  | some given =>
    dsimp only
    rw [given.isUnset_eq]
    split
    · exact goesOn 10
    · exact ((asks_expectInteger view "parse-int").runAlike given).bindSame goesOn

theorem parametric_substring : Parametric view substring := by
  apply parametric_twoOrThree
  intro pairing names subject subject' start start' stop stop' alike startAlike stopAlike
  apply ((asks_expectString view "substr").runAlike alike).bindSame
  intro characters
  apply ((asks_expectInteger view "substr").runAlike startAlike).bindSame
  intro first
  extract_lets goOn
  have goesOn (last : Nat) : RunAlike view pairing names (Alike view) (goOn last) (goOn last) :=
    .pure fun _ _ => .string _
  have givenAlike := given?_alike stopAlike
  generalize given? stop = given, given? stop' = given' at givenAlike ⊢
  cases givenAlike with
  | none => exact goesOn _
  | some given =>
    apply RunAlike.bindSame _ goesOn
    exact ((asks_expectInteger view "substr").runAlike given).mapSame fun _ _ _ => rfl

theorem parametric_join : Parametric view join := by
  apply parametric_oneOrTwo
  intro pairing names list list' separator separator' alike separatorAlike
  apply (RunAlike.expectList "str-join" alike).bind
  intro later grows items items' parts
  extract_lets goOn goOn'
  have goesOn (shown : String) :
      RunAlike view later names (Alike view) (goOn shown) (goOn' shown) :=
    ((asks_displayOrNothing view).mapM parts).mapSame fun _ _ _ => .string _
  have givenAlike := given?_alike (separatorAlike.mono grows)
  generalize given? separator = given, given? separator' = given' at givenAlike ⊢
  cases givenAlike with
  | none => exact goesOn ","
  | some given => exact ((asks_text view .display).runAlike given).bindSame goesOn

/-- A primitive that computes something from two strings. -/
theorem ofTwoStrings_alike (name : String) {pairing : Pairing} {names : String → Prop}
    {first first' second second' : Datum} {body : List Char → List Char → Eval Datum}
    (one : Alike view pairing first first') (another : Alike view pairing second second')
    (alike : ∀ characters pattern, RunAlike view pairing names (Alike view)
      (body characters pattern) (body characters pattern)) :
    RunAlike view pairing names (Alike view)
      (expectString name first >>= fun characters => expectString name second >>= body characters)
      (expectString name first' >>= fun characters =>
        expectString name second' >>= body characters) := by
  apply ((asks_expectString view name).runAlike one).bindSame
  intro characters
  exact ((asks_expectString view name).runAlike another).bindSame (alike characters)

theorem itemsAlike_ofChars (pairing : Pairing) (pieces : List (List Char)) :
    ItemsAlike view pairing (pieces.map ofChars) (pieces.map ofChars) := by
  induction pieces with
  | nil => exact .nil
  | cons piece rest ih => exact .cons (.string _) ih

theorem parametric_replace : Parametric view replace := by
  apply parametric_ternary
  intro pairing names subject subject' old old' new new' alike oldAlike newAlike
  apply ((asks_expectString view "str-replace").runAlike alike).bindSame
  intro characters
  apply ((asks_expectString view "str-replace").runAlike oldAlike).bindSame
  intro pattern
  exact ((asks_expectString view "str-replace").runAlike newAlike).mapSame fun _ _ _ => .string _

theorem parametric_strings : ∀ entry ∈ strings, Parametric view entry.2 := by
  have concat : Parametric view concat := by
    apply parametric_variadic
    intro pairing names arguments arguments' alike
    exact ((asks_text view .display).mapM alike).mapSame fun _ _ _ => .string _
  have toText : Parametric view toText := by
    apply parametric_unary
    intro pairing names argument argument' alike
    exact ((asks_text view .display).runAlike alike).mapSame fun _ _ _ => .string _
  have stringLength : Parametric view stringLength := by
    apply parametric_unary
    intro pairing names argument argument' alike
    exact ((asks_expectString view _).runAlike alike).mapSame fun _ _ _ => .int _
  have startsWith : Parametric view startsWith := by
    apply parametric_binary
    intro pairing names first first' second second' one another
    exact ofTwoStrings_alike _ one another fun _ _ => .pure fun _ _ => .bool _
  have endsWith : Parametric view endsWith := by
    apply parametric_binary
    intro pairing names first first' second second' one another
    exact ofTwoStrings_alike _ one another fun _ _ => .pure fun _ _ => .bool _
  have containsText : Parametric view containsText := by
    apply parametric_binary
    intro pairing names first first' second second' one another
    exact ofTwoStrings_alike _ another one fun _ _ => .pure fun _ _ => .bool _
  have split : Parametric view split := by
    apply parametric_binary
    intro pairing names first first' second second' one another
    apply ofTwoStrings_alike _ one another
    intro characters pattern
    exact .newList (itemsAlike_ofChars pairing _)
  have ofString (name : String) (change : List Char → List Char) : Parametric view
      (unary name fun argument => return ofChars (change (← expectString name argument))) := by
    apply parametric_unary
    intro pairing names argument argument' alike
    exact ((asks_expectString view name).runAlike alike).mapSame fun _ _ _ => .string _
  have trim : Parametric view trim := ofString _ _
  have upper : Parametric view upper := ofString _ _
  have lower : Parametric view lower := ofString _ _
  have parseNumber : Parametric view parseNumber := by
    apply parametric_unary
    intro pairing names argument argument' alike
    apply ((asks_text view .display).runAlike alike).bindSame
    intro shown
    exact (RunAlike.plain (.ofNumber (converts_leadingNumber _))).bindSame .number
  simp [strings, concat, toText, stringLength, parametric_substring, startsWith, endsWith,
    containsText, parametric_replace, split, parametric_join, trim, upper, lower, parseNumber,
    parametric_parseInteger]

/-! ### Mathematics and types -/

theorem parametric_numeric (name : String) (function : Number → Except NumberError Number) :
    Parametric view (numeric name function) := by
  apply parametric_unary
  intro pairing names argument argument' alike
  apply ((asks_expectNumber view name).runAlike alike).bindSame
  intro value
  split
  · exact .number _
  · exact .fail trivial

theorem parametric_extremum (name : String) (precedes : Number → Number → Bool) :
    Parametric view (extremum name precedes) := by
  apply parametric_atLeastOne
  intro pairing names first first' rest rest' alike others
  apply RunAlike.bindSame (((asks_expectNumber view name).runAlike alike).mapSame fun _ _ _ => rfl)
  intro _
  apply RunAlike.foldlM (itemsAlike_iff.mp others) _ (grows_alike view) alike
  intro later grows current current' reached candidate candidate' next
  apply ((asks_expectNumber view name).runAlike reached).bindSame
  intro left
  apply ((asks_expectNumber view name).runAlike (next.mono grows)).mapSame
  intro last further right
  split
  · exact next.mono (grows.trans further)
  · exact reached.mono further

theorem parametric_clamp : Parametric view clamp := by
  apply parametric_ternary
  intro pairing names subject subject' low low' high high' alike lowAlike highAlike
  apply ((asks_expectNumber view "clamp").runAlike alike).bindSame
  intro value
  apply ((asks_expectNumber view "clamp").runAlike lowAlike).bindSame
  intro lowest
  apply ((asks_expectNumber view "clamp").runAlike highAlike).mapSame
  intro later grows highest
  cases value.less highest with
  | true =>
    change Alike view later (if lowest.less value then subject else low)
      (if lowest.less value then subject' else low')
    split
    · exact alike.mono grows
    · exact lowAlike.mono grows
  | false =>
    change Alike view later (if lowest.less highest then high else low)
      (if lowest.less highest then high' else low')
    split
    · exact highAlike.mono grows
    · exact lowAlike.mono grows

theorem parametric_mathematics : ∀ entry ∈ mathematics, Parametric view entry.2 := by
  have raise : Parametric view raise := by
    apply parametric_binary
    intro pairing names base base' exponent exponent' alike exponentAlike
    apply ((asks_expectNumber view "pow").runAlike alike).bindSame
    intro left
    apply ((asks_expectNumber view "pow").runAlike exponentAlike).bindSame
    intro right
    split
    · exact .number _
    · exact .fail trivial
  simp [mathematics, parametric_numeric, parametric_extremum, raise, parametric_clamp]

/-- A test that tells like data not apart is parametric. -/
theorem parametric_test (name : String) {holds : Datum → Bool}
    (same : ∀ {pairing datum datum'}, Alike view pairing datum datum' →
      holds datum = holds datum') :
    Parametric view (test name holds) := by
  apply parametric_unary
  intro pairing names argument argument' alike
  rw [same alike]
  exact .pure fun _ _ => .bool _

theorem parametric_predicates : ∀ entry ∈ predicates, Parametric view entry.2 := by
  have nil : Parametric view (test "null?" isNil) := parametric_test _ fun alike => by
    cases alike <;> rfl
  have bool : Parametric view (test "bool?" isBool) := parametric_test _ fun alike => by
    cases alike <;> rfl
  have list : Parametric view (test "list?" isList) := parametric_test _ fun alike => by
    cases alike <;> rfl
  have object : Parametric view (test "object?" isObject) := parametric_test _ fun alike => by
    cases alike <;> rfl
  have number : Parametric view (test "number?" Datum.isNumber) := parametric_test _ fun alike =>
    congrArg Option.isSome alike.number?_eq
  have string : Parametric view (test "string?" isString) := parametric_test _ isString_eq
  simp [predicates, nil, bool, list, object, number, string]

/-! ### Time, chance and logging -/

theorem plain_milliseconds : Plain milliseconds := by
  apply Plain.ask
  intro around
  apply Plain.ofNumber
  exact (Number.converts_mul _ _).bind fun product => product.converts_truncate

theorem parametric_addUnits (name : String) (unitLength : Int) :
    Parametric view (addUnits name unitLength) := by
  apply parametric_binary
  intro pairing names time time' count count' alike countAlike
  apply ((asks_expectNumber view name).runAlike alike).bindSame
  intro start
  apply ((asks_expectNumber view name).runAlike countAlike).bindSame
  intro units
  apply RunAlike.bindSame (.plain (.ofNumber _)) .number
  exact (Number.converts_mul _ _).bind fun moved => Number.converts_add _ moved

theorem parametric_ambient : ∀ entry ∈ ambient, Parametric view entry.2 := by
  have now : Parametric view now := parametric_variadic fun _ =>
    (RunAlike.plain plain_milliseconds).mapSame fun _ _ _ => .int _
  have daysSince : Parametric view daysSince := by
    apply parametric_unary
    intro pairing names time time' alike
    apply (RunAlike.plain plain_milliseconds).bindSame
    intro current
    apply ((asks_expectNumber view "days-since").runAlike alike).bindSame
    intro start
    apply RunAlike.mapSame (.plain (.ofNumber _)) fun _ _ _ => .int _
    apply (Number.converts_sub _ _).bind
    intro elapsed
    exact (Number.converts_div _ _).bind fun days => days.converts_floor
  have print : Parametric view print := by
    apply parametric_variadic
    intro pairing names arguments arguments' alike
    apply ((asks_text view .display).mapM alike).bindSame
    intro shown
    apply (RunAlike.logLine _).mapSame
    intro later grows _
    cases alike with
    | nil => exact .nil
    | cons first _ => exact first.mono grows
  have random : Parametric view random :=
    parametric_variadic fun _ => RunAlike.nextSeed.bindSame fun _ => .number _
  simp [ambient, now, parametric_addUnits, daysSince, print, random]

end SandboxLisp.Primitive
