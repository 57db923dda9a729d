import SandboxLisp.Proofs.Evaluation.TwoRuns

/-!
# How evaluating a text can fail

Most failures are failures of the language.  Two kinds are not: a conversion between numbers that no
primitive explains, and a numeral of too many digits in the text.  Nothing else comes through; what
goes wrong inside an elementary function, in particular, is always explained.
-/

namespace SandboxLisp

/-! ### Reading -/

namespace Reader

/-- A number failure of reading is a numeral of too many digits. -/
def TooLong (error : NumberError) : Prop :=
  ∃ digits, NumberError.digitLimit < digits ∧ error = .numeralTooLong digits

theorem tooLong_of_value {numeral : Numeral} {error : NumberError}
    (failed : numeral.value = .error error) : TooLong error := by
  unfold Numeral.value at failed
  split at failed
  · split at failed
    · next long =>
      cases failed
      exact ⟨_, long, rfl⟩
    · cases failed
  · cases failed

theorem tooLong_of_read {spelling : List Char} {error : NumberError}
    (failed : Numeral.read spelling = .error error) : TooLong error := by
  unfold Numeral.read at failed
  split at failed
  · split at failed
    · next cause notSpelled =>
      cases failed
      exact tooLong_of_value notSpelled
    · cases failed
    · cases failed
  · cases failed

theorem tooLong_of_atom {spelling : List Char} {error : NumberError}
    (failed : atom spelling = .error error) : TooLong error := by
  unfold atom at failed
  split at failed
  · cases failed
  · split at failed
    · cases failed
    · split at failed
      · next cause notRead =>
        cases failed
        exact tooLong_of_read notRead
      · cases failed
      · cases failed
      · cases failed

theorem tooLong_of_item {character : Char} {rest : List Char} {error : NumberError}
    (failed : item character rest = .error (.number error)) : TooLong error := by
  unfold item at failed
  split at failed
  · cases failed
  split at failed
  · cases failed
  split at failed
  · split at failed
    · cases failed
    · cases failed
  split at failed
  · cases failed
  · split at failed
    · next cause notAtom =>
      cases failed
      exact tooLong_of_atom notAtom
    · cases failed

theorem tooLong_of_expression {stack : List OpenList} {text : List Char} {error : NumberError}
    (failed : expression stack text = .error (.number error)) : TooLong error := by
  fun_induction expression stack text with
  | case1 => cases failed
  | case2 => cases failed
  | case3 stack text character rest skipped failure notItem =>
    cases failed
    exact tooLong_of_item notItem
  | case4 _ _ _ _ _ _ _ ih => exact ih failed
  | case5 => cases failed
  | case6 => cases failed
  | case7 _ _ _ _ _ _ _ _ _ ih => exact ih failed
  | case8 => cases failed
  | case9 _ _ _ _ _ _ _ _ _ ih => exact ih failed

/-- The only number failure of reading a text is a numeral of too many digits. -/
theorem tooLong_of_parse {text : List Char} {error : NumberError}
    (failed : parse text = .error (.number error)) : TooLong error := by
  unfold parse at failed
  split at failed
  · next failure notRead =>
    cases failure with
    | malformed cause rest => cases failed
    | number cause =>
      cases failed
      exact tooLong_of_expression notRead
  · split at failed
    · cases failed
    · cases failed

end Reader

/-! ### Evaluating -/

/-- The view of two runs that have everything in common. -/
def View.whole : View :=
  ⟨fun _ => True, True⟩

namespace Evaluator

/-- A failure of evaluation with the default primitives is one that can arise. -/
theorem arises_of_evaluateIn {around : Surroundings} {expression : Datum} {world : World}
    {cause : EvalError} (failed : (evaluateIn .default around expression world).1 = .error cause) :
    cause.Arises := by
  have worlds : WorldsAlike .whole .same (fun _ => True) world world := .refl trivial _ world
  have needed (name : String) (_ : expression.Needs name) : True := trivial
  obtain ⟨outcome, _⟩ := evaluateIn_alike trivial around needed worlds
  rw [failed] at outcome
  cases outcome with
  | error arises => exact arises

/-- What a host sees instead of a failure that can arise can arise, too. -/
theorem arises_reported {cause : EvalError} (arises : cause.Arises) : cause.reported.Arises := by
  cases cause with
  | limitExceeded limit =>
    by_cases writable : Datum.isWritableInteger limit = true
    · rw [EvalError.reported, if_pos writable]
      trivial
    · rw [EvalError.reported, if_neg writable]
      exact rfl
  | _ => exact arises

theorem arises_of_evaluate {maxDepth : Nat} {clock : Number} {expression : Datum} {world : World}
    {cause : EvalError}
    (failed : (evaluate ⟨maxDepth, .default⟩ clock expression world).1 = .error cause) :
    cause.Arises := by
  unfold evaluate at failed
  cases ended :
      (evaluateIn .default (surroundings ⟨maxDepth, .default⟩ clock) expression world).1 with
  | ok value =>
    simp only [ended, Except.mapError] at failed
    cases failed
  | error inner =>
    simp only [ended, Except.mapError] at failed
    cases failed
    exact arises_reported (arises_of_evaluateIn ended)

/-- A failure of evaluating a text is one of the language, one of a conversion between numbers, or a
numeral of too many digits in the text. -/
theorem evaluateText_fails (maxDepth : Nat) (clock : Number) (source : String) (world : World)
    {cause : EvalError}
    (failed : (evaluateText ⟨maxDepth, .default⟩ clock source world).1 = .error cause) :
    cause.isExplained ∨ (∃ error, cause = .number error ∧ error.isOfConversion) ∨
      ∃ error, cause = .reading (.number error) ∧ Reader.TooLong error := by
  unfold evaluateText at failed
  split at failed
  · next expression _ =>
    have arises := arises_of_evaluate failed
    cases cause with
    | number error => exact .inr (.inl ⟨error, rfl, arises⟩)
    | reading _ => exact arises.elim
    | _ => exact .inl rfl
  · next error notRead =>
    cases failed
    cases error with
    | malformed cause position => exact .inl rfl
    | number error => exact .inr (.inr ⟨error, rfl, Reader.tooLong_of_parse notRead⟩)

/-- The days since an infinite time are a conversion that fails, and nothing reports the failure. -/
theorem evaluateText_fails_daysSince :
    let cause := EvalError.number .infinityToInteger
    (evaluateText ⟨100, .default⟩ (.int 0) "(days-since (* 1e308 1e308))" (.ofScope [] 0)).1 =
        .error cause ∧
      cause.isExplained = false ∧
      (cause.isExplained ∨ (∃ error, cause = .number error ∧ error.isOfConversion) ∨
        ∃ error, cause = .reading (.number error) ∧ Reader.TooLong error) := by
  intro cause
  have shown : (evaluateText ⟨100, .default⟩ (.int 0) "(days-since (* 1e308 1e308))"
      (.ofScope [] 0)).1.map Datum.typeName = .error cause := by decide +kernel
  have failed : (evaluateText ⟨100, .default⟩ (.int 0) "(days-since (* 1e308 1e308))"
      (.ofScope [] 0)).1 = .error cause := by
    revert shown
    generalize (evaluateText _ _ _ _).1 = outcome
    intro shown
    cases outcome with
    | ok value => cases shown
    | error inner => exact congrArg Except.error (Except.error.inj shown)
  exact ⟨failed, rfl, evaluateText_fails 100 (.int 0) _ (.ofScope [] 0) failed⟩

end Evaluator

end SandboxLisp
