import SandboxLisp.Number.Numeral

/-!
# How conversions fail

Arithmetic and conversions between numbers fail because something is too large or has no place in
the result, and never because of the domain or the range of an elementary function.  Everything that
is put together from conversions fails as they do.
-/

namespace SandboxLisp

/-- Whether a failure is one of a conversion, and not one inside an elementary function. -/
def NumberError.isOfConversion : NumberError → Bool
  | .domain | .range => false
  | _ => true

/-- An outcome that is a value or fails as conversions do. -/
def Converts {α : Type} : Except NumberError α → Prop
  | .ok _ => True
  | .error cause => cause.isOfConversion

namespace Converts

variable {α β γ : Type}

theorem bind {outcome : Except NumberError α} {next : α → Except NumberError β}
    (one : Converts outcome) (other : ∀ value, Converts (next value)) :
    Converts (outcome >>= next) := by
  cases outcome with
  | ok value => exact other value
  | error cause => exact one

theorem map {outcome : Except NumberError α} (function : α → β) (converts : Converts outcome) :
    Converts (function <$> outcome) := by
  cases outcome with
  | ok value => trivial
  | error cause => exact converts

theorem foldlM {step : β → α → Except NumberError β}
    (converts : ∀ state value, Converts (step state value)) (values : List α) (start : β) :
    Converts (values.foldlM step start) := by
  induction values generalizing start with
  | nil => trivial
  | cons value rest ih =>
    rw [List.foldlM_cons]
    exact (converts start value).bind fun state => ih state

/-- A value that may be missing fails as its absence is reported. -/
theorem elim {cause : NumberError} (ofConversion : cause.isOfConversion) (found : Option α)
    (result : α → β) : Converts (found.elim (.error cause) fun value => .ok (result value)) := by
  cases found with
  | none => exact ofConversion
  | some value => trivial

end Converts

namespace Number

theorem converts_toDouble (value : Number) : Converts value.toDouble := by
  cases value with
  | int value => exact .elim rfl _ _
  | double value => trivial
  | nan => trivial

theorem converts_onDoubles (operation : Double → Double → Option Double) (first second : Number) :
    Converts (onDoubles operation first second) :=
  (converts_toDouble first).bind fun _ => (converts_toDouble second).bind fun _ => trivial

theorem converts_arithmetic (onIntegers : Int → Int → Int)
    (operation : Double → Double → Option Double) (first second : Number) :
    Converts (arithmetic onIntegers operation first second) := by
  unfold arithmetic
  split
  · trivial
  · exact converts_onDoubles operation _ _

theorem converts_add (first second : Number) : Converts (first.add second) :=
  converts_arithmetic _ _ first second

theorem converts_sub (first second : Number) : Converts (first.sub second) :=
  converts_arithmetic _ _ first second

theorem converts_mul (first second : Number) : Converts (first.mul second) :=
  converts_arithmetic _ _ first second

theorem converts_div (first second : Number) : Converts (first.div second) := by
  unfold div
  split
  · exact .elim rfl _ _
  · exact converts_onDoubles _ _ _

theorem converts_remainder (first second : Number) : Converts (first.remainder second) :=
  (converts_arithmetic _ _ first.abs second.abs).bind fun _ => trivial

theorem converts_floor (value : Number) : Converts value.floor := by
  cases value with
  | int value => trivial
  | double value => exact .elim rfl _ _
  | nan => exact rfl

theorem converts_truncate (value : Number) : Converts value.truncate := by
  cases value with
  | int value => trivial
  | double value => exact .elim rfl _ _
  | nan => exact rfl

end Number

theorem Numeral.converts_value (numeral : Numeral) : Converts numeral.value := by
  unfold value
  split
  · split
    · exact rfl
    · trivial
  · trivial

end SandboxLisp
