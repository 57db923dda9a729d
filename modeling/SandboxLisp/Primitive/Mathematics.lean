import SandboxLisp.Double.Elementary
import SandboxLisp.Primitive.Basic

/-!
# Mathematical primitives

Rounding gives integers; the elementary functions work on doubles.  A failure inside a function is
reported under the function's name.
-/

namespace SandboxLisp.Primitive

open Eval

/-- A function of one number as a primitive. -/
def numeric (name : String) (function : Number → Except NumberError Number) : Primitive :=
  unary name fun argument => do
    match function (← expectNumber name argument) with
    | .ok value => number value
    | .error error => fail (.arithmetic (.function name error))

/-- The outcome of a function of doubles: what is not a number is outside of the domain, and an
infinite value of a finite argument is out of range. -/
def elementary (function : Double → Option Double) (argument : Number) :
    Except NumberError Number := do
  match ← argument.toDouble with
  | none => return .nan
  | some value =>
      match function value with
      | none => throw .domain
      | some (.infinite sign) =>
          if value.isFinite then throw .range else return .double (.infinite sign)
      | some result => return .double result

/-- The logarithm of two. -/
def logTwo : Option Double :=
  (Double.ofInt? 2).bind Double.log

/-- A natural number as a double from one half up to below one and a power of two. -/
def significand (value : Nat) : Option Double × Nat :=
  let bits := value.log2 + 1
  let scaled := Double.ofRatio? value (2 ^ bits : Nat)
  if scaled = some .one then (Double.ofRatio? 1 2, bits + 1) else (scaled, bits)

/-- The logarithm of a natural number beyond the range of doubles. -/
def largeLogarithm (value : Nat) : Option Double := do
  let shift ← (← logTwo).mul (← Double.ofInt? (significand value).2)
  (← (← (significand value).1).log).add shift

/-- The natural logarithm of a number above zero, for integers of any size. -/
def logarithm : Number → Except NumberError Number
  | .int value =>
      if value ≤ 0 then .error .domain
      else
        (Double.ofInt? value).elim (.ok (Number.ofResult (largeLogarithm value.toNat)))
          fun double => elementary Double.log (.double double)
  | .nan => .ok .nan
  | .double value =>
      if value.isZero || value.isNegative then .error .domain
      else elementary Double.log (.double value)

/-- Whether a double is an odd integer. -/
def isOdd (value : Double) : Bool :=
  match value.toInt? with
  | some whole => whole % 2 == 1
  | none => false

/-- The power of an infinite base. -/
def infinitePower (negative : Bool) (exponent : Double) : Double :=
  let odd := isOdd exponent
  if exponent.isZero then .one
  else if exponent.isNegative then .zero (odd && negative)
  else .infinite (odd && negative)

/-- The power of a base that is a number to an exponent that is one. -/
def doublePower (base exponent : Double) : Except NumberError Number :=
  match base, exponent with
  | .infinite negative, _ => .ok (.double (infinitePower negative exponent))
  | .finite _ _, .infinite _ => .ok (Number.ofResult (base.pow exponent))
  | .finite _ _, .finite _ _ =>
      match base.pow exponent with
      | none => .error .domain
      | some (.infinite _) => if base.isZero then .error .domain else .error .range
      | some result => .ok (.double result)

/-- The power of a base to an exponent, as a double.  One to any power and any number to the power
zero is one, even if the other is not a number. -/
def power (base exponent : Number) : Except NumberError Number := do
  let left ← base.toDouble
  let right ← exponent.toDouble
  match left, right with
  | none, none => return .nan
  | none, some right => return if right.isZero then .double .one else .nan
  | some left, none => return if left = .one then .double .one else .nan
  | some left, some right => doublePower left right

/-- `(pow base exponent)` is a power as a double. -/
def raise : Primitive :=
  binary "pow" fun base exponent => do
    let left ← expectNumber "pow" base
    let right ← expectNumber "pow" exponent
    match power left right with
    | .ok value => number value
    | .error error => fail (.arithmetic (.function "pow" error))

/-- One of two data that are numbers: the second if `precedes` holds of it and the first. -/
def choose (precedes : Number → Number → Bool) (name : String) (current candidate : Datum) :
    Eval Datum := do
  let left ← expectNumber name current
  let right ← expectNumber name candidate
  return if precedes right left then candidate else current

/-- The first of the data that no later one precedes. -/
def extremum (name : String) (precedes : Number → Number → Bool) : Primitive :=
  atLeastOne name fun first rest => do
    discard (expectNumber name first)
    rest.foldlM (choose precedes name) first

/-- Whether the first number is above the second. -/
def above (first second : Number) : Bool := second.less first

/-- `(clamp x low high)` is a number moved between two bounds. -/
def clamp : Primitive :=
  ternary "clamp" fun subject low high => do
    let value ← expectNumber "clamp" subject
    let lowest ← expectNumber "clamp" low
    let highest ← expectNumber "clamp" high
    let (capped, cappedValue) := if value.less highest then (subject, value) else (high, highest)
    return if lowest.less cappedValue then capped else low

/-- The mathematical primitives by name. -/
def mathematics : List (String × Primitive) :=
  [("abs", numeric "abs" fun value => .ok value.abs),
    ("min", extremum "min" Number.less),
    ("max", extremum "max" above),
    ("floor", numeric "floor" fun value => .int <$> value.floor),
    ("ceil", numeric "ceil" fun value => .int <$> value.ceil),
    ("round", numeric "round" fun value => .int <$> value.round),
    ("sqrt", numeric "sqrt" (elementary Double.sqrt)),
    ("pow", raise),
    ("clamp", clamp),
    ("sin", numeric "sin" (elementary Double.sin)),
    ("cos", numeric "cos" (elementary Double.cos)),
    ("tan", numeric "tan" (elementary Double.tan)),
    ("log", numeric "log" logarithm),
    ("exp", numeric "exp" (elementary Double.exp))]

end SandboxLisp.Primitive
