import SandboxLisp.Double.Decimal

/-!
# Doubles as decimal text

A double is written by its shortest decimal.  Values from `0.0001` up to below `10 ^ 16` are written
with a point and at least one digit behind it; all others have one digit before the point and an
exponent of at least two digits with its sign.
-/

namespace SandboxLisp

namespace Double

/-- The digits of an exponent, at least two, after its sign. -/
def exponentText (exponent : Int) : List Char :=
  let digits := decimalDigits exponent.natAbs
  (if exponent < 0 then '-' else '+') :: (List.replicate (2 - digits.length) '0' ++ digits)

/-- Digits with the point behind the first `place` of them, filled up with zeros on either side. -/
def positional (digits : List Char) (place : Int) : List Char :=
  if place ≤ 0 then '0' :: '.' :: (List.replicate (-place).toNat '0' ++ digits)
  else if digits.length ≤ place.toNat then
    digits ++ List.replicate (place.toNat - digits.length) '0' ++ ['.', '0']
  else digits.take place.toNat ++ '.' :: digits.drop place.toNat

/-- Digits with the point behind the first and the exponent that puts it behind the first `place` of
them. -/
def scientific (digits : List Char) (place : Int) : List Char :=
  let mantissa :=
    match digits with
    | first :: second :: rest => first :: '.' :: second :: rest
    | short => short
  mantissa ++ 'e' :: exponentText (place - 1)

/-- The text of a decimal that is not zero. -/
def decimalText (decimal : Decimal) : List Char :=
  let digits := decimalDigits decimal.digits
  if -4 < decimal.place ∧ decimal.place ≤ 16 then positional digits decimal.place
  else scientific digits decimal.place

/-- The text of a magnitude. -/
def magnitudeText (magnitude : Magnitude) : List Char :=
  if magnitude.mantissa = 0 then ['0', '.', '0'] else decimalText magnitude.shortest

/-- The text of a double. -/
def text (value : Double) : List Char :=
  let magnitude :=
    match value with
    | .finite _ magnitude => magnitudeText magnitude
    | .infinite _ => ['i', 'n', 'f']
  if value.isNegative then '-' :: magnitude else magnitude

end Double

end SandboxLisp
