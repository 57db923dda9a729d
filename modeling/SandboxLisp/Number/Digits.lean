/-!
# Digits in a radix

The number that a list of digits stands for.  Neighbouring digits are joined into digits of the
squared radix until one is left, so that long lists need few multiplications of large numbers.

The main statement is the rule of positions: one more digit at the end multiplies the number by the
radix and is added to it.
-/

namespace SandboxLisp

namespace Numeral

/-- The digits of the squared radix that pairs of digits make; the least digit stands first. -/
def joinPairs (radix : Nat) : List Nat → List Nat
  | low :: high :: rest => (low + radix * high) :: joinPairs radix rest
  | short => short

/-- Joining pairs makes no longer list. -/
theorem length_joinPairs_le (radix : Nat) :
    (digits : List Nat) → (joinPairs radix digits).length ≤ digits.length
  | [] => Nat.le_refl _
  | [_] => Nat.le_refl _
  | _ :: _ :: rest => by
      have shorter := length_joinPairs_le radix rest
      simp only [joinPairs, List.length_cons]
      omega

/-- The number that digits stand for, the least of which stands first. -/
def ofLeastFirst (radix : Nat) (digits : List Nat) : Nat :=
  match digits with
  | [] => 0
  | [digit] => digit
  | low :: high :: rest =>
      ofLeastFirst (radix * radix) ((low + radix * high) :: joinPairs radix rest)
termination_by digits.length
decreasing_by
  have shorter := length_joinPairs_le radix rest
  simp only [List.length_cons]
  omega

/-- The number that digits stand for. -/
def ofDigits (radix : Nat) (digits : List Nat) : Nat :=
  ofLeastFirst radix digits.reverse

/-- The sum of digits, the least of which stands first, each times the power of the radix for its
place. -/
def placeSum (radix : Nat) : List Nat → Nat
  | [] => 0
  | digit :: rest => digit + radix * placeSum radix rest

/-- Joining pairs keeps the sum. -/
theorem placeSum_joinPairs (radix : Nat) :
    (digits : List Nat) → placeSum (radix * radix) (joinPairs radix digits) = placeSum radix digits
  | [] => rfl
  | [_] => by simp [joinPairs, placeSum]
  | low :: high :: rest => by
      simp only [joinPairs, placeSum, placeSum_joinPairs radix rest, Nat.mul_add, Nat.mul_assoc,
        Nat.add_assoc]

/-- The number that digits stand for is their sum by places. -/
theorem ofLeastFirst_eq_placeSum (radix : Nat) (digits : List Nat) :
    ofLeastFirst radix digits = placeSum radix digits := by
  fun_induction ofLeastFirst radix digits with
  | case1 => rfl
  | case2 radix digit => simp [placeSum]
  | case3 radix low high rest ih =>
    rw [ih]
    exact placeSum_joinPairs radix (low :: high :: rest)

/-- No digits stand for zero. -/
@[simp] theorem ofDigits_nil (radix : Nat) : ofDigits radix [] = 0 := by
  simp [ofDigits, ofLeastFirst_eq_placeSum, placeSum]

/-- A digit at the end is added to the number before it times the radix. -/
theorem ofDigits_concat (radix : Nat) (digits : List Nat) (digit : Nat) :
    ofDigits radix (digits ++ [digit]) = ofDigits radix digits * radix + digit := by
  simp only [ofDigits, ofLeastFirst_eq_placeSum, List.reverse_append, List.reverse_singleton,
    List.singleton_append, placeSum]
  rw [Nat.mul_comm, Nat.add_comm]

end Numeral

end SandboxLisp
