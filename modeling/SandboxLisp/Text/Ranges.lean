/-!
# Character sets by their boundaries

A set of character codes is written as the increasing list of codes at which membership changes:
codes below the first boundary are outside, and every boundary passed changes sides.
-/

namespace SandboxLisp.Text

/-- Whether a code lies in the set with the given boundaries. -/
def inRanges : List Nat → Nat → Bool
  | [], _ => false
  | boundary :: rest, code => if code < boundary then false else !inRanges rest code

example : inRanges [3, 5, 9, 10] 4 = true := by decide
example : inRanges [3, 5, 9, 10] 5 = false := by decide
example : inRanges [3, 5, 9, 10] 9 = true := by decide

end SandboxLisp.Text
