/-!
# Fingerprints

A fingerprint is a word made from a text, so that equal texts have equal fingerprints and unequal
ones rarely do.  It is the value of a polynomial whose coefficients are the codes of the characters,
so that of a window of a text follows from that of the window one place before, whatever the length
(`slide_eq`).
-/

namespace SandboxLisp.Text

/-- The place at which the polynomial is taken. -/
def fingerprintBase : UInt64 := 0x9e3779b97f4a7c15

/-- The code of a character as a word. -/
def codeWord (character : Char) : UInt64 :=
  character.val.toUInt64

/-- A fingerprint with more characters behind it. -/
def extend (sum : UInt64) (text : List Char) : UInt64 :=
  text.foldl (fun sum character => sum * fingerprintBase + codeWord character) sum

/-- The fingerprint of a text. -/
def fingerprint (text : List Char) : UInt64 :=
  extend 0 text

/-- What a character counts for in a fingerprint when a text follows it. -/
def weight : List Char → UInt64
  | [] => 1
  | _ :: rest => weight rest * fingerprintBase

/-- The fingerprint of a window moved on by one character, where `weight` is that of all but its
first character. -/
def slide (weight sum : UInt64) (old new : Char) : UInt64 :=
  (sum - codeWord old * weight) * fingerprintBase + codeWord new

/-- The weight of a text depends on its length only. -/
theorem weight_congr {first second : List Char} (length : first.length = second.length) :
    weight first = weight second := by
  induction first generalizing second with
  | nil =>
    rw [List.length_nil] at length
    rw [List.length_eq_zero_iff.1 length.symm]
  | cons _ rest ih =>
    cases second with
    | nil => simp at length
    | cons _ rest' =>
      simp only [List.length_cons, Nat.add_right_cancel_iff] at length
      simp only [weight, ih length]

/-- A fingerprint that is extended counts as much as a character before the text. -/
theorem extend_eq (sum : UInt64) (text : List Char) :
    extend sum text = sum * weight text + fingerprint text := by
  induction text generalizing sum with
  | nil => simp [extend, weight, fingerprint]
  | cons character rest ih =>
    have step (start : UInt64) : extend start (character :: rest) =
        (start * fingerprintBase + codeWord character) * weight rest + fingerprint rest := ih _
    have whole : fingerprint (character :: rest) =
        (0 * fingerprintBase + codeWord character) * weight rest + fingerprint rest := step 0
    rw [step, whole, weight]
    grind

/-- The fingerprint of a window is that of the window before, moved on. -/
theorem slide_eq (old new : Char) (middle : List Char) :
    slide (weight middle) (fingerprint (old :: middle)) old new =
      fingerprint (middle ++ [new]) := by
  have before : fingerprint (old :: middle) =
      codeWord old * weight middle + fingerprint middle := by
    rw [← extend_eq]
    simp only [fingerprint, extend, List.foldl_cons, UInt64.zero_mul, UInt64.zero_add]
  have after : fingerprint (middle ++ [new]) =
      fingerprint middle * fingerprintBase + codeWord new := by
    simp only [fingerprint, extend, List.foldl_append, List.foldl_cons, List.foldl_nil]
  rw [before, after, slide]
  grind

end SandboxLisp.Text
