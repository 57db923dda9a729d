/-!
# Powers of natural numbers

A power of a natural number is the one of the core library, also where a larger library that offers
powers in every monoid is at hand.
-/

namespace SandboxLisp

@[default_instance 11000]
instance (priority := 1100) powNat : Pow Nat Nat :=
  instPowNat

end SandboxLisp
