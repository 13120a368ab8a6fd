/-!
# Ranges of code points

Classes of characters as lists of closed ranges of their numbers.
-/

set_option autoImplicit false

namespace Remittance

/-- Closed ranges of code points. -/
abbrev Ranges := List (Nat × Nat)

/-- Whether a character is in one of the ranges. -/
def Ranges.hold (ranges : Ranges) (c : Char) : Bool :=
  ranges.any fun r => r.1 ≤ c.toNat && c.toNat ≤ r.2

end Remittance
