/-!
# The limits of a run

Ordinals, ranks and totals are handed out as 64-bit words and item positions as 32-bit words.  The
library computes with natural numbers throughout; this file names the two bounds at which a result
stops being representable, so that every function says at which bound it gives up.
-/

set_option autoImplicit false

namespace Combinations

/-- The largest ordinal, rank or total that fits its 64-bit word. -/
def maxOrdinal : Nat := 18446744073709551615

/-- An item set must have fewer items than this, so that every position fits its 32-bit word. -/
def itemLimit : Nat := 4294967296

/-- The number after `n`, which stays at `maxOrdinal` once it is reached. -/
def nextNumber (n : Nat) : Nat := min (n + 1) maxOrdinal

theorem toNat_le_maxOrdinal (x : UInt64) : x.toNat ≤ maxOrdinal := by
  have h := x.toNat_lt
  simp only [maxOrdinal]
  omega

end Combinations
