import Combinations.Limits

/-!
# Binomial coefficients

The number of ways to choose `k` of `n` items, by the recurrence
`C(n, i + 1) = C(n, i) * (n - i) / (i + 1)` started at `C(n, 0) = 1`.  Every division leaves no
remainder, and by symmetry `min k (n - k)` steps are enough.

* `binomial n k` is the coefficient itself, of any size.
* `binomial? n k` is the coefficient as long as it is at most `maxOrdinal`.  It gives up as soon as
  a coefficient of the recurrence passes that bound, which in the first half of a row means that
  the one asked for passes it as well; so it is quick even where `binomial` would be enormous.
-/

set_option autoImplicit false

namespace Combinations
namespace Binomial

/-- The coefficient `C(n, i + 1)` from the coefficient `c = C(n, i)`. -/
def next (n i c : Nat) : Nat := c * (n - i) / (i + 1)

/-- `steps` steps of the recurrence in row `n`, from `c = C(n, i)`. -/
def climb (n : Nat) : (steps i c : Nat) → Nat
  | 0, _, c => c
  | steps + 1, i, c => climb n steps (i + 1) (next n i c)

/-- The same steps, given up once a coefficient is larger than `maxOrdinal`. -/
def climb? (n : Nat) : (steps i c : Nat) → Option Nat
  | 0, _, c => some c
  | steps + 1, i, c =>
    if maxOrdinal < next n i c then none else climb? n steps (i + 1) (next n i c)

/-- The number of steps that reach `C(n, k)`, from the nearer end of the row. -/
def steps (n k : Nat) : Nat := min k (n - k)

end Binomial

/-- The number of ways to choose `k` of `n` items. -/
def binomial (n k : Nat) : Nat :=
  if n < k then 0 else Binomial.climb n (Binomial.steps n k) 0 1

/-- The number of ways to choose `k` of `n` items, if it is at most `maxOrdinal`. -/
def binomial? (n k : Nat) : Option Nat :=
  if n < k then some 0 else Binomial.climb? n (Binomial.steps n k) 0 1

/-- What is left of `rank` once the `C(n, k)` combinations of a block are passed over, or `none` if
`rank` falls into the block.  Ranks are at most `maxOrdinal`, so a block without a `binomial?` is
wider than any rank. -/
def Binomial.beyond? (n k rank : Nat) : Option Nat :=
  match binomial? n k with
  | some block => if rank < block then none else some (rank - block)
  | none => none

end Combinations
