import Combinations.Config.Total
import Combinations.Words.Calculation

/-!
# Binomial coefficients and totals on words

Item counts, sizes and places of a row are words of 32 bits, bounded coefficients and totals words
of 64 bits, and the product in a round of the bounded recurrence is a word of 128 bits.  The
unbounded coefficients and totals are not kept in words; only the factors and divisors that go into
them are.
-/

set_option autoImplicit false

namespace Combinations
namespace Words

/-! ## Coefficients -/

/-- `steps` rounds of the bounded recurrence in row `n`, from the coefficient `c` at place `i`. -/
def climb? (n : Nat) : (steps i c : Nat) → Calculation (Option Nat)
  | 0, _, c => pure (narrow? c)
  | steps + 1, i, c => do
    let factor ← sub 32 n i
    let product ← mul 128 c factor
    let divisor ← add 32 i 1
    if maxOrdinal < product / divisor then pure none
    else climb? n steps (i + 1) (product / divisor)

/-- The number of ways to choose `k` of `n` items, if it is at most `maxOrdinal`. -/
def binomial? (n k : Nat) : Calculation (Option Nat) :=
  if n < k then pure (some 0)
  else do
    let far ← sub 32 n k
    climb? n (min k far) 0 1

/-- What is left of `rank` behind the `C(n, k)` combinations of a block, or `none` if `rank` falls
into the block. -/
def beyond? (n k rank : Nat) : Calculation (Option Nat) := do
  match ← binomial? n k with
  | none => return none
  | some block =>
    if rank < block then return none
    let rest ← sub 64 rank block
    return some rest

/-- `steps` rounds of the unbounded recurrence. -/
def climb (n : Nat) : (steps i c : Nat) → Calculation Nat
  | 0, _, c => pure c
  | steps + 1, i, c => do
    let factor ← sub 32 n i
    let divisor ← add 32 i 1
    climb n steps (i + 1) (c * factor / divisor)

/-- The number of ways to choose `k` of `n` items. -/
def binomial (n k : Nat) : Calculation Nat :=
  if n < k then pure 0
  else do
    let far ← sub 32 n k
    climb n (min k far) 0 1

/-! ## Totals -/

/-- `sum` and the coefficients of the `width` sizes from `size` on, if all of it is at most
`maxOrdinal`. -/
def sumSizes? (n : Nat) : (width size sum : Nat) → Calculation (Option Nat)
  | 0, _, sum => pure (some sum)
  | width + 1, size, sum => do
    match ← binomial? n size with
    | none => pure none
    | some block =>
      match checkedAdd sum block with
      | none => pure none
      | some sum => sumSizes? n width (size + 1) sum

/-- The number of combinations of a configuration for `n` items, if it is at most `maxOrdinal`. -/
def total (config : Config) (n : Nat) : Calculation (Except Error Nat) :=
  match config.extent n with
  | .error e => pure (.error e)
  | .ok extent => do
    let empty := (config.visitsEmpty extent).toNat
    if extent.high < extent.first then return .ok empty
    if extent.isWhole n && n < 64 then
      let power ← shl 64 1 n
      let nonempty ← sub 64 power 1
      let sum ← add 64 empty nonempty
      return .ok sum
    match ← sumSizes? n extent.width extent.first empty with
    | some sum => return .ok sum
    | none => return .error .overflow

/-- `sum` and the coefficients of those of the sizes `k + 1`, …, `k + steps` that are at least
`first`, where `block` is the coefficient of size `k`. -/
def sumRow (n first : Nat) : (steps k block sum : Nat) → Calculation Nat
  | 0, _, _, sum => pure sum
  | steps + 1, k, block, sum => do
    let left ← sub 32 n (k + 1)
    let factor ← add 32 left 1
    let block := block * factor / (k + 1)
    sumRow n first steps (k + 1) block (if first ≤ k + 1 then sum + block else sum)

/-- The number of combinations of a configuration for `n` items, however large it is. -/
def exactTotal (config : Config) (n : Nat) : Calculation (Except Error Nat) :=
  match config.extent n with
  | .error e => pure (.error e)
  | .ok extent => do
    let empty := (config.visitsEmpty extent).toNat
    if extent.high < extent.first then return .ok empty
    if extent.isWhole n then return .ok (empty + ((1 <<< n) - 1))
    let sum ← sumRow n extent.first extent.high 0 1 empty
    return .ok sum

end Words
end Combinations
