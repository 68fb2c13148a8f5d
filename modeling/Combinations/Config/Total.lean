import Combinations.Binomial
import Combinations.Config.Basic

/-!
# Totals without enumerating

How many combinations a configuration describes for `n` items, without visiting any: the sum of the
binomial coefficients of its sizes, and one more for the empty combination where it is shown.  The
window of the configuration plays no part.

* `Config.extent` is the check that every entry point of the library makes first.
* `Config.total` is the total as a 64-bit number, or the error that it is too large.
* `Config.exactTotal` is the total, however large.
* `Config.fromEnd` moves the window to the last combinations, which takes the total to find.
-/

set_option autoImplicit false

namespace Combinations

/-- The sizes that a run over `n` items goes through.  That non-empty combinations of no items were
asked for is reported before the sizes are compared with `n`. -/
def Config.extent (config : Config) (n : Nat) : Except Error Extent :=
  if n = 0 ∧ 0 < config.sizes.min then .error (.emptyItemSet config.sizes.min.toNat)
  else config.sizes.resolve n

/-- Whether a run with these sizes begins with the empty combination. -/
def Config.visitsEmpty (config : Config) (extent : Extent) : Bool :=
  extent.low == 0 && config.showEmpty

/-- The first size that is not 0. -/
def Extent.first (extent : Extent) : Nat := max 1 extent.low

/-- How many sizes of the range are not 0. -/
def Extent.width (extent : Extent) : Nat := extent.high + 1 - extent.first

/-- Whether the sizes of the range, size 0 apart, are all sizes that `n` items have. -/
def Extent.isWhole (extent : Extent) (n : Nat) : Bool := extent.first == 1 && extent.high == n

/-- `sum` and the coefficients of the `width` sizes from `size` on, if all of it is at most
`maxOrdinal`. -/
def sumSizes? (n : Nat) : (width size sum : Nat) → Option Nat
  | 0, _, sum => some sum
  | width + 1, size, sum =>
    match binomial? n size with
    | none => none
    | some block =>
      if maxOrdinal < sum + block then none else sumSizes? n width (size + 1) (sum + block)

/-- `sum` and the coefficients of those of the sizes `k + 1`, …, `k + steps` that are at least
`first`, where `block` is the coefficient of size `k`. -/
def sumRow (n first : Nat) : (steps k block sum : Nat) → Nat
  | 0, _, _, sum => sum
  | steps + 1, k, block, sum =>
    let block := Binomial.next n k block
    sumRow n first steps (k + 1) block (if first ≤ k + 1 then sum + block else sum)

/-- The number of combinations that a run over `n` items without a window visits.  Where the sizes
are all there are, their sum is `2 ^ n - 1`. -/
def Config.total (config : Config) (n : Nat) : Except Error Nat := do
  let extent ← config.extent n
  let empty := (config.visitsEmpty extent).toNat
  if extent.high < extent.first then return empty
  if extent.isWhole n && n < 64 then return empty + ((1 <<< n) - 1)
  match sumSizes? n extent.width extent.first empty with
  | some sum => return sum
  | none => throw .overflow

/-- The number of combinations that a run over `n` items without a window visits, however large it
is. -/
def Config.exactTotal (config : Config) (n : Nat) : Except Error Nat := do
  let extent ← config.extent n
  let empty := (config.visitsEmpty extent).toNat
  if extent.high < extent.first then return empty
  if extent.isWhole n then return empty + ((1 <<< n) - 1)
  return sumRow n extent.first extent.high 0 1 empty

/-- The same request moved to the last `count` combinations over `n` items, or to all of them if
there are fewer.  The limit of the window stays. -/
def Config.fromEnd (config : Config) (n : Nat) (count : UInt64) : Except Error Config := do
  let total ← config.total n
  return config.withWindow ⟨UInt64.ofNat (total - count.toNat), config.window.limit⟩

end Combinations
