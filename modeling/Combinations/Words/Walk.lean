import Combinations.Walk
import Combinations.Words.Counting

/-!
# Stepping, unranking and placing a walk on words

Positions of items and places in an index vector are words of 32 bits, ranks, ordinals and counters
are words of 64 bits.

The step changes the vector where it stands: it raises one entry, and gives every entry after it the
value after the one before.  Unranking looks for the entries of its vector in turn, and each search
goes on from the position after the entry found before.
-/

set_option autoImplicit false

namespace Combinations
namespace Words

/-! ## The step -/

/-- Lets the `count` entries after `place` follow the entry at `place`. -/
def follow : (count place : Nat) → (v : List Nat) → Calculation (List Nat)
  | 0, _, v => pure v
  | count + 1, place, v => do
    let next ← add 32 (v.getD place 0) 1
    follow count (place + 1) (v.set (place + 1) next)

/-- Raises the last of the first `places` entries that can grow, where the entry at place `i` can
grow below `base + i`. -/
def raise (base : Nat) : (places : Nat) → (v : List Nat) → Calculation (Bool × List Nat)
  | 0, v => pure (false, v)
  | i + 1, v => do
    let limit ← add 32 base (truncate 32 i)
    if v.getD i 0 < limit then
      let raised ← add 32 (v.getD i 0) 1
      let v ← follow (v.length - (i + 1)) i (v.set i raised)
      return (true, v)
    else raise base i v

/-- The step of a vector, made in place. -/
def step (n : Nat) (v : List Nat) : Calculation (Bool × List Nat) := do
  let base ← sub 32 n (truncate 32 v.length)
  raise base v.length v

/-! ## Unranking -/

/-- An entry that a search has found, and the rank inside the block of the vectors that have it. -/
structure Found where
  entry : Nat
  rank : Nat
  deriving DecidableEq, Repr

/-- The entry whose block the rank falls into, among those from `candidate` on, with `after` entries
to come after it.  The search passes over at most `rounds - 1` candidates. -/
def search (n after : Nat) : (rounds candidate rank : Nat) → Calculation (Option Found)
  | 0, _, _ => .endless
  | rounds + 1, candidate, rank => do
    let last ← add 32 candidate after
    if n ≤ last then return none
    let below ← sub 32 n 1
    let left ← sub 32 below candidate
    match ← beyond? left after rank with
    | some rest =>
      let candidate ← add 32 candidate 1
      search n after rounds candidate rest
    | none => return some ⟨candidate, rank⟩

/-- The entries for the `todo` places from `place` on, where the first is at least `candidate`,
behind the entries `chosen` before, of which the latest stands first. -/
def fill (n k : Nat) : (todo place candidate rank : Nat) → (chosen : List Nat) →
    Calculation (Option (List Nat))
  | 0, _, _, rank, chosen => pure (if rank = 0 then some chosen.reverse else none)
  | todo + 1, place, candidate, rank, chosen => do
    let last ← sub 32 k 1
    let after ← sub 32 last place
    match ← search n after (n + 1) candidate rank with
    | none => return none
    | some found =>
      let candidate ← add 32 found.entry 1
      fill n k todo (place + 1) candidate found.rank (found.entry :: chosen)

/-- The vector with exactly `rank` vectors of `k` entries below `n` before it. -/
def unrank (n k rank : Nat) : Calculation (Option (List Nat)) :=
  if n < k then pure none else fill n k k 0 0 rank []

/-! ## Placing a walk -/

/-- Where `rank` falls among the vectors of the `width` sizes from `size` on. -/
def locate (n : Nat) : (width size rank : Nat) → Calculation Landing
  | 0, _, rank => pure (.past rank)
  | width + 1, size, rank => do
    match ← beyond? n size rank with
    | some rest => locate n width (size + 1) rest
    | none =>
      match ← unrank n size rank with
      | some indices => return .found indices
      | none => return .past rank

/-- The walk over `n` items whose start has the place `landing`, with its counters. -/
def settle (n : Nat) (extent : Extent) (start : Nat) : Landing → Calculation Walk
  | .found indices => do
    let skipped ← add 64 0 start
    let sizesVisited ← add 64 0 1
    return ⟨n, extent.high, some ⟨nextNumber start, indices⟩, ⟨0, skipped, sizesVisited⟩⟩
  | .past rest => do
    let passed ← sub 64 start rest
    let skipped ← add 64 0 passed
    return ⟨n, extent.high, none, ⟨0, skipped, 0⟩⟩

/-- The walk that stands on the combination with ordinal `start`. -/
def seek (n : Nat) (extent : Extent) (hasEmpty : Bool) (start : Nat) : Calculation Walk :=
  if hasEmpty then
    if start = 0 then do
      let sizesVisited ← add 64 0 1
      return ⟨n, extent.high, some ⟨1, []⟩, ⟨0, 0, sizesVisited⟩⟩
    else do
      let rank ← sub 64 start 1
      let landing ← locate n extent.width extent.first rank
      settle n extent start landing
  else do
    let landing ← locate n extent.width extent.first start
    settle n extent start landing

/-- The walk of a configuration over `n` items, on the first combination of its window. -/
def ofConfig (config : Config) (n : Nat) : Calculation (Except Error Walk) :=
  match config.extent n with
  | .error e => pure (.error e)
  | .ok extent => do
    let walk ← seek n extent (config.visitsEmpty extent) config.window.start.toNat
    return .ok walk

end Words
end Combinations
