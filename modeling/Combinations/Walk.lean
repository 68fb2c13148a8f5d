import Combinations.Config.Total
import Combinations.Event
import Combinations.IndexVector.Successor
import Combinations.IndexVector.Unrank
import Combinations.Statistics

/-!
# Walking through the combinations

A `Walk` stands on one combination of a run at a time, or past the last one.  Combinations come
smallest size first and lexicographically within a size; they are numbered from 1 through all sizes,
so a walk that starts late has the numbers of the walk from the beginning.

* `Walk.ofConfig` places a walk on the combination with a given ordinal.  It passes over whole sizes by
  their number of combinations (`locate`) and finds the vector within its size by rank.
* `Walk.advance` moves to the next vector of the same size, or to the first of the next size.

The walk knows positions only, no items.  The empty combination is the empty vector: it has no
successor, and the size after its own is 1.
-/

set_option autoImplicit false

namespace Combinations

/-- A combination as an index vector, with its number counted from 1. -/
structure Numbered where
  number : Nat
  indices : List Nat
  deriving DecidableEq, Repr

/-- A position among the combinations of a run over `nitems` items with sizes up to `sizeMax`. -/
structure Walk where
  nitems : Nat
  sizeMax : Nat
  /-- Where the walk stands, unless it has run out of combinations. -/
  current : Option Numbered
  statistics : Statistics
  deriving DecidableEq, Repr

/-! ## Finding the start -/

/-- Where a rank falls in a row of sizes. -/
inductive Landing where
  /-- On a vector. -/
  | found (indices : List Nat)
  /-- Behind all of them, with this much of the rank left. -/
  | past (rest : Nat)
  deriving DecidableEq, Repr

/-- The vector of rank `rank` among all vectors below `n` of the `width` sizes from `size` on. -/
def locate (n : Nat) : (width size rank : Nat) → Landing
  | 0, _, rank => .past rank
  | width + 1, size, rank =>
    match Binomial.beyond? n size rank with
    | some rest => locate n width (size + 1) rest
    | none =>
      match IndexVector.unrank n size rank with
      | some indices => .found indices
      | none => .past rank

/-- Where the combination with ordinal `start` lies, among those of a run that has the empty
combination before all others or not. -/
def locateFrom (n : Nat) (extent : Extent) (hasEmpty : Bool) (start : Nat) : Landing :=
  if hasEmpty && start == 0 then .found []
  else locate n extent.width extent.first (start - hasEmpty.toNat)

namespace Walk

/-- A walk that stands on the combination with ordinal `start`, where `landing` is its place. -/
def ofLanding (n : Nat) (extent : Extent) (start : Nat) : Landing → Walk
  | .found indices => ⟨n, extent.high, some ⟨nextNumber start, indices⟩, ⟨0, start, 1⟩⟩
  | .past rest => ⟨n, extent.high, none, ⟨0, start - rest, 0⟩⟩

/-- The walk of a configuration over `n` items, on the first combination of its window. -/
def ofConfig (config : Config) (n : Nat) : Except Error Walk :=
  (config.extent n).map fun extent =>
    let start := config.window.start.toNat
    ofLanding n extent start (locateFrom n extent (config.visitsEmpty extent) start)

/-- The number of the current combination. -/
def sequence (walk : Walk) : Option Nat := walk.current.map (·.number)

/-- The vector of the current combination. -/
def indices (walk : Walk) : Option (List Nat) := walk.current.map (·.indices)

/-- What a walk that has just been placed at ordinal `start` reports about it. -/
def startEvents (walk : Walk) (start : Nat) : List Event :=
  match walk.current with
  | none => [.pastEnd start]
  | some c => if start = 0 then [] else [.seeked start c.indices.length c.indices]

/-! ## Moving on -/

/-- Moves on to a vector, as the combination after number `number`. -/
def moveTo (walk : Walk) (number : Nat) (indices : List Nat) : Walk :=
  { walk with current := some ⟨nextNumber number, indices⟩ }

/-- Counts one more size. -/
def countSize (walk : Walk) : Walk :=
  { walk with statistics.sizesVisited := walk.statistics.sizesVisited + 1 }

/-- The next position, and whether there is a combination at it. -/
def advance (walk : Walk) : Bool × Walk :=
  match walk.current with
  | none => (false, walk)
  | some c =>
    match IndexVector.successor? walk.nitems c.indices with
    | some next => (true, walk.moveTo c.number next)
    | none =>
      let size := c.indices.length + 1
      if walk.sizeMax < size then (false, { walk with current := none })
      else (true, walk.countSize.moveTo c.number (IndexVector.first size))

/-- `times` moves after one with the result `moved`. -/
def advanceAfter (moved : Option Bool) (walk : Walk) : (times : Nat) → Option Bool × Walk
  | 0 => (moved, walk)
  | times + 1 => advanceAfter (some walk.advance.1) walk.advance.2 times

/-- `times` moves, and the result of the last of them, if there was one. -/
def advanceBy (walk : Walk) (times : Nat) : Option Bool × Walk := advanceAfter none walk times

/-! ## A walk ends -/

/-- What is left to a walk: the sizes after the current one, and what its vector can still use up. -/
def remaining (walk : Walk) : Nat × Nat :=
  match walk.current with
  | none => (0, 0)
  | some c => (walk.sizeMax - c.indices.length + 1, IndexVector.slack walk.nitems c.indices)

/-- **Every move uses up some of what is left.** -/
theorem remaining_advance_lt (walk : Walk) {c : Numbered} (h : walk.current = some c) :
    Prod.Lex (· < ·) (· < ·) walk.advance.2.remaining walk.remaining := by
  simp only [advance, h]
  split
  · next next hnext =>
    have hlen := IndexVector.length_successor? hnext
    simp only [remaining, moveTo, h, hlen]
    exact Prod.Lex.right _ (IndexVector.slack_successor?_lt hnext)
  · split
    · simp only [remaining, h]
      exact Prod.Lex.left _ _ (Nat.succ_pos _)
    · next hsize =>
      simp only [remaining, moveTo, countSize, h, IndexVector.first, List.length_range]
      exact Prod.Lex.left _ _ (by omega)

end Walk
end Combinations
