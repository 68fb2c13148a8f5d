import Combinations.Binomial

/-!
# The index vector of a given rank

`IndexVector.unrank n k rank` is the vector that has exactly `rank` vectors of `k` entries below `n`
before it.  It is built from the front.  The vectors that begin with a given entry form a block, the
smallest entry first, and the block of an entry with `left` larger entries below `n` holds
`C(left, k - 1)` vectors; so the rank is reduced block by block until it falls into one, and the rest
of the vector is found inside that block.  No other vector is generated on the way.

`IndexVector.unrankInto` does this in a vector that is in use.  What the vector held is cleared away
first; if there is no vector of the rank, the entries that were found before that showed stay in it.
`IndexVector.unrank` keeps the vector only if it was found (`unrank_eq_some_iff`).
-/

set_option autoImplicit false

namespace Combinations
namespace IndexVector

/-- Looks for the vector of rank `rank` among those whose `k` entries are taken from the last `left`
entries below `n`, behind the entries `chosen` before, of which the latest stands first: whether there
is one, and all entries chosen by the end. -/
def fill (n : Nat) : (left k rank : Nat) → (chosen : List Nat) → Bool × List Nat
  | _, 0, rank, chosen => (rank == 0, chosen.reverse)
  | 0, _ + 1, _, chosen => (false, chosen.reverse)
  | left + 1, k + 1, rank, chosen =>
    if left < k then (false, chosen.reverse)
    else match Binomial.beyond? left k rank with
      | some rest => fill n left (k + 1) rest chosen
      | none => fill n left k rank ((n - (left + 1)) :: chosen)

/-- The vector that `fill` looks for, if there is one. -/
def pick (n left k rank : Nat) (chosen : List Nat) : Option (List Nat) :=
  match fill n left k rank chosen with
  | (true, v) => some v
  | (false, _) => none

/-- The vector with exactly `rank` vectors of `k` entries below `n` before it, made in place of what
`out` holds: whether there is one, and what `out` holds then. -/
def unrankInto (n k rank : Nat) (out : List Nat) : Bool × List Nat := fill n n k rank (out.take 0)

/-- The vector with exactly `rank` vectors of `k` entries below `n` before it, if there are more than
`rank` of them. -/
def unrank (n k rank : Nat) : Option (List Nat) := pick n n k rank []

/-! ## Picking entry by entry -/

@[simp] theorem pick_zero (n left rank : Nat) (chosen : List Nat) :
    pick n left 0 rank chosen = if rank = 0 then some chosen.reverse else none := by
  cases rank <;> cases left <;> rfl

@[simp] theorem pick_zero_succ (n k rank : Nat) (chosen : List Nat) :
    pick n 0 (k + 1) rank chosen = none := rfl

/-- The first of the entries that are left is picked unless the rank is behind its block. -/
theorem pick_succ (n left k rank : Nat) (chosen : List Nat) :
    pick n (left + 1) (k + 1) rank chosen =
      if left < k then none
      else match Binomial.beyond? left k rank with
        | some rest => pick n left (k + 1) rest chosen
        | none => pick n left k rank ((n - (left + 1)) :: chosen) := by
  by_cases hleft : left < k
  · rw [pick, fill, if_pos hleft, if_pos hleft]
  · rw [pick, fill, if_neg hleft, if_neg hleft]
    cases Binomial.beyond? left k rank <;> rfl

/-- What is chosen before stands in front of the rest and has no part in choosing it. -/
theorem pick_eq_map (n left k rank : Nat) (chosen : List Nat) :
    pick n left k rank chosen = (pick n left k rank []).map (chosen.reverse ++ ·) := by
  induction left generalizing k rank chosen with
  | zero => cases k <;> simp
  | succ left ih =>
    cases k with
    | zero => simp
    | succ k =>
      simp only [pick_succ]
      split
      · rfl
      · split
        · exact ih _ _ _
        · rw [ih k rank (_ :: chosen), ih k rank [_], Option.map_map]
          congr 1
          funext rest
          simp

/-! ## Unranking in place -/

variable {n k rank : Nat} {v : List Nat}

/-- **What was in the vector before has no part in unranking.** -/
theorem unrank_eq_some_iff (out : List Nat) :
    unrank n k rank = some v ↔ unrankInto n k rank out = (true, v) := by
  rw [unrank, pick, unrankInto, List.take_zero]
  rcases fill n n k rank [] with ⟨_ | _, filled⟩ <;> simp

theorem isSome_unrank (n k rank : Nat) (out : List Nat) :
    (unrank n k rank).isSome = (unrankInto n k rank out).1 := by
  rw [unrank, pick, unrankInto, List.take_zero]
  rcases fill n n k rank [] with ⟨_ | _, filled⟩ <;> rfl

end IndexVector
end Combinations
