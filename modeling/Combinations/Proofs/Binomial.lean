import Combinations.Binomial
import Mathlib.Data.Nat.Choose.Basic

/-!
# The recurrence computes binomial coefficients

`Nat.choose` is the coefficient by Pascal's rule, and the recurrence of `Binomial.next` yields the
same numbers (`next_choose`): its divisions leave no remainder.  So `binomial` is the coefficient
(`binomial_eq_choose`), and `binomial?` is the coefficient wherever that is at most `maxOrdinal`
(`binomial?_eq_choose`).  The second statement needs that a row ascends up to its middle: a run of
the recurrence that passes the bound on its way never comes back below it.

For everything that deals with ranks, `beyond?_eq` is the statement to cite.
-/

set_option autoImplicit false

namespace Combinations
namespace Binomial

/-! ## The recurrence -/

/-- **A step of the recurrence divides without remainder**, and reaches the next coefficient. -/
theorem next_choose (n i : Nat) : next n i (n.choose i) = n.choose (i + 1) := by
  rw [next, ← Nat.choose_succ_right_eq, Nat.mul_div_cancel _ i.succ_pos]

theorem climb_choose (n steps i : Nat) :
    climb n steps i (n.choose i) = n.choose (i + steps) := by
  induction steps generalizing i with
  | zero => rw [climb, Nat.add_zero]
  | succ steps ih => rw [climb, next_choose, ih, Nat.add_assoc, Nat.add_comm 1]

/-- Up to its middle a row ascends. -/
theorem choose_le_choose_of_le_half {n i j : Nat} (hij : i ≤ j) (hj : 2 * j ≤ n) :
    n.choose i ≤ n.choose j := by
  induction j, hij using Nat.le_induction with
  | base => exact Nat.le_refl _
  | succ j hij ih =>
    exact (ih (by omega)).trans (Nat.choose_le_succ_of_lt_half_left (by omega))

/-- The bounded recurrence gives up exactly if the coefficient it climbs to is too large. -/
theorem climb?_choose {n steps i : Nat} (hhalf : 2 * (i + steps) ≤ n)
    (hi : n.choose i ≤ maxOrdinal) :
    climb? n steps i (n.choose i) =
      if n.choose (i + steps) ≤ maxOrdinal then some (n.choose (i + steps)) else none := by
  induction steps generalizing i with
  | zero => rw [climb?, Nat.add_zero, if_pos hi]
  | succ steps ih =>
    have hstep : i + (steps + 1) = i + 1 + steps := by omega
    rw [climb?, next_choose, hstep]
    split
    · next hlarge =>
      -- the row ascends from here on, so what comes later is too large as well
      have hle : n.choose (i + 1) ≤ n.choose (i + 1 + steps) :=
        choose_le_choose_of_le_half (Nat.le_add_right _ _) (by omega)
      rw [if_neg (by omega)]
    · next hsmall => exact ih (by omega) (by omega)

/-- The bounded recurrence from the end of a row, up to its middle at most. -/
theorem climb?_one {n steps : Nat} (hhalf : 2 * steps ≤ n) :
    climb? n steps 0 1 = if n.choose steps ≤ maxOrdinal then some (n.choose steps) else none := by
  have hone : n.choose 0 ≤ maxOrdinal := by
    rw [Nat.choose_zero_right]
    decide
  rw [← Nat.choose_zero_right n, climb?_choose (by omega) hone, Nat.zero_add]

theorem two_mul_steps_le (n k : Nat) : 2 * steps n k ≤ n := by
  rw [steps]
  omega

/-- The nearer end of a row has the same coefficient. -/
theorem choose_steps {n k : Nat} (h : k ≤ n) : n.choose (steps n k) = n.choose k := by
  rcases Nat.le_total k (n - k) with hk | hk
  · rw [steps, Nat.min_eq_left hk]
  · rw [steps, Nat.min_eq_right hk, Nat.choose_symm h]

end Binomial

/-! ## The coefficients -/

theorem binomial_eq_choose (n k : Nat) : binomial n k = n.choose k := by
  rw [binomial]
  split
  · next h => exact (Nat.choose_eq_zero_of_lt h).symm
  · next h =>
    rw [← Nat.choose_zero_right n, Binomial.climb_choose, Nat.zero_add,
      Binomial.choose_steps (Nat.not_lt.mp h)]

/-- **The bounded coefficient is the coefficient**, wherever that fits. -/
theorem binomial?_eq_choose (n k : Nat) :
    binomial? n k = if n.choose k ≤ maxOrdinal then some (n.choose k) else none := by
  rw [binomial?]
  split
  · next h => rw [Nat.choose_eq_zero_of_lt h, if_pos (Nat.zero_le _)]
  · next h =>
    rw [Binomial.climb?_one (Binomial.two_mul_steps_le n k),
      Binomial.choose_steps (Nat.not_lt.mp h)]

theorem Binomial.le_of_beyond?_eq_some {n k rank rest : Nat}
    (h : Binomial.beyond? n k rank = some rest) : rest ≤ rank := by
  rw [Binomial.beyond?] at h
  cases hblock : binomial? n k with
  | none =>
    rw [hblock] at h
    cases h
  | some block =>
    rw [hblock] at h
    obtain ⟨-, hrest⟩ := Option.ite_none_left_eq_some.mp h
    rw [← Option.some.inj hrest]
    exact Nat.sub_le rank block

/-- A rank is inside a block or behind it, whether or not the size of the block is representable. -/
theorem Binomial.beyond?_eq (n k : Nat) {rank : Nat} (h : rank ≤ maxOrdinal) :
    Binomial.beyond? n k rank =
      if rank < n.choose k then none else some (rank - n.choose k) := by
  rw [Binomial.beyond?, binomial?_eq_choose]
  by_cases hfits : n.choose k ≤ maxOrdinal
  · rw [if_pos hfits]
  · rw [if_neg hfits, if_pos (by omega)]

end Combinations
