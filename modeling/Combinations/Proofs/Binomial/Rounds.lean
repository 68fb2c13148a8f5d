import Combinations.Proofs.Binomial
import Mathlib.Data.Nat.Choose.Central

/-!
# The rounds of the bounded recurrence

`binomial?` goes round by round from one coefficient of a row to the next, and gives up in the first
round that arrives at one larger than `maxOrdinal`.  `Binomial.rounds` lists the rounds that it goes
through, the one in which it gives up included, and `Binomial.climb?_eq_rounds` reads its result off
them.  So what the rounds are like is what happens on the way to a result:

* `binomial?_exact` — every round multiplies two numbers whose product is below `2 ^ 96` and divides
  without remainder, and no round gives up if the coefficient asked for fits.
* `binomial?_rounds_le` — there are never more than 64 rounds, however large the row is.

The second statement rests on the growth of the central coefficients: `C(128, 64)` is too large, and
so is every `C(n, 64)` with `128 ≤ n`.  A climb of more than 64 rounds is in such a row.
-/

set_option autoImplicit false

namespace Combinations
namespace Binomial

/-- A round of the recurrence, from the coefficient at place `index` of a row to the one after it. -/
structure Round where
  index : Nat
  coefficient : Nat
  deriving DecidableEq

/-- What a round in row `n` divides by `index + 1`. -/
def Round.product (n : Nat) (r : Round) : Nat := r.coefficient * (n - r.index)

/-- The coefficient that a round in row `n` arrives at. -/
def Round.result (n : Nat) (r : Round) : Nat := next n r.index r.coefficient

/-- The rounds of `climb? n steps i c`, up to and including one that gives up. -/
def rounds (n : Nat) : (steps i c : Nat) → List Round
  | 0, _, _ => []
  | steps + 1, i, c =>
    ⟨i, c⟩ :: if maxOrdinal < next n i c then [] else rounds n steps (i + 1) (next n i c)

variable {n steps i c : Nat}

theorem rounds_succ_of_lt (h : maxOrdinal < next n i c) (steps : Nat) :
    rounds n (steps + 1) i c = [⟨i, c⟩] := by
  rw [rounds, if_pos h]

theorem rounds_succ_of_le (h : next n i c ≤ maxOrdinal) (steps : Nat) :
    rounds n (steps + 1) i c = ⟨i, c⟩ :: rounds n steps (i + 1) (next n i c) := by
  rw [rounds, if_neg (Nat.not_lt.mpr h)]

theorem mem_rounds_succ {r : Round} :
    r ∈ rounds n (steps + 1) i c ↔
      r = ⟨i, c⟩ ∨ (next n i c ≤ maxOrdinal ∧ r ∈ rounds n steps (i + 1) (next n i c)) := by
  rcases Nat.lt_or_ge maxOrdinal (next n i c) with hlarge | hfits
  · simp [rounds_succ_of_lt hlarge, Nat.not_le.mpr hlarge]
  · simp [rounds_succ_of_le hfits, hfits]

/-- **The rounds lead to the result.**  The climb gives up if one of them arrives at a coefficient
that is too large, and otherwise the last of them arrives at what it returns. -/
theorem climb?_eq_rounds (n steps i c : Nat) :
    climb? n steps i c =
      if ∃ r ∈ rounds n steps i c, maxOrdinal < r.result n then none
      else some ((rounds n steps i c).getLast?.elim c (Round.result n)) := by
  induction steps generalizing i c with
  | zero => simp [climb?, rounds]
  | succ steps ih =>
    rcases Nat.lt_or_ge maxOrdinal (next n i c) with hlarge | hfits
    · rw [climb?, if_pos hlarge, rounds_succ_of_lt hlarge, if_pos]
      exact ⟨_, List.mem_cons_self, hlarge⟩
    · have hgo : ¬maxOrdinal < Round.result n ⟨i, c⟩ := Nat.not_lt.mpr hfits
      rw [climb?, if_neg (Nat.not_lt.mpr hfits), rounds_succ_of_le hfits, ih]
      simp only [List.mem_cons, exists_eq_or_imp, hgo, false_or, List.getLast?_cons,
        Option.elim_some]
      cases (rounds n steps (i + 1) (next n i c)).getLast? <;> rfl

theorem climb?_eq_none_iff :
    climb? n steps i c = none ↔ ∃ r ∈ rounds n steps i c, maxOrdinal < r.result n := by
  rw [climb?_eq_rounds]
  split
  · next h => exact iff_of_true rfl h
  · next h => exact iff_of_false (Option.some_ne_none _) h

/-! ## What happens in a round -/

/-- Along a row, every round starts from the coefficient at its place. -/
theorem coefficient_eq_choose :
    ∀ r ∈ rounds n steps i (n.choose i), r.coefficient = n.choose r.index := by
  induction steps generalizing i with
  | zero => simp [rounds]
  | succ steps ih =>
    intro r hr
    rcases mem_rounds_succ.mp hr with rfl | ⟨-, hr⟩
    · rfl
    · rw [next_choose] at hr
      exact ih r hr

/-- No round is begun with a coefficient that is too large. -/
theorem coefficient_le (hc : c ≤ maxOrdinal) :
    ∀ r ∈ rounds n steps i c, r.coefficient ≤ maxOrdinal := by
  induction steps generalizing i c with
  | zero => simp [rounds]
  | succ steps ih =>
    intro r hr
    rcases mem_rounds_succ.mp hr with rfl | ⟨hfits, hr⟩
    · exact hc
    · exact ih hfits r hr

/-- A round that starts from the coefficient at its place divides without remainder. -/
theorem Round.product_eq {r : Round} (h : r.coefficient = n.choose r.index) :
    r.product n = r.result n * (r.index + 1) := by
  rw [Round.product, Round.result, h, next_choose, Nat.choose_succ_right_eq]

/-- With a row and a coefficient that fit their words, a round stays far below 128 bits. -/
theorem Round.product_lt {r : Round} (hn : n < itemLimit) (h : r.coefficient ≤ maxOrdinal) :
    r.product n < 2 ^ 96 := by
  calc r.coefficient * (n - r.index)
      ≤ maxOrdinal * itemLimit := Nat.mul_le_mul h (by omega)
    _ < 2 ^ 96 := by decide

/-! ## How many rounds there are -/

/-- The rounds count the places of the row from the first on. -/
theorem map_index_rounds (n steps i c : Nat) :
    (rounds n steps i c).map Round.index = List.range' i (rounds n steps i c).length := by
  induction steps generalizing i c with
  | zero => rfl
  | succ steps ih =>
    rcases Nat.lt_or_ge maxOrdinal (next n i c) with hlarge | hfits
    · rw [rounds_succ_of_lt hlarge]
      rfl
    · rw [rounds_succ_of_le hfits, List.map_cons, ih, List.length_cons, List.range'_succ]

theorem length_rounds_le (n steps i c : Nat) : (rounds n steps i c).length ≤ steps := by
  induction steps generalizing i c with
  | zero => exact Nat.le_refl 0
  | succ steps ih =>
    rcases Nat.lt_or_ge maxOrdinal (next n i c) with hlarge | hfits
    · rw [rounds_succ_of_lt hlarge]
      exact Nat.succ_le_succ (Nat.zero_le steps)
    · rw [rounds_succ_of_le hfits]
      exact Nat.succ_le_succ (ih _ _)

/-- A climb does not get past a coefficient that is too large. -/
theorem length_rounds_le_of_lt_choose {place : Nat} (hi : i < place)
    (h : maxOrdinal < n.choose place) :
    (rounds n steps i (n.choose i)).length ≤ place - i := by
  induction steps generalizing i with
  | zero => exact Nat.zero_le _
  | succ steps ih =>
    rcases Nat.lt_or_ge maxOrdinal (next n i (n.choose i)) with hlarge | hfits
    · rw [rounds_succ_of_lt hlarge, List.length_singleton]
      omega
    · rw [rounds_succ_of_le hfits, next_choose, List.length_cons]
      rw [next_choose] at hfits
      have hne : i + 1 ≠ place := by
        rintro rfl
        omega
      have := ih (i := i + 1) (by omega)
      omega

/-- **The coefficient at place 64 is too large** in every row that is long enough to climb past it. -/
theorem maxOrdinal_lt_choose (h : 128 ≤ n) : maxOrdinal < n.choose 64 := by
  have hcentral : 4 ^ 64 < 64 * Nat.centralBinom 64 :=
    Nat.four_pow_lt_mul_centralBinom 64 (by decide)
  have hrow : Nat.centralBinom 64 ≤ n.choose 64 := Nat.choose_le_choose 64 h
  rw [maxOrdinal]
  omega

end Binomial

/-! ## The bounded coefficient -/

variable {n k : Nat}

namespace Binomial

/-- The rounds of `binomial? n k`. -/
def roundsOf (n k : Nat) : List Round := rounds n (steps n k) 0 1

theorem roundsOf_eq (n k : Nat) : roundsOf n k = rounds n (steps n k) 0 (n.choose 0) := by
  rw [roundsOf, Nat.choose_zero_right]

/-- Behind the end of a row there is nothing to climb to. -/
theorem roundsOf_of_lt (h : n < k) : roundsOf n k = [] := by
  have hsteps : steps n k = 0 := by
    rw [steps]
    omega
  rw [roundsOf, hsteps, rounds]

theorem binomial?_eq_climb? (h : k ≤ n) : binomial? n k = climb? n (steps n k) 0 1 := by
  rw [binomial?, if_neg (Nat.not_lt.mpr h)]

/-- **No round gives up on a coefficient that fits.** -/
theorem result_le (h : n.choose k ≤ maxOrdinal) : ∀ r ∈ roundsOf n k, r.result n ≤ maxOrdinal := by
  intro r hr
  by_contra hlarge
  have hle : k ≤ n := by
    by_contra hlt
    rw [roundsOf_of_lt (Nat.not_le.mp hlt)] at hr
    cases hr
  have hnone := climb?_eq_none_iff.mpr ⟨r, hr, Nat.not_le.mp hlarge⟩
  rw [← binomial?_eq_climb? hle, binomial?_eq_choose, if_pos h] at hnone
  cases hnone

/-- **More than 64 steps are taken in long rows only**, in which they pass a coefficient that is too
large. -/
theorem maxOrdinal_lt_of_lt_steps (h : 64 < steps n k) :
    maxOrdinal < n.choose 64 ∧ n.choose 64 ≤ n.choose (steps n k) := by
  have hhalf := two_mul_steps_le n k
  exact ⟨maxOrdinal_lt_choose (by omega), choose_le_choose_of_le_half h.le hhalf⟩

/-- Beyond 64 steps, a climb only goes on where it has given up already. -/
theorem climb?_min_steps (n k : Nat) :
    climb? n (min 64 (steps n k)) 0 1 = climb? n (steps n k) 0 1 := by
  rcases Nat.lt_or_ge 64 (steps n k) with hlong | hshort
  · obtain ⟨hlarge, hascends⟩ := maxOrdinal_lt_of_lt_steps hlong
    have hhalf := two_mul_steps_le n k
    rw [Nat.min_eq_left hlong.le, climb?_one (by omega), climb?_one hhalf, if_neg (by omega),
      if_neg (by omega)]
  · rw [Nat.min_eq_right hshort]

theorem length_roundsOf_le (n k : Nat) : (roundsOf n k).length ≤ 64 := by
  rcases Nat.lt_or_ge 64 (steps n k) with hlong | hshort
  · rw [roundsOf_eq]
    exact length_rounds_le_of_lt_choose (by decide) (maxOrdinal_lt_of_lt_steps hlong).1
  · exact (length_rounds_le _ _ _ _).trans hshort

end Binomial

/-- **The bounded coefficient is exact, and so is every round on the way to it.**  For 32-bit words `n`
and `k`, the bounded coefficient is the coefficient of Pascal's rule if that fits its word, and nothing
otherwise; the unbounded one is always the coefficient, and so the two agree.

A round starts from the coefficient at its place.  Its product stays below `2 ^ 96`, and the division
of it leaves no remainder.  If the coefficient asked for fits, no round arrives at one that is too
large. -/
theorem binomial?_exact (n k : UInt32) :
    let rounds := Binomial.roundsOf n.toNat k.toNat
    let choose := n.toNat.choose k.toNat
    (binomial? n.toNat k.toNat = if choose ≤ maxOrdinal then some choose else none) ∧
      binomial n.toNat k.toNat = choose ∧
      (∀ c, binomial? n.toNat k.toNat = some c → binomial n.toNat k.toNat = c) ∧
      (n < k → binomial? n.toNat k.toNat = some 0 ∧ binomial n.toNat k.toNat = 0) ∧
      (k ≤ n → binomial? n.toNat k.toNat =
        if ∃ r ∈ rounds, maxOrdinal < r.result n.toNat then none
        else some (rounds.getLast?.elim 1 (·.result n.toNat))) ∧
      (∀ r ∈ rounds, r.coefficient = n.toNat.choose r.index ∧
        r.product n.toNat = r.result n.toNat * (r.index + 1) ∧ r.product n.toNat < 2 ^ 96) ∧
      (choose ≤ maxOrdinal → ∀ r ∈ rounds, r.result n.toNat ≤ maxOrdinal) := by
  intro rounds choose
  have hbounded := binomial?_eq_choose n.toNat k.toNat
  have hexact := binomial_eq_choose n.toNat k.toNat
  refine ⟨hbounded, hexact, ?_, ?_, ?_, ?_, Binomial.result_le⟩
  · intro c hc
    rw [hbounded] at hc
    split at hc
    · exact hexact.trans (Option.some.inj hc)
    · cases hc
  · intro hlt
    have hbehind : n.toNat < k.toNat := UInt32.lt_iff_toNat_lt.mp hlt
    exact ⟨by rw [binomial?, if_pos hbehind], by rw [binomial, if_pos hbehind]⟩
  · intro hle
    rw [Binomial.binomial?_eq_climb? (UInt32.le_iff_toNat_le.mp hle)]
    exact Binomial.climb?_eq_rounds _ _ _ _
  · intro r hr
    have hfits : r.coefficient ≤ maxOrdinal := Binomial.coefficient_le (by decide) r hr
    rw [show rounds = _ from Binomial.roundsOf_eq n.toNat k.toNat] at hr
    have hstart : r.coefficient = n.toNat.choose r.index := Binomial.coefficient_eq_choose r hr
    exact ⟨hstart, Binomial.Round.product_eq hstart, Binomial.Round.product_lt n.toNat_lt hfits⟩

/-- The largest coefficient in the middle of a row that fits. -/
theorem binomial?_exact_of_67 :
    Nat.choose 67 33 = 14226520737620288370 ∧ Nat.choose 67 33 ≤ maxOrdinal ∧
      ∀ r ∈ Binomial.roundsOf 67 33, r.product 67 < 2 ^ 96 ∧ r.result 67 ≤ maxOrdinal := by
  obtain ⟨-, -, hagree, -, -, hrounds, hfits⟩ := binomial?_exact 67 33
  have hcoefficient : binomial? 67 33 = some 14226520737620288370 := by decide
  have hchoose : Nat.choose 67 33 = 14226520737620288370 :=
    (binomial_eq_choose 67 33).symm.trans (hagree _ hcoefficient)
  have hle : Nat.choose 67 33 ≤ maxOrdinal := hchoose ▸ by decide
  exact ⟨hchoose, hle, fun r hr ↦ ⟨(hrounds r hr).2.2, hfits hle r hr⟩⟩

/-- The bounded coefficient, from at most `limit` rounds. -/
def binomialWithin? (limit n k : Nat) : Option Nat :=
  if n < k then some 0 else Binomial.climb? n (min limit (Binomial.steps n k)) 0 1

/-- **The bounded coefficient takes at most 64 rounds.**  If it is more than 64 steps away from the
nearer end of its row, one of the first 64 rounds arrives at a coefficient that is too large.  So a
coefficient that fits is at most 64 steps away, and to stop after 64 rounds changes no result. -/
theorem binomial?_rounds_le (n k : UInt32) :
    let steps := Binomial.steps n.toNat k.toNat
    let rounds := Binomial.roundsOf n.toNat k.toNat
    rounds.length ≤ 64 ∧ rounds.map (·.index) = List.range rounds.length ∧
      (64 < steps → ∃ r ∈ rounds, r.index < 64 ∧ maxOrdinal < r.result n.toNat) ∧
      (k ≤ n → n.toNat.choose k.toNat ≤ maxOrdinal → steps ≤ 64) ∧
      binomialWithin? 64 n.toNat k.toNat = binomial? n.toNat k.toNat := by
  intro steps rounds
  have hlength : rounds.length ≤ 64 := Binomial.length_roundsOf_le n.toNat k.toNat
  have hindex : rounds.map (·.index) = List.range rounds.length := by
    rw [List.range_eq_range']
    exact Binomial.map_index_rounds _ _ _ _
  refine ⟨hlength, hindex, ?_, ?_, ?_⟩
  · intro hlong
    obtain ⟨hlarge, hascends⟩ := Binomial.maxOrdinal_lt_of_lt_steps hlong
    have hnone : Binomial.climb? n.toNat steps 0 1 = none := by
      rw [Binomial.climb?_one (Binomial.two_mul_steps_le _ _), if_neg (by omega)]
    obtain ⟨r, hr, hresult⟩ := Binomial.climb?_eq_none_iff.mp hnone
    have hplace : r.index ∈ List.range rounds.length := hindex ▸ List.mem_map_of_mem hr
    rw [List.mem_range] at hplace
    exact ⟨r, hr, by omega, hresult⟩
  · intro hle hfits
    by_contra hlong
    obtain ⟨hlarge, hascends⟩ := Binomial.maxOrdinal_lt_of_lt_steps (Nat.not_le.mp hlong)
    rw [Binomial.choose_steps (UInt32.le_iff_toNat_le.mp hle)] at hascends
    omega
  · rw [binomialWithin?, binomial?, Binomial.climb?_min_steps]

/-- Of the 65 rounds to the middle of row 130, at most 64 are gone through. -/
theorem binomial?_rounds_le_of_130 :
    64 < Binomial.steps 130 65 ∧ (Binomial.roundsOf 130 65).length ≤ 64 ∧
      (∃ r ∈ Binomial.roundsOf 130 65, r.index < 64 ∧ maxOrdinal < r.result 130) ∧
      binomialWithin? 64 130 65 = binomial? 130 65 := by
  obtain ⟨hlength, -, hlarge, -, hwithin⟩ := binomial?_rounds_le 130 65
  have hlong : 64 < Binomial.steps 130 65 := by decide
  exact ⟨hlong, hlength, hlarge hlong, hwithin⟩

end Combinations
