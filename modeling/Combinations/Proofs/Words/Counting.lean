import Combinations.Proofs.Binomial.Rounds
import Combinations.Proofs.Config.Total
import Combinations.Proofs.Words.Calculation
import Combinations.Words.Counting

/-!
# Coefficients and totals on words

For 32-bit words `n` and `k`, the coefficients on words are those of the library, and so are the
totals.

The product of a round is the largest number that is computed.  It stays far below 128 bits, because
a round is only begun with a coefficient of 64 bits; everything else is bounded by `n`, or is added
under a check.
-/

set_option autoImplicit false

namespace Combinations
namespace Words

variable {n steps i c first sum : Nat}

/-! ## Coefficients -/

theorem yields_climb? (hn : n < 2 ^ 32) (hi : i + steps ≤ n) (hc : c ≤ maxOrdinal) :
    (climb? n steps i c).Yields (Binomial.climb? n steps i c) := by
  induction steps generalizing i c with
  | zero =>
    rw [climb?, Binomial.climb?, narrow?_of_le hc]
    exact .pure _
  | succ steps ih =>
    have hproduct : c * (n - i) < 2 ^ 96 :=
      Binomial.Round.product_lt (r := ⟨i, c⟩) hn hc
    rw [climb?, Binomial.climb?]
    refine .bind (yields_sub hn (by omega)) ?_
    refine .bind (yields_mul (by omega)) ?_
    refine .bind (yields_add (by omega)) ?_
    rw [← Binomial.next]
    split
    · exact .pure _
    · next hfits => exact ih (by omega) (Nat.not_lt.mp hfits)

/-- **The bounded coefficient on words.** -/
theorem yields_binomial? (hn : n < 2 ^ 32) (k : Nat) :
    (binomial? n k).Yields (Combinations.binomial? n k) := by
  rw [binomial?, Combinations.binomial?]
  split
  · exact .pure _
  · next hk =>
    refine .bind (yields_sub hn (Nat.not_lt.mp hk)) ?_
    exact yields_climb? hn (by omega) (by decide)

/-- The two rounds to the middle of row 4, after the distance from the end of the row. -/
example : (binomial? 4 2).operations =
    [⟨32, .sub, 4, 2⟩, ⟨32, .sub, 4, 0⟩, ⟨128, .mul, 1, 4⟩, ⟨32, .add, 0, 1⟩,
      ⟨32, .sub, 4, 1⟩, ⟨128, .mul, 4, 3⟩, ⟨32, .add, 1, 1⟩] := rfl

/-- A rank is reduced by a block only if it is not inside the block. -/
theorem yields_beyond? (hn : n < 2 ^ 32) (k : Nat) {rank : Nat} (hrank : rank ≤ maxOrdinal) :
    (beyond? n k rank).Yields (Binomial.beyond? n k rank) := by
  rw [beyond?, Binomial.beyond?]
  refine .bind (yields_binomial? hn k) ?_
  cases Combinations.binomial? n k with
  | none => exact .pure _
  | some block =>
    simp only
    split
    · exact .pure _
    · next hle =>
      exact .bind (yields_sub (lt_of_le_maxOrdinal hrank) (Nat.not_lt.mp hle)) (.pure _)

theorem yields_climb (hn : n < 2 ^ 32) (hi : i + steps ≤ n) :
    (climb n steps i c).Yields (Binomial.climb n steps i c) := by
  induction steps generalizing i c with
  | zero => exact .pure _
  | succ steps ih =>
    rw [climb, Binomial.climb]
    refine .bind (yields_sub hn (by omega)) ?_
    refine .bind (yields_add (by omega)) ?_
    exact ih (by omega)

/-- **The unbounded coefficient on words.** -/
theorem yields_binomial (hn : n < 2 ^ 32) (k : Nat) :
    (binomial n k).Yields (Combinations.binomial n k) := by
  rw [binomial, Combinations.binomial]
  split
  · exact .pure _
  · next hk =>
    refine .bind (yields_sub hn (Nat.not_lt.mp hk)) ?_
    exact yields_climb hn (by omega)

/-! ## Totals -/

theorem yields_sumSizes? (hn : n < 2 ^ 32) (width size sum : Nat) :
    (sumSizes? n width size sum).Yields (Combinations.sumSizes? n width size sum) := by
  induction width generalizing size sum with
  | zero => exact .pure _
  | succ width ih =>
    rw [sumSizes?, Combinations.sumSizes?]
    refine .bind (yields_binomial? hn size) ?_
    cases Combinations.binomial? n size with
    | none => exact .pure _
    | some block =>
      rcases Nat.lt_or_ge maxOrdinal (sum + block) with hlarge | hfits
      · simp only [checkedAdd, narrow?_of_lt hlarge, if_pos hlarge]
        exact .pure _
      · simp only [checkedAdd, narrow?_of_le hfits, if_neg (Nat.not_lt.mpr hfits)]
        exact ih _ _

/-- **The bounded total on words.** -/
theorem yields_total (hn : n < 2 ^ 32) (config : Config) :
    (total config n).Yields (config.total n) := by
  cases hextent : config.extent n with
  | error e =>
    rw [total, Config.total, hextent]
    exact .pure _
  | ok extent =>
    have hempty := Bool.toNat_le (config.visitsEmpty extent)
    simp only [total, hextent, Config.total_of_extent hextent]
    split
    · exact .pure _
    · split
      · next hwhole =>
        rw [Bool.and_eq_true, decide_eq_true_eq] at hwhole
        -- below 64 items all subsets together are at most `2 ^ 63`
        have hpow : 2 ^ n ≤ 2 ^ 63 := Nat.pow_le_pow_right (by decide) (by omega)
        have hpos : 1 ≤ 2 ^ n := Nat.one_le_two_pow
        refine .bind (yields_shl hwhole.2 (by omega)) ?_
        refine .bind (yields_sub (by omega) (by omega)) ?_
        refine .bind (yields_add (by omega)) ?_
        rw [Nat.one_mul, Nat.one_shiftLeft]
        exact .pure _
      · refine .bind (yields_sumSizes? hn _ _ _) ?_
        cases Combinations.sumSizes? n extent.width extent.first
          (config.visitsEmpty extent).toNat <;> exact .pure _

theorem yields_sumRow (hn : n < 2 ^ 32) {k block : Nat} (hk : k + steps ≤ n) :
    (sumRow n first steps k block sum).Yields (Combinations.sumRow n first steps k block sum) := by
  induction steps generalizing k block sum with
  | zero => exact .pure _
  | succ steps ih =>
    have hfactor : n - (k + 1) + 1 = n - k := by omega
    rw [sumRow, Combinations.sumRow]
    refine .bind (yields_sub hn (by omega)) ?_
    refine .bind (yields_add (by omega)) ?_
    rw [hfactor, ← Binomial.next]
    exact ih (by omega)

/-- **The exact total on words.** -/
theorem yields_exactTotal (hn : n < 2 ^ 32) (config : Config) :
    (exactTotal config n).Yields (config.exactTotal n) := by
  cases hextent : config.extent n with
  | error e =>
    rw [exactTotal, Config.exactTotal, hextent]
    exact .pure _
  | ok extent =>
    simp only [exactTotal, hextent, Config.exactTotal_of_extent hextent]
    split
    · exact .pure _
    · split
      · exact .pure _
      · have hhigh := Config.high_le hextent
        exact .bind (yields_sumRow hn (by omega)) (.pure _)

end Words
end Combinations
