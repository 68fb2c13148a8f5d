import Combinations.Proofs.Walk.Position
import Mathlib.Data.Nat.Choose.Sum

/-!
# The totals count what a walk visits

Three computations give the number of combinations of a configuration: the bounded sum
(`Config.total`), the exact recurrence along a row (`Config.exactTotal`), both with a shortcut where
all sizes are asked for, and the walk that visits one combination after the other.  They agree
because each of them is the length of the configuration's listing, which is
`Extent.combinations`: a sum of binomial coefficients.
-/

set_option autoImplicit false

namespace Combinations

variable {config : Config} {extent : Extent} {n : Nat} {hasEmpty : Bool}

/-- The number of combinations of the sizes of `extent`, by the binomial coefficients. -/
def Extent.combinations (extent : Extent) (n : Nat) (hasEmpty : Bool) : Nat :=
  hasEmpty.toNat + ∑ k ∈ Finset.Ico extent.first (extent.high + 1), n.choose k

theorem length_listingOfSizes (n size width : Nat) :
    (listingOfSizes n size width).length = ∑ k ∈ Finset.Ico size (size + width), n.choose k := by
  induction width generalizing size with
  | zero => simp
  | succ width ih =>
    have hend : size + (width + 1) = size + 1 + width := by omega
    rw [listingOfSizes_succ, List.length_append, IndexVector.length_listing, ih, hend,
      Finset.sum_eq_sum_Ico_succ_bot (show size < size + 1 + width by omega)]

theorem sum_Ico_first (extent : Extent) (n : Nat) :
    ∑ k ∈ Finset.Ico extent.first (extent.first + extent.width), n.choose k =
      ∑ k ∈ Finset.Ico extent.first (extent.high + 1), n.choose k := by
  rw [extent.first_add_width]
  rcases Nat.le_total extent.first (extent.high + 1) with h | h
  · rw [Nat.max_eq_right h]
  · rw [Nat.max_eq_left h, Finset.Ico_self, Finset.Ico_eq_empty_of_le h]

/-- **The listing has as many elements as the coefficients say.** -/
theorem Extent.length_listing (extent : Extent) (n : Nat) (hasEmpty : Bool) :
    (extent.listing n hasEmpty).length = extent.combinations n hasEmpty := by
  have hsizes : ((List.range' extent.first extent.width).flatMap (IndexVector.listing n)).length =
      ∑ k ∈ Finset.Ico extent.first (extent.high + 1), n.choose k :=
    (length_listingOfSizes n extent.first extent.width).trans (sum_Ico_first extent n)
  rw [Extent.listing, List.length_append, hsizes, Extent.combinations]
  cases hasEmpty <;> rfl

/-! ## The two sums -/

/-- The bounded sum gives up exactly if the sum is too large. -/
theorem sumSizes?_eq (n width size : Nat) {sum : Nat} (h : sum ≤ maxOrdinal) :
    sumSizes? n width size sum =
      if sum + (listingOfSizes n size width).length ≤ maxOrdinal
      then some (sum + (listingOfSizes n size width).length) else none := by
  induction width generalizing size sum with
  | zero => rw [sumSizes?, listingOfSizes_zero, List.length_nil, Nat.add_zero, if_pos h]
  | succ width ih =>
    rw [sumSizes?, binomial?_eq_choose, listingOfSizes_succ, List.length_append,
      IndexVector.length_listing, ← Nat.add_assoc]
    by_cases hblock : n.choose size ≤ maxOrdinal
    · rw [if_pos hblock]
      simp only
      split
      · rw [if_neg (by omega)]
      · exact ih (size + 1) (by omega)
    · rw [if_neg hblock, if_neg (by omega)]

/-- The recurrence along a row adds up the coefficients from `first` on. -/
theorem sumRow_choose (n first steps k sum : Nat) :
    sumRow n first steps k (n.choose k) sum =
      sum + ∑ j ∈ Finset.Ico (max first (k + 1)) (k + 1 + steps), n.choose j := by
  induction steps generalizing k sum with
  | zero => rw [sumRow, Finset.Ico_eq_empty_of_le (by omega), Finset.sum_empty, Nat.add_zero]
  | succ steps ih =>
    have hend : k + 1 + (steps + 1) = k + 1 + 1 + steps := by omega
    rw [sumRow, Binomial.next_choose, ih, hend]
    split
    · next h =>
      rw [Nat.max_eq_right h, Nat.max_eq_right (by omega),
        Finset.sum_eq_sum_Ico_succ_bot (show k + 1 < k + 1 + 1 + steps by omega), Nat.add_assoc]
    · next h => rw [Nat.max_eq_left (by omega), Nat.max_eq_left (by omega)]

theorem sumRow_first (extent : Extent) (n sum : Nat) :
    sumRow n extent.first extent.high 0 1 sum =
      sum + ∑ k ∈ Finset.Ico extent.first (extent.high + 1), n.choose k := by
  have h := sumRow_choose n extent.first extent.high 0 sum
  rw [Nat.choose_zero_right] at h
  rw [h, Nat.zero_add, Nat.add_comm 1, Nat.max_eq_left]
  exact Nat.le_max_left 1 extent.low

/-- A row without its first coefficient. -/
theorem sum_choose_from_one (n : Nat) : ∑ k ∈ Finset.Ico 1 (n + 1), n.choose k = 2 ^ n - 1 := by
  have h := Nat.sum_range_choose n
  rw [Finset.range_eq_Ico, Finset.sum_eq_sum_Ico_succ_bot n.succ_pos, Nat.choose_zero_right,
    Nat.zero_add] at h
  rw [← h, Nat.add_sub_cancel_left]

/-! ## The totals -/

/-- Where all sizes are asked for, the shortcut is the sum. -/
theorem Extent.combinations_of_isWhole (h : extent.isWhole n = true) (hasEmpty : Bool) :
    extent.combinations n hasEmpty = hasEmpty.toNat + ((1 <<< n) - 1) := by
  rw [Extent.isWhole, Bool.and_eq_true, beq_iff_eq, beq_iff_eq] at h
  rw [Extent.combinations, h.1, h.2, sum_choose_from_one, Nat.one_shiftLeft]

theorem Extent.combinations_of_high_lt (h : extent.high < extent.first) (hasEmpty : Bool) :
    extent.combinations n hasEmpty = hasEmpty.toNat := by
  rw [Extent.combinations, Finset.Ico_eq_empty_of_le h, Finset.sum_empty, Nat.add_zero]

theorem Config.exactTotal_of_extent (h : config.extent n = .ok extent) :
    config.exactTotal n =
      if extent.high < extent.first then .ok (config.visitsEmpty extent).toNat
      else if extent.isWhole n then .ok ((config.visitsEmpty extent).toNat + ((1 <<< n) - 1))
      else .ok (sumRow n extent.first extent.high 0 1 (config.visitsEmpty extent).toNat) := by
  rw [Config.exactTotal, h]
  rfl

/-- **The exact total is the number of combinations.** -/
theorem Config.exactTotal_eq (h : config.extent n = .ok extent) :
    config.exactTotal n = .ok (extent.combinations n (config.visitsEmpty extent)) := by
  rw [Config.exactTotal_of_extent h]
  split
  · next hnone => rw [Extent.combinations_of_high_lt hnone]
  · split
    · next hwhole => rw [Extent.combinations_of_isWhole hwhole]
    · rw [sumRow_first, Extent.combinations]

theorem Config.total_of_extent (h : config.extent n = .ok extent) :
    config.total n =
      if extent.high < extent.first then .ok (config.visitsEmpty extent).toNat
      else if extent.isWhole n && n < 64 then
        .ok ((config.visitsEmpty extent).toNat + ((1 <<< n) - 1))
      else match sumSizes? n extent.width extent.first (config.visitsEmpty extent).toNat with
        | some sum => .ok sum
        | none => .error .overflow := by
  rw [Config.total, h]
  rfl

/-- **The total is the number of combinations**, if that is representable. -/
theorem Config.total_eq (h : config.extent n = .ok extent) :
    config.total n =
      if extent.combinations n (config.visitsEmpty extent) ≤ maxOrdinal
      then .ok (extent.combinations n (config.visitsEmpty extent)) else .error .overflow := by
  have hone := Bool.toNat_le (config.visitsEmpty extent)
  have hempty : (config.visitsEmpty extent).toNat ≤ maxOrdinal := hone.trans (by decide)
  rw [Config.total_of_extent h]
  split
  · next hnone => rw [Extent.combinations_of_high_lt hnone, if_pos hempty]
  · split
    · next hwhole =>
      rw [Bool.and_eq_true, decide_eq_true_eq] at hwhole
      -- below 64 items even all subsets together can be counted
      have hpow : 2 ^ n ≤ 2 ^ 63 := Nat.pow_le_pow_right (by decide) (by omega)
      have htotal : extent.combinations n (config.visitsEmpty extent) ≤ maxOrdinal := by
        rw [Extent.combinations_of_isWhole hwhole.1, Nat.one_shiftLeft, maxOrdinal]
        omega
      rw [if_pos htotal, Extent.combinations_of_isWhole hwhole.1]
    · rw [sumSizes?_eq n extent.width extent.first hempty, length_listingOfSizes, sum_Ico_first,
        ← Extent.combinations]
      split
      · next hsome =>
        split at hsome
        · next hfits => cases hsome; rw [if_pos hfits]
        · cases hsome
      · next hnone =>
        split at hnone
        · cases hnone
        · next hlarge => rw [if_neg hlarge]

/-- A total that is found is the length of the listing, and representable. -/
theorem Config.of_total_eq_ok {total : Nat} (h : config.total n = .ok total) :
    ∃ extent, config.extent n = .ok extent ∧
      (extent.listing n (config.visitsEmpty extent)).length = total ∧ total ≤ maxOrdinal := by
  cases hextent : config.extent n with
  | error e =>
    rw [Config.total, hextent] at h
    cases h
  | ok extent =>
    rw [Config.total_eq hextent] at h
    split at h
    · next hle => cases h; exact ⟨extent, rfl, extent.length_listing n _, hle⟩
    · cases h

/-- **The totals count what a walk visits.**  The walk from the beginning visits as many
combinations as the sizes have, which is the exact total, and the total wherever that is
representable.  Only the sizes and the empty combination have a part in it. -/
theorem Config.totals_count_trail (h : config.extent n = .ok extent) :
    ∃ walk, Walk.ofConfig (config.withWindow ⟨0, 0⟩) n = .ok walk ∧
      walk.trail.length =
        ∑ k ∈ Finset.Icc (max 1 extent.low) extent.high, n.choose k +
          (if extent.low = 0 ∧ config.showEmpty = true then 1 else 0) ∧
      config.exactTotal n = .ok walk.trail.length ∧
      config.total n =
        (if walk.trail.length ≤ maxOrdinal then .ok walk.trail.length else .error .overflow) ∧
      ∀ other : Config, other.sizes = config.sizes → other.showEmpty = config.showEmpty →
        other.exactTotal n = config.exactTotal n ∧ other.total n = config.total n := by
  have hwhole : (config.withWindow ⟨0, 0⟩).extent n = .ok extent := h
  obtain ⟨walk, hwalk, hstart⟩ := Walk.exists_standsAt hwhole
  have htrail : walk.trail.length = extent.combinations n (config.visitsEmpty extent) := by
    rw [hstart.trail_eq (Config.high_le h) fun h ↦ (Config.visitsEmpty_iff.mp h).1,
      ← extent.length_listing, ← length_numbered]
    rfl
  refine ⟨walk, hwalk, ?_, ?_, ?_, ?_⟩
  · rw [htrail, Extent.combinations, Nat.add_comm, Extent.first]
    congr 1
    by_cases hempty : config.visitsEmpty extent = true
    · rw [if_pos (Config.visitsEmpty_iff.mp hempty), hempty, Bool.toNat_true]
    · rw [if_neg (Config.visitsEmpty_iff.not.mp hempty), Bool.eq_false_of_not_eq_true hempty,
        Bool.toNat_false]
  · rw [htrail, Config.exactTotal_eq h]
  · rw [htrail, Config.total_eq h]
  · intro other hsizes hshow
    have hother : other.extent n = .ok extent := by
      rw [← h, Config.extent, Config.extent, hsizes]
    have hvisits : other.visitsEmpty extent = config.visitsEmpty extent := by
      rw [Config.visitsEmpty, Config.visitsEmpty, hshow]
    rw [Config.exactTotal_eq hother, Config.exactTotal_eq h, Config.total_eq hother,
      Config.total_eq h, hvisits]
    exact ⟨rfl, rfl⟩

/-- With the empty combination, the subsets of 64 items are one more than a total can say. -/
theorem Config.totals_count_trail_of_64 :
    let config : Config :=
      { Config.default with showEmpty := true, sizes := ⟨0, none, by simp⟩ }
    config.extent 64 = .ok ⟨0, 64⟩ ∧
      ∃ walk, Walk.ofConfig (config.withWindow ⟨0, 0⟩) 64 = .ok walk ∧
        walk.trail.length = 2 ^ 64 ∧ config.exactTotal 64 = .ok (2 ^ 64) ∧
        config.total 64 = .error .overflow := by
  intro config
  have hextent : config.extent 64 = .ok ⟨0, 64⟩ := rfl
  have hvalue : config.exactTotal 64 = .ok (2 ^ 64) := by
    rw [Config.exactTotal_eq hextent, Extent.combinations_of_isWhole rfl,
      show config.visitsEmpty ⟨0, 64⟩ = true from rfl, Nat.one_shiftLeft]
    norm_num
  obtain ⟨walk, hwalk, -, hexact, htotal, -⟩ := Config.totals_count_trail hextent
  have hlength : walk.trail.length = 2 ^ 64 := Except.ok.inj (hexact.symm.trans hvalue)
  rw [hlength, if_neg (by decide)] at htotal
  exact ⟨hextent, walk, hwalk, hlength, hvalue, htotal⟩

end Combinations
