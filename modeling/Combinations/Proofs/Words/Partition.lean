import Combinations.Proofs.Partition
import Combinations.Proofs.Words.Walk
import Combinations.Words.Partition

/-!
# Splitting on words, and all the arithmetic together

The loop of a split ends with the first part that has no combination, and the library says
beforehand how many parts there are; the two come to the same windows (`yields_cut`).  The cursor
stays in its word because it never passes the total.

The last theorem puts together what the modules on words show.
-/

set_option autoImplicit false

namespace Combinations
namespace Words

variable {n base extra left : Nat}

/-- A loop over all parts cuts as many windows as have a combination. -/
theorem yields_cut (part cursor : Nat) (hextra : extra ≤ part + left)
    (hfits : cursor + (base * left + (extra - part)) ≤ maxOrdinal) :
    (cut base extra left part cursor).Yields
      (Window.cut base (extra - part) (if base = 0 then extra - part else left) cursor) := by
  induction left generalizing part cursor with
  | zero =>
    have hnone : extra - part = 0 := by omega
    rw [hnone, ite_self]
    exact .pure _
  | succ left ih =>
    rw [Nat.mul_succ] at hfits
    rw [cut]
    rcases Nat.lt_or_ge part extra with hlong | hshort
    · -- one of the longer parts
      obtain ⟨rest, hrest⟩ : ∃ rest, extra - part = rest + 1 := ⟨extra - part - 1, by omega⟩
      have hcount : (if base = 0 then rest + 1 else left + 1) =
          (if base = 0 then rest else left) + 1 := by
        split <;> rfl
      have hnext := ih (part + 1) (cursor + (base + 1)) (by omega) (by omega)
      rw [show extra - (part + 1) = rest by omega] at hnext
      rw [hrest, hcount, Window.cut, if_pos hlong]
      refine .bind (yields_add (lt_of_le_maxOrdinal (by omega))) ?_
      rw [if_neg (Nat.succ_ne_zero base)]
      refine .bind (yields_add (lt_of_le_maxOrdinal (by omega))) ?_
      exact .bind hnext (.pure _)
    · have hnone : extra - part = 0 := by omega
      rw [hnone, if_neg (Nat.not_lt.mpr hshort)]
      refine .bind (yields_add (lt_of_le_maxOrdinal (by omega))) ?_
      rw [Nat.add_zero]
      rcases Nat.eq_zero_or_pos base with rfl | hbase
      · rw [if_pos rfl, if_pos rfl]
        exact .pure _
      · have hnext := ih (part + 1) (cursor + base) (by omega) (by omega)
        rw [show extra - (part + 1) = 0 by omega, if_neg hbase.ne'] at hnext
        rw [if_neg hbase.ne', if_neg hbase.ne', Window.cut]
        refine .bind (yields_add (lt_of_le_maxOrdinal (by omega))) ?_
        exact .bind hnext (.pure _)

theorem yields_split {selection : Selection} {parts : Nat} (hparts : 0 < parts)
    (hfits : selection.start + selection.remaining ≤ maxOrdinal) :
    (cut (selection.remaining / parts) (selection.remaining % parts) parts 0 selection.start).Yields
      (selection.split parts) := by
  have hmod := Nat.mod_lt selection.remaining hparts
  have hdiv := Nat.div_add_mod' selection.remaining parts
  have hcount : min parts selection.remaining =
      if selection.remaining / parts = 0 then selection.remaining % parts else parts := by
    rcases Nat.lt_or_ge selection.remaining parts with hlt | hge
    · rw [if_pos (Nat.div_eq_of_lt hlt), Nat.mod_eq_of_lt hlt, Nat.min_eq_right hlt.le]
    · rw [if_neg (Nat.div_pos hge hparts).ne', Nat.min_eq_left hge]
  rw [Selection.split, hcount]
  exact yields_cut 0 _ (by omega) (by rwa [Nat.sub_zero, hdiv])

/-- **Splitting a run on words.** -/
theorem yields_partition (hn : n < 2 ^ 32) (config : Config) (parts : Nat) :
    (partition config n parts).Yields (config.partition n parts) := by
  rw [partition]
  rcases Nat.eq_zero_or_pos parts with rfl | hparts
  · exact .pure _
  · rw [if_neg hparts.ne']
    refine .bind (yields_total hn config) ?_
    cases htotal : config.total n with
    | error e =>
      rw [Config.partition, if_neg hparts.ne', htotal]
      exact .pure _
    | ok total =>
      obtain ⟨-, -, -, hle⟩ := Config.of_total_eq_ok htotal
      have hselect := config.window.select_start_add_remaining_le total
      rw [Config.partition, if_neg hparts.ne', htotal]
      refine .bind (yields_sub (lt_of_le_maxOrdinal hle) (Nat.min_le_right _ _)) ?_
      exact .bind (yields_split hparts (hselect.trans hle)) (.pure _)

/-! ## All of it together -/

/-- **The arithmetic never wraps.**  For all 32-bit words `n` and `k`, all 64-bit ranks and numbers
of parts, and every configuration: every addition, subtraction, multiplication and shift on words
stays within its word, and the results are those of the library, which computes with natural
numbers.  This goes for the coefficients, the totals, unranking, placing a walk, and splitting a
run.

Where the combinations of a size are found to contain a rank, unranking within the size succeeds, so
that placing a walk never has to stop there. -/
theorem arithmetic_never_wraps (n k : UInt32) (rank parts : UInt64) (config : Config) :
    (binomial? n.toNat k.toNat).Yields (Combinations.binomial? n.toNat k.toNat) ∧
      (binomial n.toNat k.toNat).Yields (Combinations.binomial n.toNat k.toNat) ∧
      (total config n.toNat).Yields (config.total n.toNat) ∧
      (exactTotal config n.toNat).Yields (config.exactTotal n.toNat) ∧
      (unrank n.toNat k.toNat rank.toNat).Yields
        (IndexVector.unrank n.toNat k.toNat rank.toNat) ∧
      (ofConfig config n.toNat).Yields (Walk.ofConfig config n.toNat) ∧
      (partition config n.toNat parts.toNat).Yields (config.partition n.toNat parts.toNat) ∧
      ((beyond? n.toNat k.toNat rank.toNat).Yields none ↔
        ∃ v, (unrank n.toNat k.toNat rank.toNat).Yields (some v)) := by
  have hn : n.toNat < 2 ^ 32 := n.toNat_lt
  have hrank := toNat_le_maxOrdinal rank
  exact ⟨yields_binomial? hn _, yields_binomial hn _, yields_total hn config,
    yields_exactTotal hn config, yields_unrank hn _ hrank, yields_ofConfig hn config,
    yields_partition hn config _, yields_beyond?_none_iff hn _ hrank⟩

end Words
end Combinations
