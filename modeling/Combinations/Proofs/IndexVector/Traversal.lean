import Combinations.Proofs.IndexVector.Successor
import Combinations.Proofs.Sorted

/-!
# Steps go through all choices

A step in place goes from a choice to the next one in lexicographic order, and says `false` at the
last.  `IndexVector.NextChoice` is what "next" means, without a list: of all choices that come after
`v` it is the least.

The steps from the first choice on go through the listing place by place and then stay at its end
(`getElem?_listing_after`).  The listing holds every choice once, so this is what the steps visit,
and its length `C(n, k)` is the number of steps and one more.
-/

set_option autoImplicit false

namespace Combinations
namespace IndexVector

variable {n k rank : Nat} {v w : List Nat}

/-- `w` is the next choice after `v`: it comes after `v`, and what else comes after `v` comes after
`w`. -/
structure NextChoice (n k : Nat) (v w : List Nat) : Prop where
  choice : IsChoice n k w
  lt : v < w
  least : ∀ u, IsChoice n k u → v < u → u = w ∨ w < u

/-- The element behind another in the listing is the next choice. -/
theorem nextChoice_of_getElem? (hv : (listing n k)[rank]? = some v)
    (hw : (listing n k)[rank + 1]? = some w) : NextChoice n k v w where
  choice := mem_listing.mp (List.mem_of_getElem? hw)
  lt := rel_of_getElem?_of_lt (pairwise_listing n k) hv hw (Nat.lt_succ_self rank)
  least _ hu := eq_or_rel_of_getElem?_succ (pairwise_listing n k) hv hw (mem_listing.mpr hu)

/-- A choice that no other comes after is the consecutive vector as far up as possible. -/
theorem eq_range'_of_getElem? (hk : k ≤ n) (hv : (listing n k)[rank]? = some v)
    (hnone : (listing n k)[rank + 1]? = none) : v = List.range' (n - k) k := by
  obtain ⟨hrank, -⟩ := List.getElem?_eq_some_iff.mp hv
  rw [List.getElem?_eq_none_iff] at hnone
  have hlast : (listing n k).getLast? = some v := by
    rw [List.getLast?_eq_getElem?, ← hv]
    congr 1
    omega
  rw [getLast?_listing hk] at hlast
  exact (Option.some.inj hlast).symm

/-- **What a step does from a choice**: it leads to the next one, or the choice is the last. -/
theorem step_of_isChoice (hk : k ≤ n) (hv : IsChoice n k v) :
    (∃ w, step n v = (true, w) ∧ NextChoice n k v w) ∨
      (step n v = (false, v) ∧ v = List.range' (n - k) k ∧ ∀ w, IsChoice n k w → ¬v < w) := by
  obtain ⟨rank, hrank⟩ := List.mem_iff_getElem?.mp (mem_listing.mpr hv)
  have hnext := successor?_eq_getElem? hk hrank
  cases hw : (listing n k)[rank + 1]? with
  | some w => exact .inl ⟨w, step_of_some (hnext.trans hw), nextChoice_of_getElem? hrank hw⟩
  | none =>
    refine .inr ⟨step_of_none (hnext.trans hw), eq_range'_of_getElem? hk hrank hw, ?_⟩
    intro w hchoice
    exact not_rel_of_getElem?_succ_eq_none (pairwise_listing n k) hrank hw (mem_listing.mpr hchoice)

/-! ## Steps from the first choice on -/

/-- **Steps go through the listing place by place**, and then stay at its last element. -/
theorem getElem?_listing_after (hk : k ≤ n) (steps : Nat) :
    (listing n k)[min steps (n.choose k - 1)]? = some (after n (first k) steps) := by
  have hpos : 0 < n.choose k := Nat.choose_pos hk
  induction steps with
  | zero => rw [Nat.zero_min, ← List.head?_eq_getElem?, head?_listing hk, after]
  | succ steps ih =>
    have hnext := successor?_eq_getElem? hk ih
    rw [after_succ]
    rcases Nat.lt_or_ge (steps + 1) (n.choose k) with hmore | hlast
    · have hplace : min (steps + 1) (n.choose k - 1) = min steps (n.choose k - 1) + 1 := by omega
      obtain ⟨w, hw⟩ : ∃ w, (listing n k)[min steps (n.choose k - 1) + 1]? = some w :=
        ⟨_, List.getElem?_eq_getElem (by rw [length_listing]; omega)⟩
      rw [hw] at hnext
      rw [hplace, hw, step_of_some hnext]
    · have hplace : min (steps + 1) (n.choose k - 1) = min steps (n.choose k - 1) := by omega
      rw [List.getElem?_eq_none (by rw [length_listing]; omega)] at hnext
      rw [hplace, ih, step_of_none hnext]

/-- As long as there are steps, the vector after them stands at their number. -/
theorem getElem?_listing_after_of_lt (hk : k ≤ n) {steps : Nat} (h : steps < n.choose k) :
    (listing n k)[steps]? = some (after n (first k) steps) := by
  rw [← getElem?_listing_after hk steps, Nat.min_eq_left (by omega)]

/-- From the first choice on, `C(n, k) - 1` steps succeed. -/
theorem fst_step_after_iff (hk : k ≤ n) (steps : Nat) :
    (step n (after n (first k) steps)).1 = true ↔ steps < n.choose k - 1 := by
  have hnext := successor?_eq_getElem? hk (getElem?_listing_after hk steps)
  have hlength := length_listing n k
  cases hw : (listing n k)[min steps (n.choose k - 1) + 1]? with
  | some w =>
    obtain ⟨hlt, -⟩ := List.getElem?_eq_some_iff.mp hw
    rw [step_of_some (hnext.trans hw)]
    exact iff_of_true rfl (by omega)
  | none =>
    have hge := List.getElem?_eq_none_iff.mp hw
    rw [step_of_none (hnext.trans hw)]
    exact iff_of_false Bool.false_ne_true (by omega)

/-- Each choice is there after exactly one number of steps. -/
theorem existsUnique_after (hk : k ≤ n) (hv : IsChoice n k v) :
    ∃! steps, steps < n.choose k ∧ after n (first k) steps = v := by
  obtain ⟨rank, hrank⟩ := List.mem_iff_getElem?.mp (mem_listing.mpr hv)
  have hlt := (List.getElem?_eq_some_iff.mp hrank).1
  rw [length_listing] at hlt
  refine ⟨rank, ⟨hlt, ?_⟩, ?_⟩
  · exact Option.some.inj ((getElem?_listing_after_of_lt hk hlt).symm.trans hrank)
  · rintro steps ⟨hsteps, rfl⟩
    -- the listing holds no choice twice
    rw [← getElem?_listing_after_of_lt hk hsteps] at hrank
    refine (List.getElem?_inj ?_ (pairwise_listing n k).nodup).mp hrank.symm
    rwa [length_listing]

/-- **Steps go from each choice to the next, and so through all of them.**

* From a choice a step succeeds exactly if there is a choice after it, and then leads to the next
  one; otherwise the choice is the last vector, and stays as it is.
* From the first choice on, exactly `C(n, k) - 1` steps succeed.  They lead through choices only,
  and each choice is there after exactly one number of steps. -/
theorem step_visits_choices {n k : Nat} (hk : k ≤ n) :
    (∀ v, IsChoice n k v →
      ((step n v).1 = true ↔ ∃ w, IsChoice n k w ∧ v < w) ∧
      ((step n v).1 = true → NextChoice n k v (step n v).2) ∧
      ((step n v).1 = false → v = List.range' (n - k) k ∧ (step n v).2 = v)) ∧
    (∀ steps, (step n (after n (first k) steps)).1 = true ↔ steps < n.choose k - 1) ∧
    (∀ steps, IsChoice n k (after n (first k) steps)) ∧
    (∀ v, IsChoice n k v → ∃! steps, steps < n.choose k ∧ after n (first k) steps = v) := by
  refine ⟨fun v hv ↦ ?_, fst_step_after_iff hk, fun steps ↦ ?_, fun v ↦ existsUnique_after hk⟩
  · rcases step_of_isChoice hk hv with ⟨w, hstep, hnext⟩ | ⟨hstep, hlast, hnone⟩
    · rw [hstep]
      exact ⟨iff_of_true rfl ⟨w, hnext.choice, hnext.lt⟩, fun _ ↦ hnext, nofun⟩
    · rw [hstep]
      refine ⟨iff_of_false Bool.false_ne_true ?_, nofun, fun _ ↦ ⟨hlast, rfl⟩⟩
      rintro ⟨w, hw, hlt⟩
      exact hnone w hw hlt
  · exact mem_listing.mp (List.mem_of_getElem? (getElem?_listing_after hk steps))

/-- Of four items: the pair after `[0, 3]`, and the five steps from the first pair to the last. -/
theorem step_visits_choices_of_pairs :
    2 ≤ 4 ∧ step 4 [0, 3] = (true, [1, 2]) ∧ NextChoice 4 2 [0, 3] [1, 2] ∧
      (step 4 (after 4 [0, 1] 4)).1 = true ∧ (step 4 (after 4 [0, 1] 5)).1 = false ∧
      ∃! steps, steps < 6 ∧ after 4 [0, 1] steps = [1, 3] := by
  obtain ⟨hstep, hsteps, -, hvisit⟩ := step_visits_choices (show 2 ≤ 4 by decide)
  have hpair : IsChoice 4 2 [0, 3] := ⟨rfl, by decide, by decide⟩
  have hlater : IsChoice 4 2 [1, 3] := ⟨rfl, by decide, by decide⟩
  refine ⟨by decide, rfl, (hstep _ hpair).2.1 rfl, (hsteps 4).mpr (by decide), ?_, hvisit _ hlater⟩
  exact Bool.eq_false_of_not_eq_true fun htrue ↦ absurd ((hsteps 5).mp htrue) (by decide)

end IndexVector
end Combinations
