import Mathlib.Data.Set.Card

/-!
# Places in a sorted list

A list is sorted by a relation if each of its elements stands in that relation to all behind it.  For
an asymmetric relation the order of two elements is then the order of their places
(`rel_of_getElem?_of_lt`, `lt_of_getElem?_of_rel`), and so the place of an element says how many
elements come before it (`encard_rel_of_getElem?`), and the element behind it is the least of those
that come after it (`eq_or_rel_of_getElem?_succ`).
-/

set_option autoImplicit false

namespace Combinations

variable {α : Type} {r : α → α → Prop} {l : List α} {i j : Nat} {a b c : α}

theorem rel_of_getElem?_of_lt (h : l.Pairwise r) (ha : l[i]? = some a) (hb : l[j]? = some b)
    (hij : i < j) : r a b := by
  obtain ⟨hi, rfl⟩ := List.getElem?_eq_some_iff.mp ha
  obtain ⟨hj, rfl⟩ := List.getElem?_eq_some_iff.mp hb
  exact List.pairwise_iff_getElem.mp h i j hi hj hij

/-- In a sorted list what is larger stands further behind. -/
theorem lt_of_getElem?_of_rel [Std.Asymm r] (h : l.Pairwise r) (ha : l[i]? = some a)
    (hb : l[j]? = some b) (hab : r a b) : i < j := by
  by_contra hle
  rcases Nat.eq_or_lt_of_le (Nat.not_lt.mp hle) with rfl | hlt
  · obtain rfl := Option.some.inj (ha.symm.trans hb)
    exact Std.Asymm.asymm _ _ hab hab
  · exact Std.Asymm.asymm _ _ hab (rel_of_getElem?_of_lt h hb ha hlt)

/-- In a sorted list the elements that are smaller than one of them are those in front of it. -/
theorem mem_and_rel_iff_mem_take [Std.Asymm r] (h : l.Pairwise r) (ha : l[i]? = some a) :
    b ∈ l ∧ r b a ↔ b ∈ l.take i := by
  rw [List.mem_iff_getElem?, List.mem_iff_getElem?]
  constructor
  · rintro ⟨⟨j, hb⟩, hba⟩
    refine ⟨j, ?_⟩
    rw [List.getElem?_take, if_pos (lt_of_getElem?_of_rel h hb ha hba)]
    exact hb
  · rintro ⟨j, hb⟩
    rw [List.getElem?_take] at hb
    split at hb
    · next hj => exact ⟨⟨j, hb⟩, rel_of_getElem?_of_lt h hb ha hj⟩
    · cases hb

/-- **In a sorted list an element stands at the place that says how many are smaller.** -/
theorem encard_rel_of_getElem? [Std.Asymm r] (h : l.Pairwise r) (ha : l[i]? = some a) :
    {b | b ∈ l ∧ r b a}.encard = i := by
  classical
  have hnodup : (l.take i).Nodup := h.take.nodup
  obtain ⟨hi, -⟩ := List.getElem?_eq_some_iff.mp ha
  calc {b | b ∈ l ∧ r b a}.encard
      = ((l.take i).toFinset : Set α).encard := by
        rw [List.coe_toFinset]
        exact congrArg Set.encard (Set.ext fun b ↦ mem_and_rel_iff_mem_take h ha)
    _ = i := by
        rw [Set.encard_coe_eq_coe_finsetCard, List.toFinset_card_of_nodup hnodup, List.length_take,
          Nat.min_eq_left hi.le]

/-! ## The next element -/

/-- What is larger than an element stands further behind. -/
theorem exists_getElem?_of_rel [Std.Asymm r] (h : l.Pairwise r) (ha : l[i]? = some a) (hc : c ∈ l)
    (hac : r a c) : ∃ j, i < j ∧ l[j]? = some c := by
  obtain ⟨j, hj⟩ := List.mem_iff_getElem?.mp hc
  exact ⟨j, lt_of_getElem?_of_rel h ha hj hac, hj⟩

/-- **In a sorted list the element behind another is the least of those that are larger.** -/
theorem eq_or_rel_of_getElem?_succ [Std.Asymm r] (h : l.Pairwise r) (ha : l[i]? = some a)
    (hb : l[i + 1]? = some b) (hc : c ∈ l) (hac : r a c) : c = b ∨ r b c := by
  obtain ⟨j, hij, hj⟩ := exists_getElem?_of_rel h ha hc hac
  rcases Nat.eq_or_lt_of_le (Nat.succ_le_of_lt hij) with rfl | hbehind
  · exact .inl (Option.some.inj (hj.symm.trans hb))
  · exact .inr (rel_of_getElem?_of_lt h hb hj hbehind)

/-- Nothing in a sorted list is larger than its last element. -/
theorem not_rel_of_getElem?_succ_eq_none [Std.Asymm r] (h : l.Pairwise r) (ha : l[i]? = some a)
    (hnone : l[i + 1]? = none) (hc : c ∈ l) : ¬r a c := by
  intro hac
  obtain ⟨j, hij, hj⟩ := exists_getElem?_of_rel h ha hc hac
  obtain ⟨hlength, -⟩ := List.getElem?_eq_some_iff.mp hj
  rw [List.getElem?_eq_none_iff] at hnone
  omega

end Combinations
