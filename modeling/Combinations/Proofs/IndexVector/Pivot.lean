import Combinations.IndexVector.Successor
import Mathlib.Data.List.Lex

/-!
# Steps from any vector

What a step does is local, so it makes sense for vectors that choose nothing: with entries in any
order, repeated, or not below `n`.  `IndexVector.Raises` says what a step does to such a vector, and
`successor?_eq_none_iff` when there is no step.

Neither the rank of a vector nor its order is there to count the steps, but every step uses up slack
(`slack_successor?_lt`), which does not look at the order.  So the steps from any vector end
(`exists_step_eq_false`).
-/

set_option autoImplicit false

namespace Combinations
namespace IndexVector

variable {n : Nat} {v w : List Nat}

/-! ## The pivot -/

/-- A vector has no step exactly if each entry, with those after it, reaches up to `n`. -/
theorem successor?_eq_none_iff :
    successor? n v = none ↔ ∀ i (h : i < v.length), n ≤ v[i] + (v.length - i) := by
  induction v with
  | nil => exact iff_of_true rfl nofun
  | cons x tail ih =>
    have htail : successor? n (x :: tail) = none ↔
        n ≤ x + (tail.length + 1) ∧ successor? n tail = none := by
      rw [successor?_cons]
      cases successor? n tail <;> simp
    rw [htail, ih]
    constructor
    · rintro ⟨hx, hrest⟩ (_ | i) hi
      · exact hx
      · have := hrest i (Nat.lt_of_succ_lt_succ hi)
        simp only [List.getElem_cons_succ, List.length_cons]
        omega
    · intro h
      refine ⟨h 0 (Nat.succ_pos _), fun i hi ↦ ?_⟩
      have := h (i + 1) (Nat.succ_lt_succ hi)
      simp only [List.getElem_cons_succ, List.length_cons] at this
      omega

/-- **What a step does**: it raises the last entry that can grow, and those after it follow. -/
theorem of_successor?_eq_some (h : successor? n v = some w) :
    ∃ front x tail, v = front ++ x :: tail ∧ w = front ++ List.range' (x + 1) (tail.length + 1) ∧
      x + (tail.length + 1) < n ∧ successor? n tail = none := by
  induction v generalizing w with
  | nil => cases h
  | cons y rest ih =>
    rw [successor?_cons] at h
    cases hrest : successor? n rest with
    | some t =>
      rw [hrest] at h
      cases h
      obtain ⟨front, x, tail, rfl, rfl, hx, htail⟩ := ih hrest
      exact ⟨y :: front, x, tail, rfl, rfl, hx, htail⟩
    | none =>
      rw [hrest] at h
      obtain ⟨hy, hw⟩ := Option.ite_none_right_eq_some.mp h
      exact ⟨[], y, rest, rfl, (Option.some.inj hw).symm, hy, hrest⟩

/-- `w` is `v` with the entry at place `pivot` raised, and the entries after it following. -/
structure Raises (n : Nat) (v w : List Nat) (pivot : Nat) : Prop where
  lt_length : pivot < v.length
  /-- The pivot can grow, and no entry behind it can. -/
  can_grow : v[pivot] < n - v.length + pivot
  of_lt : ∀ i (hi : i < v.length), pivot < i → n - v.length + i ≤ v[i]
  take_eq : w.take pivot = v.take pivot
  drop_eq : w.drop pivot = List.range' (v[pivot] + 1) (v.length - pivot)
  below : ∀ x ∈ w.drop pivot, x < n
  lt : v < w

theorem raises_of_successor?_eq_some (hv : v.length ≤ n) (h : successor? n v = some w) :
    ∃ pivot, Raises n v w pivot := by
  obtain ⟨front, x, tail, rfl, rfl, hx, htail⟩ := of_successor?_eq_some h
  have hlength : (front ++ x :: tail).length = front.length + (tail.length + 1) := by
    rw [List.length_append, List.length_cons]
  have hlt : front.length < (front ++ x :: tail).length := by omega
  have hpivot : (front ++ x :: tail)[front.length] = x := by
    rw [List.getElem_append_right (Nat.le_refl _)]
    simp
  refine ⟨front.length, hlt, ?_, ?_, ?_, ?_, ?_, ?_⟩
  · omega
  · intro i hi hbehind
    obtain ⟨j, rfl⟩ : ∃ j, i = front.length + (j + 1) := ⟨i - front.length - 1, by omega⟩
    have hj : j < tail.length := by omega
    have hentry : (front ++ x :: tail)[front.length + (j + 1)] = tail[j] := by
      rw [List.getElem_append_right (by omega)]
      simp
    have := successor?_eq_none_iff.mp htail j hj
    omega
  · rw [List.take_left, List.take_left]
  · rw [List.drop_left, hpivot, hlength, Nat.add_sub_cancel_left]
  · rw [List.drop_left]
    intro y hy
    have := (List.mem_range'_1.mp hy).2
    omega
  · rw [List.range'_succ]
    exact List.append_left_lt (List.Lex.rel (Nat.lt_succ_self x))

/-! ## Steps in place -/

/-- A step in place fails exactly if no entry can grow. -/
theorem fst_step_eq_false_iff (hv : v.length ≤ n) :
    (step n v).1 = false ↔ ∀ i (h : i < v.length), n - v.length + i ≤ v[i] := by
  have hfails : (step n v).1 = false ↔ successor? n v = none := by
    rw [step]
    cases successor? n v <;> simp
  rw [hfails, successor?_eq_none_iff]
  refine forall₂_congr fun i hi ↦ ?_
  omega

theorem snd_step_of_false (h : (step n v).1 = false) : (step n v).2 = v := by
  cases hnext : successor? n v with
  | none => rw [step_of_none hnext]
  | some w =>
    rw [step_of_some hnext] at h
    cases h

/-- **A step that succeeds raises one entry**, and lets those behind it follow. -/
theorem exists_raises (hv : v.length ≤ n) (h : (step n v).1 = true) :
    ∃ pivot, Raises n v (step n v).2 pivot := by
  cases hnext : successor? n v with
  | none =>
    rw [step_of_none hnext] at h
    cases h
  | some w =>
    rw [step_of_some hnext]
    exact raises_of_successor?_eq_some hv hnext

/-- What a step leaves behind are old entries and entries below `n`. -/
theorem of_mem_step (hv : v.length ≤ n) : ∀ x ∈ (step n v).2, x ∈ v ∨ x < n := by
  intro x hx
  cases hmoved : (step n v).1 with
  | false =>
    rw [snd_step_of_false hmoved] at hx
    exact .inl hx
  | true =>
    obtain ⟨pivot, hraises⟩ := exists_raises hv hmoved
    rw [← List.take_append_drop pivot (step n v).2, hraises.take_eq] at hx
    rcases List.mem_append.mp hx with hfront | hback
    · exact .inl (List.mem_of_mem_take hfront)
    · exact .inr (hraises.below x hback)

/-- Entries that are within a bound, as `n` is, stay within it. -/
theorem lt_of_mem_after {bound : Nat} (hn : n ≤ bound) (hv : v.length ≤ n)
    (hbound : ∀ x ∈ v, x < bound) (steps : Nat) : ∀ x ∈ after n v steps, x < bound := by
  induction steps with
  | zero => exact hbound
  | succ steps ih =>
    rw [after_succ]
    intro x hx
    rcases of_mem_step (by rwa [length_after]) x hx with hold | hnew
    · exact ih x hold
    · omega

/-- **The steps from any vector end.** -/
theorem exists_step_eq_false (n : Nat) (v : List Nat) :
    ∃ steps ≤ slack n v, (step n (after n v steps)).1 = false := by
  induction hslack : slack n v using Nat.strong_induction_on generalizing v with
  | _ left ih =>
    cases h : successor? n v with
    | none => exact ⟨0, Nat.zero_le left, by rw [after, step_of_none h]⟩
    | some w =>
      have hless := slack_successor?_lt h
      obtain ⟨steps, hsteps, hfalse⟩ := ih (slack n w) (by omega) w rfl
      refine ⟨steps + 1, by omega, ?_⟩
      rwa [after, step_of_some h]

end IndexVector
end Combinations
