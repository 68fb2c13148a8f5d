import Combinations.Proofs.IndexVector.Pivot
import Combinations.Proofs.Words.Calculation
import Combinations.Words.Walk
import Mathlib.Data.List.Induction

/-!
# The step of a vector on words

On words the step is made in place, entry by entry, and on vectors of 32-bit words that are no
longer than `n` it comes to `IndexVector.step`, whatever the entries are (`yields_step`).  An entry
is only raised below `n`, and those that follow it stay below `n` as well, so none of them wraps
around.

The loops go through a vector by places.  In the proofs the vector is split at the place, into the
entries in front of it and those behind.
-/

set_option autoImplicit false

namespace Combinations
namespace Words

open IndexVector (raise? after Raises)

variable {n : Nat} {v : List Nat}

theorem getD_append_cons (front : List Nat) (x : Nat) (rest : List Nat) :
    (front ++ x :: rest).getD front.length 0 = x := by
  rw [List.getD_eq_getElem?_getD, List.getElem?_append_right (Nat.le_refl _), Nat.sub_self]
  rfl

theorem set_append_cons (front : List Nat) (x y : Nat) (rest : List Nat) :
    (front ++ x :: rest).set front.length y = front ++ y :: rest := by
  rw [List.set_append_right _ _ (Nat.le_refl _), Nat.sub_self, List.set_cons_zero]

/-- The entries behind a place follow the one at it. -/
theorem yields_follow (front : List Nat) {x : Nat} {rest : List Nat}
    (h : x + rest.length < 2 ^ 32) :
    (follow rest.length front.length (front ++ x :: rest)).Yields
      (front ++ List.range' x (rest.length + 1)) := by
  induction rest generalizing front x with
  | nil => exact .pure _
  | cons y rest ih =>
    rw [List.length_cons] at h
    -- the entry that has been given its value joins those in front
    have hset := set_append_cons (front ++ [x]) y (x + 1) rest
    have hrest := ih (front ++ [x]) (x := x + 1) (by omega)
    simp only [List.length_append, List.length_singleton, List.append_assoc,
      List.singleton_append] at hset hrest
    rw [List.length_cons, follow, getD_append_cons, List.range'_succ]
    refine .bind (yields_add (by omega)) ?_
    rw [hset]
    exact hrest

/-- From the back of a vector to its front, the first entry that can grow is raised. -/
theorem yields_raise (hn : n < 2 ^ 32) (front rest : List Nat) (hv : (front ++ rest).length ≤ n) :
    (raise (n - (front ++ rest).length) front.length (front ++ rest)).Yields
      (match raise? n rest.length front.reverse with
        | some w => (true, w)
        | none => (false, front ++ rest)) := by
  induction front using List.reverseRecOn generalizing rest with
  | nil => exact .pure _
  | append_singleton front x ih =>
    have hassoc : front ++ [x] ++ rest = front ++ x :: rest := by simp
    have hlength : (front ++ x :: rest).length = front.length + (rest.length + 1) := by
      rw [List.length_append, List.length_cons]
    rw [hassoc] at hv ⊢
    rw [show (front ++ [x]).length = front.length + 1 from List.length_append, raise,
      getD_append_cons, truncate_of_lt (by omega), List.reverse_append]
    refine .bind (yields_add (by omega)) ?_
    simp only [List.reverse_singleton, List.singleton_append, raise?]
    by_cases hx : x + (rest.length + 1) < n
    · have hcount : front.length + (rest.length + 1) - (front.length + 1) = rest.length := by omega
      rw [if_pos (by omega), if_pos hx, List.reverse_reverse, hlength, hcount]
      refine .bind (yields_add (by omega)) ?_
      rw [set_append_cons]
      exact .bind (yields_follow front (by omega)) (.pure _)
    · rw [if_neg (by omega), if_neg hx]
      exact ih (x :: rest) hv

/-- **The step on words**, of any vector that is no longer than `n`. -/
theorem yields_step (hn : n < 2 ^ 32) (hv : v.length ≤ n) :
    (step n v).Yields (IndexVector.step n v) := by
  rw [step, truncate_of_lt (by omega)]
  refine .bind (yields_sub hn hv) ?_
  have hraise := yields_raise hn v [] (by rwa [List.append_nil])
  rw [List.append_nil] at hraise
  exact hraise

/-! ## Steps from any vector of words -/

/-- What a step of `v` does: it stays within words, and either raises an entry or fails. -/
structure StepsSafely (n : Nat) (v : List Nat) : Prop where
  words : ∀ x ∈ v, x < 2 ^ 32
  yields : (step n v).Yields (IndexVector.step n v)
  /-- A step that succeeds raises one entry below `n`, lets those behind it follow, keeps those in
  front of it, and makes the vector lexicographically larger. -/
  raises : (IndexVector.step n v).1 = true →
    ∃ pivot, Raises n v (IndexVector.step n v).2 pivot
  /-- A step fails exactly if no entry can grow. -/
  fails_iff : (IndexVector.step n v).1 = false ↔
    ∀ i (h : i < v.length), n - v.length + i ≤ v[i]
  unchanged : (IndexVector.step n v).1 = false → (IndexVector.step n v).2 = v

theorem stepsSafely (hn : n < 2 ^ 32) (hv : v.length ≤ n) (hwords : ∀ x ∈ v, x < 2 ^ 32) :
    StepsSafely n v where
  words := hwords
  yields := yields_step hn hv
  raises := IndexVector.exists_raises hv
  fails_iff := IndexVector.fst_step_eq_false_iff hv
  unchanged := IndexVector.snd_step_of_false

/-- **Steps from any vector of words.**  Take a vector of 32-bit words that is no longer than `n`,
with entries in any order and of any size.  Its steps end, and wherever they lead, the length is the
same and the next step is safe. -/
theorem steps_of_any_vector (n : UInt32) (v : List UInt32) (hv : v.length ≤ n.toNat) :
    (∃ steps, (IndexVector.step n.toNat (after n.toNat (v.map UInt32.toNat) steps)).1 = false) ∧
      ∀ steps, (after n.toNat (v.map UInt32.toNat) steps).length = v.length ∧
        StepsSafely n.toNat (after n.toNat (v.map UInt32.toNat) steps) := by
  have hn : n.toNat < 2 ^ 32 := n.toNat_lt
  have hmap : (v.map UInt32.toNat).length = v.length := List.length_map ..
  have hstart : (v.map UInt32.toNat).length ≤ n.toNat := hmap.trans_le hv
  have hwords : ∀ x ∈ v.map UInt32.toNat, x < 2 ^ 32 :=
    List.forall_mem_map.mpr fun x _ ↦ x.toNat_lt
  obtain ⟨steps, -, hfalse⟩ := IndexVector.exists_step_eq_false n.toNat (v.map UInt32.toNat)
  refine ⟨⟨steps, hfalse⟩, fun steps ↦ ?_⟩
  have hlength := IndexVector.length_after n.toNat (v.map UInt32.toNat) steps
  exact ⟨hlength.trans hmap, stepsSafely hn (hlength.trans_le hstart)
    (IndexVector.lt_of_mem_after hn.le hstart hwords steps)⟩

/-- The largest word stays in front, the last entry is overwritten, and the fourth step fails. -/
theorem steps_of_any_vector_of_large :
    ([4294967295, 0, 9] : List UInt32).length ≤ (4 : UInt32).toNat ∧
      after 4 [4294967295, 0, 9] 3 = [4294967295, 2, 3] ∧
      (step 4 [4294967295, 2, 3]).Yields (false, [4294967295, 2, 3]) ∧
      ∃ pivot, Raises 4 [4294967295, 0, 9] [4294967295, 1, 2] pivot := by
  have hv : ([4294967295, 0, 9] : List UInt32).length ≤ (4 : UInt32).toNat := by decide
  obtain ⟨-, hsteps⟩ := steps_of_any_vector 4 [4294967295, 0, 9] hv
  exact ⟨hv, rfl, (hsteps 3).2.yields, (hsteps 0).2.raises rfl⟩

end Words
end Combinations
