import Combinations.Proofs.IndexVector.Listing
import Mathlib.Data.List.Chain

/-!
# A step goes to the next vector of the listing

`successor?_eq_getElem?`: from the vector at a place in `IndexVector.listing n k`, the step
`IndexVector.successor?` goes to the vector at the next place, and it fails at the last place only.

What has to be shown is local: the step leads from each element of the listing to the one behind it
(`isChain_listing`), and from the last one nowhere (`successor?_last`).  Where the first entry stays
the same the step acts on the tail alone.  Where it changes, the tail is the last of its length, so
the step raises the first entry, and the vector it then makes is the first of those that begin
with the raised entry.
-/

set_option autoImplicit false

namespace Combinations

/-- Where `f` leads from each element of a list to the one behind it and from the last one nowhere,
it leads from each place to the next. -/
theorem eq_getElem?_succ_of_isChain {α : Type} {f : α → Option α} {l : List α}
    (hchain : l.IsChain fun a b ↦ f a = some b) (hlast : ∀ a ∈ l.getLast?, f a = none)
    {i : Nat} {a : α} (h : l[i]? = some a) : f a = l[i + 1]? := by
  induction l generalizing i with
  | nil => simp at h
  | cons x rest ih =>
    rw [List.isChain_cons] at hchain
    cases rest with
    | nil =>
      cases i with
      | zero =>
        obtain rfl : x = a := by simpa using h
        exact hlast x (by simp)
      | succ i => simp at h
    | cons y rest =>
      cases i with
      | zero =>
        obtain rfl : x = a := by simpa using h
        exact hchain.1 y (by simp)
      | succ i => exact ih hchain.2 (by simpa using hlast) (by simpa using h)

namespace IndexVector

variable {n left k : Nat}

/-- The consecutive vector as far up as possible has no successor. -/
theorem successor?_last (h : k ≤ n) : successor? n (List.range' (n - k) k) = none := by
  induction k with
  | zero => rfl
  | succ k ih =>
    rw [range'_sub_succ h, successor?_cons, ih (by omega), List.length_range']
    exact if_neg (by omega)

/-- A step of the tail is a step of the vector. -/
theorem successor?_cons_of_some {x : Nat} {tail next : List Nat}
    (h : successor? n tail = some next) : successor? n (x :: tail) = some (x :: next) := by
  rw [successor?_cons, h]

theorem isChain_listingFrom (h : left ≤ n) :
    (listingFrom n left k).IsChain fun v w ↦ successor? n v = some w := by
  induction left generalizing k with
  | zero => cases k <;> simp [listingFrom]
  | succ left ih =>
    cases k with
    | zero => simp [listingFrom]
    | succ k =>
      rw [listingFrom_succ, List.isChain_append, List.isChain_map]
      refine ⟨(ih (by omega)).imp fun _ _ hstep ↦ successor?_cons_of_some hstep, ih (by omega), ?_⟩
      -- the boundary between the vectors that begin with an entry and those that do not
      intro v hv w hw
      rw [List.getLast?_map, getLast?_listingFrom (by omega)] at hv
      rw [head?_listingFrom (by omega)] at hw
      by_cases hk : k + 1 ≤ left
      · rw [if_pos (by omega)] at hv
        rw [if_pos hk] at hw
        cases hv
        cases hw
        rw [successor?_cons, successor?_last (by omega), List.length_range']
        simp only [show n - (left + 1) + (k + 1) < n by omega, if_true,
          show n - (left + 1) + 1 = n - left by omega]
      · rw [if_neg hk] at hw
        cases hw

/-- **A step leads from each vector of the listing to the one behind it.** -/
theorem isChain_listing (n k : Nat) :
    (listing n k).IsChain fun v w ↦ successor? n v = some w :=
  isChain_listingFrom (Nat.le_refl n)

theorem successor?_getLast_listing (h : k ≤ n) :
    ∀ v ∈ (listing n k).getLast?, successor? n v = none := by
  rw [getLast?_listing h]
  rintro v ⟨⟩
  exact successor?_last h

/-- **A step goes to the next place of the listing**, and fails at the last one. -/
theorem successor?_eq_getElem? (h : k ≤ n) {i : Nat} {v : List Nat}
    (hv : (listing n k)[i]? = some v) : successor? n v = (listing n k)[i + 1]? :=
  eq_getElem?_succ_of_isChain (isChain_listing n k) (successor?_getLast_listing h) hv

end IndexVector
end Combinations
