import Combinations.IndexVector.Unrank
import Combinations.Proofs.Binomial
import Combinations.Proofs.IndexVector.Listing
import Combinations.Proofs.Sorted

/-!
# Unranking finds the vector at its place in the listing

`unrank_eq_getElem?`: for every rank that is representable, `IndexVector.unrank n k rank` is the
element number `rank` of `IndexVector.listing n k`, and there is none exactly if the listing is too
short.  The blocks that unranking passes over are the runs of the listing with the same first entry,
so the induction is the one that the listing is built by.

Nothing is asked of the number of vectors, which may be far above `maxOrdinal`: a block whose size
is not representable is wider than any rank, which is what `Binomial.beyond?_eq` says.

`unrank_exact` says the same without the listing.  In a sorted list the place of an element is the
number of elements before it, so the vector that unranking finds is the one with `rank` vectors
before it, and it finds one exactly if `rank` is less than the number of vectors.  It says so for
unranking in place as well, which begins with a vector that may hold anything.
-/

set_option autoImplicit false

namespace Combinations
namespace IndexVector

/-- A vector picked behind nothing is the vector at its place among those that are left. -/
theorem pick_nil_eq_getElem? (n left k : Nat) {rank : Nat} (h : rank ≤ maxOrdinal) :
    pick n left k rank [] = (listingFrom n left k)[rank]? := by
  induction left generalizing k rank with
  | zero =>
    cases k with
    | zero => cases rank <;> simp [listingFrom]
    | succ k => simp [listingFrom]
  | succ left ih =>
    cases k with
    | zero => cases rank <;> simp [listingFrom]
    | succ k =>
      have hblock : ((listingFrom n left k).map ((n - (left + 1)) :: ·)).length = left.choose k := by
        rw [List.length_map, length_listingFrom]
      rw [pick_succ, listingFrom_succ]
      split
      · next hleft =>
        -- too few entries are left, and both parts of the listing are empty
        have hnil : (listingFrom n (left + 1) (k + 1)).length = 0 := by
          rw [length_listingFrom, Nat.choose_eq_zero_of_lt (by omega)]
        rw [← listingFrom_succ, List.eq_nil_of_length_eq_zero hnil, List.getElem?_nil]
      · rw [Binomial.beyond?_eq left k h]
        by_cases hrank : rank < left.choose k
        · rw [if_pos hrank, List.getElem?_append_left (by rw [hblock]; exact hrank),
            List.getElem?_map, pick_eq_map, ih k h]
          rfl
        · rw [if_neg hrank, List.getElem?_append_right (by rw [hblock]; omega), hblock]
          exact ih (k + 1) (by omega)

/-- **Unranking finds the vector at its place in the listing.** -/
theorem unrank_eq_getElem? (n k : Nat) {rank : Nat} (h : rank ≤ maxOrdinal) :
    unrank n k rank = (listing n k)[rank]? :=
  pick_nil_eq_getElem? n n k h

/-! ## The rank of a vector -/

variable {n k rank : Nat} {v : List Nat}

/-- The place of a vector in the listing is the number of vectors before it. -/
theorem encard_before_of_getElem? (h : (listing n k)[rank]? = some v) :
    {w | IsChoice n k w ∧ w < v}.encard = rank := by
  have hbefore := encard_rel_of_getElem? (pairwise_listing n k) h
  simpa only [mem_listing] using hbefore

/-- So a vector is at a place of the listing if and only if as many vectors come before it. -/
theorem getElem?_listing_eq_some_iff :
    (listing n k)[rank]? = some v ↔
      IsChoice n k v ∧ {w | IsChoice n k w ∧ w < v}.encard = rank := by
  constructor
  · intro h
    exact ⟨mem_listing.mp (List.mem_of_getElem? h), encard_before_of_getElem? h⟩
  · rintro ⟨hv, hbefore⟩
    obtain ⟨place, hplace⟩ := List.mem_iff_getElem?.mp (mem_listing.mpr hv)
    obtain rfl : place = rank := by
      rw [encard_before_of_getElem? hplace] at hbefore
      exact Nat.cast_injective hbefore
    exact hplace

/-- Unranking finds the only vector of the given rank. -/
theorem unrank_eq_some_iff_encard (h : rank ≤ maxOrdinal) :
    unrank n k rank = some v ↔
      IsChoice n k v ∧ {w | IsChoice n k w ∧ w < v}.encard = rank := by
  rw [unrank_eq_getElem? n k h]
  exact getElem?_listing_eq_some_iff

/-- There is a vector of the given rank exactly if the rank is less than the number of vectors. -/
theorem isSome_unrank_iff (h : rank ≤ maxOrdinal) :
    (unrank n k rank).isSome ↔ rank < n.choose k := by
  rw [unrank_eq_getElem? n k h, isSome_getElem?, length_listing]

/-- **Unranking finds the vector of the given rank, if there is one.**  It succeeds exactly if `rank`
is less than the number `C(n, k)` of vectors, however large that is, and what it finds is then the
only vector of `k` ascending entries below `n` that comes lexicographically after exactly `rank`
others.

Unranking in place does the same, whatever the vector held before. -/
theorem unrank_exact (n k : UInt32) (rank : UInt64) :
    ((unrank n.toNat k.toNat rank.toNat).isSome ↔ rank.toNat < n.toNat.choose k.toNat) ∧
      (∀ v, unrank n.toNat k.toNat rank.toNat = some v ↔
        IsChoice n.toNat k.toNat v ∧
          {w | IsChoice n.toNat k.toNat w ∧ w < v}.encard = rank.toNat) ∧
      ∀ out,
        ((unrankInto n.toNat k.toNat rank.toNat out).1 = true ↔
          rank.toNat < n.toNat.choose k.toNat) ∧
        ∀ v, unrankInto n.toNat k.toNat rank.toNat out = (true, v) ↔
          IsChoice n.toNat k.toNat v ∧
            {w | IsChoice n.toNat k.toNat w ∧ w < v}.encard = rank.toNat := by
  have hrank := toNat_le_maxOrdinal rank
  refine ⟨isSome_unrank_iff hrank, fun v ↦ unrank_eq_some_iff_encard hrank, fun out ↦ ⟨?_, ?_⟩⟩
  · rw [← isSome_unrank]
    exact isSome_unrank_iff hrank
  · intro v
    rw [← unrank_eq_some_iff]
    exact unrank_eq_some_iff_encard hrank

end IndexVector
end Combinations
