import Combinations.Walk
import Combinations.Proofs.Config.Listing
import Combinations.Proofs.IndexVector.Unrank

/-!
# Where a walk starts

A walk is placed by passing over whole sizes and unranking within one.  `locateFrom_eq` says that
this finds the element of the configuration's listing at the ordinal asked for, or else how far the
ordinal is behind the listing.  It holds for every representable ordinal, whatever the sizes hold.
-/

set_option autoImplicit false

namespace Combinations

variable {n : Nat} {extent : Extent} {hasEmpty : Bool}

/-- Where an ordinal falls in a list of vectors. -/
def Landing.inList (all : List (List Nat)) (ordinal : Nat) : Landing :=
  match all[ordinal]? with
  | some indices => .found indices
  | none => .past (ordinal - all.length)

theorem Landing.inList_append_left {front : List (List Nat)} (rest : List (List Nat)) {ordinal : Nat}
    (h : ordinal < front.length) : inList (front ++ rest) ordinal = inList front ordinal := by
  rw [inList, inList, List.getElem?_append_left h, List.getElem?_eq_getElem h]

theorem Landing.inList_append_right {front : List (List Nat)} (rest : List (List Nat))
    {ordinal : Nat} (h : front.length ≤ ordinal) :
    inList (front ++ rest) ordinal = inList rest (ordinal - front.length) := by
  rw [inList, inList, List.getElem?_append_right h, List.length_append, Nat.sub_add_eq]

/-- Of an ordinal behind the list, no more is left than the ordinal. -/
theorem Landing.rest_le_of_inList {all : List (List Nat)} {ordinal rest : Nat}
    (h : inList all ordinal = .past rest) : rest ≤ ordinal := by
  rw [inList] at h
  cases hget : all[ordinal]? with
  | some v =>
    rw [hget] at h
    cases h
  | none =>
    rw [hget] at h
    cases h
    exact Nat.sub_le ordinal all.length

/-- Passing over whole sizes and unranking within one finds the vector at its place. -/
theorem locate_eq (n width size : Nat) {rank : Nat} (h : rank ≤ maxOrdinal) :
    locate n width size rank = .inList (listingOfSizes n size width) rank := by
  induction width generalizing size rank with
  | zero => simp [locate, Landing.inList]
  | succ width ih =>
    have hblock := IndexVector.length_listing n size
    rw [locate, listingOfSizes_succ, Binomial.beyond?_eq n size h]
    by_cases hrank : rank < n.choose size
    · rw [if_pos hrank, Landing.inList_append_left _ (by rw [hblock]; exact hrank),
        IndexVector.unrank_eq_getElem? n size h, Landing.inList,
        List.getElem?_eq_getElem (by rw [hblock]; exact hrank)]
    · rw [if_neg hrank, Landing.inList_append_right _ (by rw [hblock]; omega), hblock]
      exact ih (size + 1) (by omega)

/-- **A walk is placed on the element of the listing at its ordinal.** -/
theorem locateFrom_eq (n : Nat) (extent : Extent) (hasEmpty : Bool) {start : Nat}
    (h : start ≤ maxOrdinal) :
    locateFrom n extent hasEmpty start = .inList (extent.listing n hasEmpty) start := by
  rw [locateFrom, Extent.listing]
  cases hasEmpty with
  | false => exact locate_eq n extent.width extent.first h
  | true =>
    cases start with
    | zero => rfl
    | succ start =>
      rw [if_pos rfl, Landing.inList_append_right _ (by simp)]
      exact locate_eq n extent.width extent.first (by omega)

end Combinations
