import Combinations.Config.Listing
import Combinations.Proofs.IndexVector.Listing
import Mathlib.Data.List.Shortlex
import Mathlib.Data.List.Sort

/-!
# What the listing of a configuration holds

`Config.Lists config n all` says that `all` is the list of the combinations that a configuration
describes for `n` items: it holds every one of them and nothing else, by length and then
lexicographically.  That is a property of `all` which does not mention how `all` came about.  There
is one such list (`Config.Lists.unique`), and it is `Extent.listing` (`Config.lists_listing`).

The listing puts the sizes one behind the other.  The empty combination fits in as size 0
(`listing_eq_sizes`), since it is the only vector of that size; so most statements are about
`listingOfSizes n size width`, the vectors of the `width` sizes from `size` on.
-/

set_option autoImplicit false

namespace Combinations

variable {config : Config} {extent : Extent} {n : Nat} {hasEmpty : Bool}

/-! ## The sizes of a configuration -/

theorem SizeRange.of_resolve_eq_ok {r : SizeRange} (h : r.resolve n = .ok extent) :
    extent.low = r.min.toNat ∧ extent.high = (r.max.elim n UInt32.toNat) ∧
      extent.low ≤ extent.high ∧ extent.high ≤ n := by
  rw [SizeRange.resolve] at h
  cases hmax : r.max <;> simp only [hmax] at h <;> split at h <;> cases h <;>
    simp only [Option.elim_none, Option.elim_some, true_and] <;> omega

theorem Config.resolve_of_extent_eq_ok (h : config.extent n = .ok extent) :
    config.sizes.resolve n = .ok extent := by
  rw [Config.extent] at h
  split at h
  · cases h
  · exact h

theorem Config.high_le (h : config.extent n = .ok extent) : extent.high ≤ n :=
  (SizeRange.of_resolve_eq_ok (Config.resolve_of_extent_eq_ok h)).2.2.2

theorem Config.visitsEmpty_iff :
    config.visitsEmpty extent = true ↔ extent.low = 0 ∧ config.showEmpty = true := by
  rw [Config.visitsEmpty, Bool.and_eq_true, beq_iff_eq]

theorem Extent.first_add_width (extent : Extent) :
    extent.first + extent.width = max extent.first (extent.high + 1) := by
  rw [Extent.width]
  omega

/-! ## Sizes one behind the other -/

/-- The vectors of the `width` sizes from `size` on, smallest size first. -/
def listingOfSizes (n size width : Nat) : List (List Nat) :=
  (List.range' size width).flatMap (IndexVector.listing n)

@[simp] theorem listingOfSizes_zero (n size : Nat) : listingOfSizes n size 0 = [] := rfl

theorem listingOfSizes_succ (n size width : Nat) :
    listingOfSizes n size (width + 1) =
      IndexVector.listing n size ++ listingOfSizes n (size + 1) width := rfl

theorem mem_listingOfSizes {size width : Nat} {v : List Nat} :
    v ∈ listingOfSizes n size width ↔
      IndexVector.IsChoice n v.length v ∧ size ≤ v.length ∧ v.length < size + width := by
  simp only [listingOfSizes, List.mem_flatMap, IndexVector.mem_listing, List.mem_range'_1]
  constructor
  · rintro ⟨k, hk, hv⟩
    obtain rfl := hv.length_eq
    exact ⟨hv, hk⟩
  · rintro ⟨hv, hk⟩
    exact ⟨v.length, hk, hv⟩

theorem pairwise_listingOfSizes (n size width : Nat) :
    (listingOfSizes n size width).Pairwise (List.Shortlex (· < ·)) := by
  induction width generalizing size with
  | zero => exact List.Pairwise.nil
  | succ width ih =>
    rw [listingOfSizes_succ, List.pairwise_append]
    refine ⟨?_, ih (size + 1), ?_⟩
    · refine (IndexVector.pairwise_listing n size).imp_of_mem fun hv hw hlt ↦ ?_
      rw [IndexVector.mem_listing] at hv hw
      exact .of_lex (hv.length_eq.trans hw.length_eq.symm) hlt
    · intro v hv w hw
      have hlen := (IndexVector.mem_listing.mp hv).length_eq
      have hsize := (mem_listingOfSizes.mp hw).2.1
      exact .of_length_lt (by omega)

/-! ## The listing of a configuration -/

/-- With the empty combination, the listing begins at size 0. -/
theorem Extent.listing_eq_sizes (h : hasEmpty = true → extent.low = 0) :
    extent.listing n hasEmpty =
      if hasEmpty then listingOfSizes n 0 (extent.high + 1)
      else listingOfSizes n extent.first extent.width := by
  cases hasEmpty with
  | false => rfl
  | true =>
    have hfirst : extent.first = 1 := by rw [Extent.first, h rfl]; rfl
    rw [Extent.listing, Extent.width, hfirst, if_pos rfl, if_pos rfl, listingOfSizes_succ,
      Nat.add_sub_cancel]
    cases n <;> rfl

/-- `v` is one of the combinations that a run over `n` items without a window visits: it chooses
some of the positions, as many as a size of the range, and none of them only if the empty
combination is shown. -/
structure Config.Describes (config : Config) (n : Nat) (extent : Extent) (v : List Nat) : Prop where
  choice : IndexVector.IsChoice n v.length v
  low_le : extent.low ≤ v.length
  le_high : v.length ≤ extent.high
  showEmpty : v = [] → config.showEmpty = true

/-- `all` is the list of the combinations of a configuration, by length and then
lexicographically. -/
structure Config.Lists (config : Config) (n : Nat) (extent : Extent) (all : List (List Nat)) :
    Prop where
  mem_iff : ∀ v, v ∈ all ↔ config.Describes n extent v
  sorted : all.Pairwise (List.Shortlex (· < ·))

theorem Config.Lists.unique {all other : List (List Nat)} (h : config.Lists n extent all)
    (h' : config.Lists n extent other) : all = other :=
  h.sorted.eq_of_mem_iff h'.sorted fun v ↦ (h.mem_iff v).trans (h'.mem_iff v).symm

theorem Config.mem_listing {v : List Nat} :
    v ∈ extent.listing n (config.visitsEmpty extent) ↔ config.Describes n extent v := by
  rw [Extent.listing_eq_sizes fun h ↦ (Config.visitsEmpty_iff.mp h).1]
  by_cases hempty : config.visitsEmpty extent = true
  · obtain ⟨hlow, hshow⟩ := Config.visitsEmpty_iff.mp hempty
    rw [if_pos hempty, mem_listingOfSizes]
    constructor
    · rintro ⟨hv, -, hlen⟩
      exact ⟨hv, by omega, by omega, fun _ ↦ hshow⟩
    · rintro ⟨hv, -, hlen, -⟩
      exact ⟨hv, Nat.zero_le _, by omega⟩
  · rw [if_neg hempty, mem_listingOfSizes, Extent.first_add_width, Extent.first]
    constructor
    · rintro ⟨hv, hmin, hlen⟩
      refine ⟨hv, by omega, by omega, ?_⟩
      rintro rfl
      simp at hmin
    · rintro ⟨hv, hlow, hhigh, hshow⟩
      -- an empty vector of a run from size 0 would have to be shown
      have hpos : 0 < v.length := by
        refine Nat.pos_of_ne_zero fun hzero ↦ hempty ?_
        exact Config.visitsEmpty_iff.mpr
          ⟨by omega, hshow (List.eq_nil_of_length_eq_zero hzero)⟩
      exact ⟨hv, by omega, by omega⟩

/-- **The listing of a configuration lists its combinations.** -/
theorem Config.lists_listing (config : Config) (n : Nat) (extent : Extent) :
    config.Lists n extent (extent.listing n (config.visitsEmpty extent)) where
  mem_iff _ := Config.mem_listing
  sorted := by
    rw [Extent.listing_eq_sizes fun h ↦ (Config.visitsEmpty_iff.mp h).1]
    split <;> exact pairwise_listingOfSizes _ _ _

end Combinations
