import Combinations.Proofs.Config.Listing
import Combinations.Proofs.Sorted

/-!
# Which combination comes next

`Config.Follows config n extent v w` says that `w` is the next combination after `v` among those that
a configuration describes, by length and then lexicographically, and `Config.IsLast` that none comes
after `v`.  Neither mentions a list.  In the listing of the configuration they are the element behind
another (`Config.follows_of_getElem?`) and the last one (`Config.isLast_of_getElem?`), because the
listing is sorted and holds every combination.
-/

set_option autoImplicit false

namespace Combinations

variable {config : Config} {extent : Extent} {n ordinal : Nat} {v w : List Nat}

/-- `w` comes next after `v` among the combinations of a configuration: it comes after `v`, and what
else comes after `v` comes after `w`. -/
structure Config.Follows (config : Config) (n : Nat) (extent : Extent) (v w : List Nat) : Prop where
  describes : config.Describes n extent w
  lt : List.Shortlex (· < ·) v w
  least : ∀ u, config.Describes n extent u → List.Shortlex (· < ·) v u →
    u = w ∨ List.Shortlex (· < ·) w u

/-- No combination of a configuration comes after `v`. -/
def Config.IsLast (config : Config) (n : Nat) (extent : Extent) (v : List Nat) : Prop :=
  ∀ u, config.Describes n extent u → ¬List.Shortlex (· < ·) v u

/-- **The element behind another is the next combination.** -/
theorem Config.follows_of_getElem?
    (hv : (extent.listing n (config.visitsEmpty extent))[ordinal]? = some v)
    (hw : (extent.listing n (config.visitsEmpty extent))[ordinal + 1]? = some w) :
    config.Follows n extent v w where
  describes := Config.mem_listing.mp (List.mem_of_getElem? hw)
  lt := rel_of_getElem?_of_lt (config.lists_listing n extent).sorted hv hw (Nat.lt_succ_self _)
  least _ hu := eq_or_rel_of_getElem?_succ (config.lists_listing n extent).sorted hv hw
    (Config.mem_listing.mpr hu)

/-- **No combination comes after the last element.** -/
theorem Config.isLast_of_getElem?
    (hv : (extent.listing n (config.visitsEmpty extent))[ordinal]? = some v)
    (hnone : (extent.listing n (config.visitsEmpty extent))[ordinal + 1]? = none) :
    config.IsLast n extent v := fun _ hu ↦
  not_rel_of_getElem?_succ_eq_none (config.lists_listing n extent).sorted hv hnone
    (Config.mem_listing.mpr hu)

/-- The empty combination is the first of all. -/
theorem Config.ordinal_eq_zero
    (hv : (extent.listing n (config.visitsEmpty extent))[ordinal]? = some []) : ordinal = 0 := by
  by_contra hne
  obtain ⟨hlength, -⟩ := List.getElem?_eq_some_iff.mp hv
  exact List.not_shortlex_nil_right (rel_of_getElem?_of_lt (config.lists_listing n extent).sorted
    (List.getElem?_eq_getElem (by omega)) hv (Nat.pos_of_ne_zero hne))

end Combinations
