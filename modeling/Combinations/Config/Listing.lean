import Combinations.Config.Total
import Combinations.IndexVector.Listing

/-!
# All combinations of a configuration, in order

The index vectors of the combinations that a run over `n` items without a window visits: the empty
one where it is shown, then size by size the vectors of that size.  A walk stands on the elements of
this list in turn, and a window is a slice of it.
-/

set_option autoImplicit false

namespace Combinations

/-- The combinations of the sizes of `extent`, as index vectors. -/
def Extent.listing (extent : Extent) (n : Nat) (hasEmpty : Bool) : List (List Nat) :=
  (if hasEmpty then [[]] else []) ++
    (List.range' extent.first extent.width).flatMap (IndexVector.listing n)

end Combinations
