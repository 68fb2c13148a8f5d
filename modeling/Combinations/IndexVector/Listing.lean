import Combinations.IndexVector.Successor

/-!
# All index vectors, in order

The vectors of `k` entries below `n` as one list, in lexicographic order: first all that begin with
the smallest entry, then all that do not.  Nothing is computed from this list; it is what ranks,
steps and walks are measured against.
-/

set_option autoImplicit false

namespace Combinations
namespace IndexVector

/-- The ascending vectors of `k` entries taken from the last `left` entries below `n`. -/
def listingFrom (n : Nat) : (left k : Nat) → List (List Nat)
  | _, 0 => [[]]
  | 0, _ + 1 => []
  | left + 1, k + 1 =>
    (listingFrom n left k).map ((n - (left + 1)) :: ·) ++ listingFrom n left (k + 1)

/-- The ascending vectors of `k` entries below `n`, in lexicographic order. -/
def listing (n k : Nat) : List (List Nat) := listingFrom n n k

end IndexVector
end Combinations
