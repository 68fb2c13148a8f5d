/-!
# Classes of characters

A class of characters is given by the ranges of its code points, in ascending order.  The order is
part of the type: membership is decided from the front, and `CharClass.contains` stops at the first
range that begins behind the character it is asked about.  `contains_iff` says that nothing is missed
that way.
-/

set_option autoImplicit false

namespace Combinations

/-- Whether ranges of code points, each given by its first and its last one, are in ascending order
from `low` on and do not overlap. -/
def ascendFrom (low : Nat) : List (Nat × Nat) → Bool
  | [] => true
  | range :: rest =>
    decide (low ≤ range.1) && decide (range.1 ≤ range.2) && ascendFrom (range.2 + 1) rest

/-- A set of characters, as ascending ranges of code points. -/
structure CharClass where
  ranges : List (Nat × Nat)
  ascending : ascendFrom 0 ranges = true

namespace CharClass

/-- Whether a code point lies in one of the ranges, which ascend. -/
def covers (code : Nat) : List (Nat × Nat) → Bool
  | [] => false
  | range :: rest =>
    if code < range.1 then false else decide (code ≤ range.2) || covers code rest

/-- Whether a character belongs to the class. -/
def contains (chars : CharClass) (c : Char) : Bool := covers c.toNat chars.ranges

theorem le_of_ascendFrom {low : Nat} {ranges : List (Nat × Nat)}
    (h : ascendFrom low ranges = true) : ∀ range ∈ ranges, low ≤ range.1 := by
  induction ranges generalizing low with
  | nil => simp
  | cons range rest ih =>
    simp only [ascendFrom, Bool.and_eq_true, decide_eq_true_eq] at h
    intro r hr
    rcases List.mem_cons.1 hr with rfl | hr
    · exact h.1.1
    · have := ih h.2 r hr
      omega

theorem covers_iff {code low : Nat} {ranges : List (Nat × Nat)}
    (h : ascendFrom low ranges = true) :
    covers code ranges = true ↔ ∃ range ∈ ranges, range.1 ≤ code ∧ code ≤ range.2 := by
  induction ranges generalizing low with
  | nil => simp [covers]
  | cons range rest ih =>
    simp only [ascendFrom, Bool.and_eq_true, decide_eq_true_eq] at h
    simp only [covers, List.mem_cons, exists_eq_or_imp]
    split
    · next hlt =>
      -- all ranges from here on begin behind `code`
      have hrest := le_of_ascendFrom h.2
      simp only [Bool.false_eq_true, false_iff, not_or, not_exists, not_and]
      refine ⟨by omega, fun r hr _ => ?_⟩
      have := hrest r hr
      omega
    · next hle =>
      simp only [Bool.or_eq_true, decide_eq_true_eq, ih h.2, Nat.le_of_not_lt hle, true_and]

/-- **A class holds exactly the characters of its ranges.** -/
theorem contains_iff (chars : CharClass) (c : Char) :
    chars.contains c = true ↔ ∃ range ∈ chars.ranges, range.1 ≤ c.toNat ∧ c.toNat ≤ range.2 :=
  covers_iff chars.ascending

end CharClass
end Combinations
