import Combinations.Error

/-!
# Ranges of combination sizes

A `SizeRange` says how many items a combination may hold: from `min` up to `max`, where an unset
`max` stands for "as many as there are items".  That a range is not inverted is part of the type, so
a range taken from a configuration can fail against an item set in one way only: by reaching past it
(`SizeRange.resolve`).
-/

set_option autoImplicit false

namespace Combinations

/-- The sizes `min..=max`; an unset maximum means "up to the number of items". -/
structure SizeRange where
  min : UInt32
  max : Option UInt32
  min_le_max : ∀ m ∈ max, min ≤ m
  deriving DecidableEq

namespace SizeRange

/-- The range `min..=max`, unless it is inverted. -/
def new (min : UInt32) (max : Option UInt32) : Except Error SizeRange :=
  match max with
  | none => .ok ⟨min, none, by simp⟩
  | some m =>
    if h : min ≤ m then .ok ⟨min, some m, by simpa using h⟩
    else .error (.invalidRange min.toNat m.toNat none)

/-- Exactly `k` items. -/
def exactly (k : UInt32) : SizeRange := ⟨k, some k, by simp⟩

/-- Every non-empty combination. -/
def default : SizeRange := ⟨1, none, by simp⟩

/-- A range that is in hand is not inverted. -/
theorem new_self (r : SizeRange) : new r.min r.max = .ok r := by
  obtain ⟨min, max, h⟩ := r
  cases max with
  | none => rfl
  | some m => simp [new, show min ≤ m from h m rfl]

end SizeRange

/-- The sizes a run over a known number of items goes through: `low`, …, `high`. -/
structure Extent where
  low : Nat
  high : Nat
  deriving DecidableEq, Repr

/-- The sizes of `r` for `n` items, or the reason why they do not fit. -/
def SizeRange.resolve (r : SizeRange) (n : Nat) : Except Error Extent :=
  let high := match r.max with
    | some m => m.toNat
    | none => n
  if high < r.min.toNat ∨ n < high then .error (.invalidRange r.min.toNat high (some n))
  else .ok ⟨r.min.toNat, high⟩

end Combinations
