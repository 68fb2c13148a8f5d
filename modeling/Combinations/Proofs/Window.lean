import Combinations.Config.Basic
import Combinations.Limits
import Mathlib.Algebra.Ring.Nat

/-!
# The slice of a window

`Window.slice` is the part of a list that a window selects: from its start on, at most as many
elements as its limit says, where a limit of 0 is no limit.  Said by ordinals, these are the elements
whose ordinal is at least the start and, if there is a limit, below the start and the limit together
(`Window.slice_eq_filter`).

`Window.Tiles` says of a list of windows that they follow each other without a gap and that none of
them is empty.  The slices of such windows put together are one slice (`Window.Tiles.flatMap_slice`).
-/

set_option autoImplicit false

namespace Combinations

theorem toNat_ofNat_of_le {x : Nat} (h : x ≤ maxOrdinal) : (UInt64.ofNat x).toNat = x := by
  rw [maxOrdinal] at h
  exact UInt64.toNat_ofNat_of_lt' (Nat.lt_succ_of_le h)

theorem toNat_add_of_le {x y : UInt64} (h : x.toNat + y.toNat ≤ maxOrdinal) :
    (x + y).toNat = x.toNat + y.toNat := by
  rw [maxOrdinal] at h
  rw [UInt64.toNat_add, Nat.mod_eq_of_lt (Nat.lt_succ_of_le h)]

namespace Window

variable {α β : Type}

/-- What a limit allows of a list of whose predecessors it has let `done` through; 0 is no limit. -/
def allow (limit done : Nat) (all : List α) : List α :=
  if limit = 0 then all else all.take (limit - done)

/-- The part of a list inside a window. -/
def slice (window : Window) (all : List α) : List α :=
  allow window.limit.toNat 0 (all.drop window.start.toNat)

variable {limit done : Nat}

theorem allow_nil (limit done : Nat) : allow limit done ([] : List α) = [] := by
  rw [allow, List.take_nil, ite_self]

theorem allow_cons (h : limit = 0 ∨ done < limit) (x : α) (rest : List α) :
    allow limit done (x :: rest) = x :: allow limit (done + 1) rest := by
  rw [allow, allow]
  by_cases hzero : limit = 0
  · rw [if_pos hzero, if_pos hzero]
  · rw [if_neg hzero, if_neg hzero, show limit - done = limit - (done + 1) + 1 by omega,
      List.take_succ_cons]

/-- A limit that is used up allows nothing more. -/
theorem allow_of_eq (h : limit ≠ 0) (all : List α) : allow limit limit all = [] := by
  rw [allow, if_neg h, Nat.sub_self, List.take_zero]

theorem allow_prefix (limit done : Nat) (all : List α) : allow limit done all <+: all := by
  rw [allow]
  split
  · exact List.prefix_rfl
  · exact List.take_prefix _ _

theorem allow_map (limit done : Nat) (f : α → β) (all : List α) :
    allow limit done (all.map f) = (allow limit done all).map f := by
  rw [allow, allow]
  split
  · rfl
  · rw [List.map_take]

theorem slice_map (window : Window) (f : α → β) (all : List α) :
    window.slice (all.map f) = (window.slice all).map f := by
  rw [slice, slice, ← List.map_drop, allow_map]

/-- A window with a limit selects as many elements as the limit, as far as there are any. -/
theorem slice_of_limit_pos {window : Window} (h : 0 < window.limit.toNat) (all : List α) :
    window.slice all = (all.drop window.start.toNat).take window.limit.toNat := by
  rw [slice, allow, if_neg (Nat.pos_iff_ne_zero.mp h), Nat.sub_zero]

/-- A window without a limit selects all that it does not pass over. -/
theorem slice_of_limit_eq_zero {window : Window} (h : window.limit.toNat = 0) (all : List α) :
    window.slice all = all.drop window.start.toNat := by
  rw [slice, allow, if_pos h]

theorem slice_eq_ite (window : Window) (all : List α) :
    window.slice all =
      if window.limit = 0 then all.drop window.start.toNat
      else (all.drop window.start.toNat).take window.limit.toNat := by
  split
  · next h => exact slice_of_limit_eq_zero (congrArg UInt64.toNat h) all
  · next h =>
    exact slice_of_limit_pos (Nat.pos_of_ne_zero fun hzero ↦ h (UInt64.toNat.inj hzero)) all

/-! ## Slices by ordinals -/

/-- Of a list whose first element has the ordinal `ordinal`, the elements inside a window. -/
theorem allow_drop_eq_filter (start limit ordinal : Nat) (all : List α) :
    allow limit (ordinal - start) (all.drop (start - ordinal)) =
      ((all.zipIdx ordinal).filter fun x ↦
        start ≤ x.2 ∧ (limit = 0 ∨ x.2 < start + limit)).map (·.1) := by
  induction all generalizing ordinal with
  | nil => rw [List.drop_nil, allow_nil, List.zipIdx_nil, List.filter_nil, List.map_nil]
  | cons x rest ih =>
    rw [List.zipIdx_cons]
    rcases Nat.lt_or_ge ordinal start with hbefore | hfrom
    · -- `x` is passed over
      have hout : ¬(start ≤ ordinal ∧ (limit = 0 ∨ ordinal < start + limit)) := by omega
      have hnext := ih (ordinal + 1)
      rw [show ordinal + 1 - start = ordinal - start by omega] at hnext
      rw [List.filter_cons_of_neg (by simpa using hout), ← hnext,
        show start - ordinal = start - (ordinal + 1) + 1 by omega, List.drop_succ_cons]
    · have hnext := ih (ordinal + 1)
      rw [show start - (ordinal + 1) = 0 by omega, List.drop_zero] at hnext
      rw [show start - ordinal = 0 by omega, List.drop_zero]
      by_cases hin : limit = 0 ∨ ordinal - start < limit
      · have hwindow : start ≤ ordinal ∧ (limit = 0 ∨ ordinal < start + limit) := by omega
        rw [List.filter_cons_of_pos (by simpa using hwindow), List.map_cons, ← hnext,
          allow_cons hin, Nat.succ_sub hfrom]
      · have hout : ¬(start ≤ ordinal ∧ (limit = 0 ∨ ordinal < start + limit)) := by omega
        rw [List.filter_cons_of_neg (by simpa using hout), ← hnext, allow, allow,
          if_neg (by omega), if_neg (by omega), show limit - (ordinal - start) = 0 by omega,
          show limit - (ordinal + 1 - start) = 0 by omega, List.take_zero, List.take_zero]

/-- **A window selects the elements whose ordinals lie in it.** -/
theorem slice_eq_filter (window : Window) (all : List α) :
    window.slice all =
      (all.zipIdx.filter fun x ↦ window.start.toNat ≤ x.2 ∧
        (window.limit.toNat = 0 ∨ x.2 < window.start.toNat + window.limit.toNat)).map (·.1) := by
  have h := allow_drop_eq_filter window.start.toNat window.limit.toNat 0 all
  rwa [Nat.zero_sub, Nat.sub_zero] at h

/-! ## Windows one behind the other -/

/-- A window that is not empty, and the one that begins where it ends, make up one window. -/
theorem slice_append_slice {start first second : UInt64} (hfirst : 0 < first.toNat)
    (hstart : start.toNat + first.toNat ≤ maxOrdinal)
    (hsum : first.toNat + second.toNat ≤ maxOrdinal) (all : List α) :
    slice ⟨start, first⟩ all ++ slice ⟨start + first, second⟩ all =
      slice ⟨start, if second = 0 then 0 else first + second⟩ all := by
  rw [slice_of_limit_pos hfirst]
  by_cases hsecond : second = 0
  · rw [if_pos hsecond, hsecond, slice_of_limit_eq_zero rfl, slice_of_limit_eq_zero rfl,
      toNat_add_of_le hstart, ← List.drop_drop, List.take_append_drop]
  · have hpos : 0 < second.toNat := Nat.pos_of_ne_zero fun h ↦ hsecond (UInt64.toNat.inj h)
    have hboth : (first + second).toNat = first.toNat + second.toNat := toNat_add_of_le hsum
    rw [if_neg hsecond, slice_of_limit_pos hpos, slice_of_limit_pos (by rw [hboth]; omega),
      toNat_add_of_le hstart, hboth, List.take_add, List.drop_drop]

/-- The windows cover the ordinals from `start` up to `stop`, one behind the other, each of them at
least one. -/
inductive Tiles : (start : Nat) → List Window → (stop : Nat) → Prop
  | nil (start : Nat) : Tiles start [] start
  | cons {start stop : Nat} {window : Window} {rest : List Window}
      (hstart : window.start.toNat = start) (hlimit : 0 < window.limit.toNat)
      (hrest : Tiles (start + window.limit.toNat) rest stop) : Tiles start (window :: rest) stop

variable {start stop : Nat} {windows : List Window}

theorem Tiles.le (h : Tiles start windows stop) : start ≤ stop := by
  induction h with
  | nil => exact Nat.le_refl _
  | cons _ _ _ ih => omega

theorem Tiles.limit_pos (h : Tiles start windows stop) :
    ∀ window ∈ windows, 0 < window.limit.toNat := by
  induction h with
  | nil => simp
  | cons _ hlimit _ ih => exact List.forall_mem_cons.mpr ⟨hlimit, ih⟩

theorem Tiles.sum_limit (h : Tiles start windows stop) :
    (windows.map (·.limit.toNat)).sum = stop - start := by
  induction h with
  | nil => simp
  | cons _ _ hrest ih =>
    have := hrest.le
    rw [List.map_cons, List.sum_cons, ih]
    omega

/-- **The slices of windows without gaps make up one slice.** -/
theorem Tiles.flatMap_slice (h : Tiles start windows stop) (all : List α) :
    windows.flatMap (·.slice all) = (all.drop start).take (stop - start) := by
  induction h with
  | nil start => rw [Nat.sub_self, List.take_zero, List.flatMap_nil]
  | @cons start stop window rest hstart hlimit hrest ih =>
    have := hrest.le
    have hsplit : stop - start = window.limit.toNat + (stop - (start + window.limit.toNat)) := by
      omega
    rw [List.flatMap_cons, ih, slice_of_limit_pos hlimit, hstart, hsplit, List.take_add,
      List.drop_drop]

end Window
end Combinations
