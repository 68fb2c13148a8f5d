import Combinations.IndexVector.Listing
import Mathlib.Data.Nat.Choose.Basic

/-!
# What the listing of index vectors holds

`IndexVector.listing n k` is the reference for ranks, steps and walks, so this file says what it is
without its recursion: it holds exactly the ascending vectors of `k` entries below `n`
(`mem_listing`), it is in strict lexicographic order (`pairwise_listing`), and it has `C(n, k)`
elements (`length_listing`).  The first two determine it.

The statements about `listingFrom` are the same ones for the vectors that are taken from the last
`left` entries below `n`.  Its first and its last element are named as well
(`head?_listingFrom`, `getLast?_listingFrom`), because a step looks at the boundary between the
vectors that begin with an entry and those that do not.
-/

set_option autoImplicit false

namespace Combinations
namespace IndexVector

/-- `v` chooses `k` of `n` positions: it has `k` entries, ascending and below `n`. -/
structure IsChoice (n k : Nat) (v : List Nat) : Prop where
  length_eq : v.length = k
  ascending : v.Pairwise (· < ·)
  lt : ∀ x ∈ v, x < n

variable {n left k : Nat} {v : List Nat}

theorem IsChoice.nil (n : Nat) : IsChoice n 0 [] := ⟨rfl, .nil, by simp⟩

theorem isChoice_zero : IsChoice n 0 v ↔ v = [] :=
  ⟨fun h ↦ List.eq_nil_of_length_eq_zero h.length_eq, fun h ↦ h ▸ IsChoice.nil n⟩

theorem isChoice_cons {x : Nat} {tail : List Nat} :
    IsChoice n (k + 1) (x :: tail) ↔
      IsChoice n k tail ∧ x < n ∧ ∀ y ∈ tail, x < y := by
  constructor
  · rintro ⟨hlen, hasc, hlt⟩
    rw [List.pairwise_cons] at hasc
    exact ⟨⟨Nat.succ.inj hlen, hasc.2, fun y hy ↦ hlt y (List.mem_cons_of_mem x hy)⟩,
      hlt x List.mem_cons_self, hasc.1⟩
  · rintro ⟨⟨hlen, hasc, hlt⟩, hx, hfirst⟩
    exact ⟨congrArg (· + 1) hlen, List.pairwise_cons.mpr ⟨hfirst, hasc⟩,
      List.forall_mem_cons.mpr ⟨hx, hlt⟩⟩

/-! ## Members and order -/

theorem listingFrom_succ (n left k : Nat) :
    listingFrom n (left + 1) (k + 1) =
      (listingFrom n left k).map ((n - (left + 1)) :: ·) ++ listingFrom n left (k + 1) := rfl

theorem length_listingFrom (n left k : Nat) : (listingFrom n left k).length = left.choose k := by
  induction left generalizing k with
  | zero => cases k <;> simp [listingFrom]
  | succ left ih =>
    cases k with
    | zero => simp [listingFrom]
    | succ k =>
      rw [listingFrom_succ, List.length_append, List.length_map, ih, ih, Nat.choose_succ_succ]

theorem mem_listingFrom (h : left ≤ n) :
    v ∈ listingFrom n left k ↔ IsChoice n k v ∧ ∀ x ∈ v, n - left ≤ x := by
  induction left generalizing k v with
  | zero =>
    cases k with
    | zero => simp +contextual [listingFrom, isChoice_zero]
    | succ k =>
      cases v with
      | nil => simpa [listingFrom] using fun hv : IsChoice n (k + 1) [] ↦ by simpa using hv.length_eq
      | cons x tail =>
        -- an entry would have to be below `n` and at least `n`
        simp only [listingFrom, List.not_mem_nil, false_iff, not_and]
        intro hv hle
        have := hv.lt x List.mem_cons_self
        have := hle x List.mem_cons_self
        omega
  | succ left ih =>
    cases k with
    | zero => simp +contextual [listingFrom, isChoice_zero]
    | succ k =>
      rw [listingFrom_succ, List.mem_append, List.mem_map, ih (by omega)]
      constructor
      · rintro (⟨tail, htail, rfl⟩ | ⟨hv, hle⟩)
        · obtain ⟨hchoice, hle⟩ := (ih (by omega)).mp htail
          refine ⟨isChoice_cons.mpr ⟨hchoice, by omega, fun y hy ↦ ?_⟩, ?_⟩
          · have := hle y hy
            omega
          · refine List.forall_mem_cons.mpr ⟨Nat.le_refl _, fun y hy ↦ ?_⟩
            have := hle y hy
            omega
        · refine ⟨hv, fun x hx ↦ ?_⟩
          have := hle x hx
          omega
      · rintro ⟨hv, hle⟩
        cases v with
        | nil => exact absurd hv.length_eq (by simp)
        | cons x tail =>
          obtain ⟨htail, hx, hfirst⟩ := isChoice_cons.mp hv
          have hxle := hle x List.mem_cons_self
          rcases Nat.eq_or_lt_of_le hxle with heq | hlt
          · refine .inl ⟨tail, (ih (by omega)).mpr ⟨htail, fun y hy ↦ ?_⟩, by rw [heq]⟩
            have := hfirst y hy
            omega
          · refine .inr ⟨hv, List.forall_mem_cons.mpr ⟨by omega, fun y hy ↦ ?_⟩⟩
            have := hfirst y hy
            omega

theorem pairwise_listingFrom (h : left ≤ n) : (listingFrom n left k).Pairwise (· < ·) := by
  induction left generalizing k with
  | zero => cases k <;> simp [listingFrom]
  | succ left ih =>
    cases k with
    | zero => simp [listingFrom]
    | succ k =>
      rw [listingFrom_succ, List.pairwise_append, List.pairwise_map]
      refine ⟨?_, ih (by omega), ?_⟩
      · exact (ih (by omega)).imp fun hlt ↦ List.cons_lt_cons_self.mpr hlt
      · intro v hv w hw
        obtain ⟨tail, -, rfl⟩ := List.mem_map.mp hv
        obtain ⟨hchoice, hle⟩ := (mem_listingFrom (by omega)).mp hw
        cases w with
        | nil => exact absurd hchoice.length_eq (by simp)
        | cons y rest =>
          have := hle y List.mem_cons_self
          exact List.Lex.rel (by omega)

/-! ## The two ends -/

theorem range'_sub_succ {m : Nat} (h : m + 1 ≤ n) (k : Nat) :
    List.range' (n - (m + 1)) (k + 1) = (n - (m + 1)) :: List.range' (n - m) k := by
  rw [List.range'_succ, show n - (m + 1) + 1 = n - m by omega]

/-- The vectors begin with the consecutive one as far down as allowed. -/
theorem head?_listingFrom (h : left ≤ n) :
    (listingFrom n left k).head? =
      if k ≤ left then some (List.range' (n - left) k) else none := by
  induction left generalizing k with
  | zero => cases k <;> simp [listingFrom]
  | succ left ih =>
    cases k with
    | zero => simp [listingFrom]
    | succ k =>
      rw [listingFrom_succ, List.head?_append, List.head?_map, ih (by omega), ih (by omega)]
      by_cases hk : k ≤ left
      · rw [if_pos hk, if_pos (Nat.succ_le_succ hk), range'_sub_succ h]
        rfl
      · rw [if_neg hk, if_neg (by omega), if_neg (by omega)]
        rfl

/-- The vectors end with the consecutive one as far up as possible. -/
theorem getLast?_listingFrom (h : left ≤ n) :
    (listingFrom n left k).getLast? =
      if k ≤ left then some (List.range' (n - k) k) else none := by
  induction left generalizing k with
  | zero => cases k <;> simp [listingFrom]
  | succ left ih =>
    cases k with
    | zero => simp [listingFrom]
    | succ k =>
      rw [listingFrom_succ, List.getLast?_append, List.getLast?_map, ih (by omega), ih (by omega)]
      by_cases hk : k + 1 ≤ left
      · rw [if_pos hk, if_pos (show k + 1 ≤ left + 1 by omega)]
        rfl
      · rw [if_neg hk]
        by_cases hkeq : k = left
        · -- only one vector is left, which takes up all the entries
          subst hkeq
          rw [if_pos (Nat.le_refl k), if_pos (Nat.le_refl (k + 1)), range'_sub_succ h]
          rfl
        · rw [if_neg (show ¬k ≤ left by omega), if_neg (show ¬k + 1 ≤ left + 1 by omega)]
          rfl

/-! ## The vectors below `n` -/

/-- There are `C(n, k)` vectors. -/
theorem length_listing (n k : Nat) : (listing n k).length = n.choose k := length_listingFrom n n k

/-- **The listing holds exactly the vectors that choose `k` of `n` positions.** -/
theorem mem_listing : v ∈ listing n k ↔ IsChoice n k v := by
  rw [listing, mem_listingFrom (Nat.le_refl n)]
  simp

/-- **The listing is in strict lexicographic order.** -/
theorem pairwise_listing (n k : Nat) : (listing n k).Pairwise (· < ·) :=
  pairwise_listingFrom (Nat.le_refl n)

theorem head?_listing (h : k ≤ n) : (listing n k).head? = some (first k) := by
  rw [listing, head?_listingFrom (Nat.le_refl n), if_pos h, Nat.sub_self, first,
    List.range_eq_range']

theorem getLast?_listing (h : k ≤ n) : (listing n k).getLast? = some (List.range' (n - k) k) := by
  rw [listing, getLast?_listingFrom (Nat.le_refl n), if_pos h]

end IndexVector
end Combinations
