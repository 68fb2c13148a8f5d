import Combinations.Walk
import Combinations.Proofs.Config.Listing
import Combinations.Proofs.IndexVector.Successor

/-!
# Where a walk goes from a combination

`Walk.Move` lists the four things that a move of a walk can do, and `Walk.advance_move` says that
there are no others; statements about a move are proved from it by cases.

`Walk.next?` is what a move does to the vector that the walk stands on: the step within a size, and
behind the last vector of a size the first one of the next.  `Walk.next?_eq_getElem?` says that it
leads from each place of a configuration's listing to the next place, across the sizes and from the
empty combination as well.
-/

set_option autoImplicit false

namespace Combinations

open IndexVector

variable {n high : Nat} {extent : Extent} {hasEmpty : Bool}

/-- The vector after `v` among those below `n` of all sizes up to `high`. -/
def Walk.next? (n high : Nat) (v : List Nat) : Option (List Nat) :=
  match successor? n v with
  | some w => some w
  | none => if high < v.length + 1 then none else some (first (v.length + 1))

theorem Walk.next?_of_some {v w : List Nat} (h : successor? n v = some w) :
    Walk.next? n high v = some w := by
  rw [Walk.next?, h]

theorem Walk.next?_of_none {v : List Nat} (h : successor? n v = none) :
    Walk.next? n high v = if high < v.length + 1 then none else some (first (v.length + 1)) := by
  rw [Walk.next?, h]

/-! ## The ways to move -/

/-- What a move of `walk` can be: its result, and the walk after it. -/
inductive Walk.Move (walk : Walk) : Bool × Walk → Prop
  /-- Nothing is left to move to, and nothing was. -/
  | stay (h : walk.current = none) : Move walk (false, walk)
  /-- The vector has a successor. -/
  | step {c : Numbered} {w : List Nat} (h : walk.current = some c)
      (hw : successor? walk.nitems c.indices = some w) : Move walk (true, walk.moveTo c.number w)
  /-- The vector was the last of the last size. -/
  | finish {c : Numbered} (h : walk.current = some c)
      (hlast : successor? walk.nitems c.indices = none)
      (hsize : walk.sizeMax < c.indices.length + 1) :
      Move walk (false, { walk with current := none })
  /-- The vector was the last of its size, and there is a larger one. -/
  | grow {c : Numbered} (h : walk.current = some c)
      (hlast : successor? walk.nitems c.indices = none)
      (hsize : c.indices.length + 1 ≤ walk.sizeMax) :
      Move walk (true, walk.countSize.moveTo c.number (first (c.indices.length + 1)))

theorem Walk.advance_move (walk : Walk) : walk.Move walk.advance := by
  rw [Walk.advance]
  split
  · next h => exact .stay h
  · next c h =>
    split
    · next w hw => exact .step h hw
    · next hlast =>
      simp only
      split
      · next hsize => exact .finish h hlast hsize
      · next hsize => exact .grow h hlast (by omega)

namespace Walk.Move

variable {walk : Walk} {moved : Bool × Walk}

theorem nitems_eq (h : walk.Move moved) : moved.2.nitems = walk.nitems := by
  cases h <;> rfl

theorem sizeMax_eq (h : walk.Move moved) : moved.2.sizeMax = walk.sizeMax := by
  cases h <;> rfl

/-- A move has led somewhere exactly if there is a combination. -/
theorem fst_eq (h : walk.Move moved) : moved.1 = moved.2.current.isSome := by
  cases h with
  | stay h => rw [h]; rfl
  | step | finish | grow => rfl

/-- A move makes of the current vector what `next?` makes of it, and counts on. -/
theorem current_eq (h : walk.Move moved) :
    moved.2.current = walk.current.bind fun c ↦
      (next? walk.nitems walk.sizeMax c.indices).map fun w ↦ ⟨nextNumber c.number, w⟩ := by
  cases h with
  | stay h => rw [h, Option.bind_none]
  | step h hw => rw [h, Option.bind_some, next?_of_some hw]; rfl
  | finish h hlast hsize => rw [h, Option.bind_some, next?_of_none hlast, if_pos hsize]; rfl
  | grow h hlast hsize =>
    rw [h, Option.bind_some, next?_of_none hlast, if_neg (Nat.not_lt.mpr hsize)]
    rfl

end Walk.Move

/-! ## Moving through the listing -/

theorem head?_listingOfSizes {size : Nat} (h : size ≤ n) (width : Nat) :
    (listingOfSizes n size (width + 1)).head? = some (first size) := by
  rw [listingOfSizes_succ, List.head?_append, head?_listing h, Option.some_or]

/-- The last vector of a size, with what a move makes of it. -/
theorem Walk.next?_getLast_listing {size : Nat} (h : size ≤ n) :
    ∀ v ∈ (listing n size).getLast?,
      Walk.next? n high v = if high < size + 1 then none else some (first (size + 1)) := by
  intro v hv
  have hlen : v.length = size := (mem_listing.mp (List.mem_of_getLast? hv)).length_eq
  rw [Walk.next?_of_none (successor?_getLast_listing h v hv), hlen]

/-- A move leads from each vector of a row of sizes to the one behind it. -/
theorem isChain_listingOfSizes {size width : Nat} (hn : high ≤ n) (h : size + width = high + 1) :
    (listingOfSizes n size width).IsChain fun v w ↦ Walk.next? n high v = some w := by
  induction width generalizing size with
  | zero => exact List.isChain_nil
  | succ width ih =>
    rw [listingOfSizes_succ, List.isChain_append]
    refine ⟨(isChain_listing n size).imp fun _ _ ↦ Walk.next?_of_some, ih (by omega), ?_⟩
    intro v hv w hw
    rw [Walk.next?_getLast_listing (by omega) v hv]
    cases width with
    | zero => cases hw
    | succ width =>
      rw [head?_listingOfSizes (by omega)] at hw
      rw [if_neg (by omega)]
      exact hw

/-- Behind the last size there is nothing to move to. -/
theorem next?_getLast_listingOfSizes {size width : Nat} (hn : high ≤ n)
    (h : size + width = high + 1) :
    ∀ v ∈ (listingOfSizes n size width).getLast?, Walk.next? n high v = none := by
  induction width generalizing size with
  | zero => simp
  | succ width ih =>
    intro v hv
    rw [listingOfSizes_succ, List.getLast?_append] at hv
    cases hrest : (listingOfSizes n (size + 1) width).getLast? with
    | some w =>
      rw [hrest, Option.some_or] at hv
      exact ih (by omega) v (hrest.trans hv)
    | none =>
      rw [hrest, Option.none_or] at hv
      have hwidth : width = 0 := by
        cases width with
        | zero => rfl
        | succ width =>
          have hhead := head?_listingOfSizes (show size + 1 ≤ n by omega) width
          rw [List.getLast?_eq_none_iff.mp hrest] at hhead
          cases hhead
      rw [Walk.next?_getLast_listing (by omega) v hv, if_pos (by omega)]

/-- **A move leads from each place of the listing to the next.** -/
theorem Walk.next?_eq_getElem? (hn : extent.high ≤ n) (hempty : hasEmpty = true → extent.low = 0)
    {i : Nat} {v : List Nat} (hv : (extent.listing n hasEmpty)[i]? = some v) :
    Walk.next? n extent.high v = (extent.listing n hasEmpty)[i + 1]? := by
  obtain ⟨size, width, hlist, hend⟩ : ∃ size width,
      extent.listing n hasEmpty = listingOfSizes n size width ∧
        (size + width = extent.high + 1 ∨ width = 0) := by
    rw [Extent.listing_eq_sizes hempty]
    have := extent.first_add_width
    split
    · exact ⟨0, extent.high + 1, rfl, .inl (Nat.zero_add _)⟩
    · exact ⟨extent.first, extent.width, rfl, by rw [Extent.width] at *; omega⟩
  rw [hlist] at hv ⊢
  rcases hend with hend | rfl
  · exact eq_getElem?_succ_of_isChain (isChain_listingOfSizes hn hend)
      (next?_getLast_listingOfSizes hn hend) hv
  · simp at hv

end Combinations
