import Combinations.Proofs.Walk.Landing
import Combinations.Proofs.Walk.Step

/-!
# The position of a walk

`Walk.StandsAt` says where a walk stands in the listing of a configuration: on the combination with a
given ordinal, numbered accordingly, or behind the last one.  It is the one invariant that the
statements about walks go through.

* `Walk.exists_standsAt` — a walk of a configuration stands at the start of its window.
* `Walk.StandsAt.advance` — a move goes from each ordinal to the next.
* `Walk.StandsAt.trail_eq` — what a walk visits from where it stands is the rest of the listing.
-/

set_option autoImplicit false

namespace Combinations

variable {config : Config} {extent : Extent} {walk : Walk} {n ordinal : Nat} {hasEmpty : Bool}

theorem nextNumber_nextNumber (i : Nat) : nextNumber (nextNumber i) = nextNumber (i + 1) := by
  simp only [nextNumber]
  omega

/-- Vectors with their numbers, which count from 1 and stay at `maxOrdinal` once it is reached. -/
def numbered (all : List (List Nat)) : List Numbered :=
  all.mapIdx fun ordinal indices ↦ ⟨nextNumber ordinal, indices⟩

@[simp] theorem length_numbered (all : List (List Nat)) : (numbered all).length = all.length :=
  List.length_mapIdx

theorem getElem?_numbered (all : List (List Nat)) (i : Nat) :
    (numbered all)[i]? = all[i]?.map fun indices ↦ ⟨nextNumber i, indices⟩ :=
  List.getElem?_mapIdx

namespace Walk

/-! ## The position -/

/-- `walk` stands on the combination with ordinal `ordinal` of a run over `n` items, or behind the
last one if there is no such combination. -/
structure StandsAt (walk : Walk) (n : Nat) (extent : Extent) (hasEmpty : Bool) (ordinal : Nat) :
    Prop where
  nitems_eq : walk.nitems = n
  sizeMax_eq : walk.sizeMax = extent.high
  current_eq : walk.current = (numbered (extent.listing n hasEmpty))[ordinal]?

theorem ofConfig_eq (h : config.extent n = .ok extent) :
    Walk.ofConfig config n =
      .ok (ofLanding n extent config.window.start.toNat
        (.inList (extent.listing n (config.visitsEmpty extent)) config.window.start.toNat)) := by
  simp only [ofConfig, h, Except.map, locateFrom_eq n extent _ (toNat_le_maxOrdinal _)]

/-- **The walk of a configuration stands at the start of its window.** -/
theorem exists_standsAt (h : config.extent n = .ok extent) :
    ∃ walk, Walk.ofConfig config n = .ok walk ∧
      walk.StandsAt n extent (config.visitsEmpty extent) config.window.start.toNat := by
  refine ⟨_, ofConfig_eq h, ?_⟩
  rw [Landing.inList]
  split
  · next v hv => exact ⟨rfl, rfl, by rw [getElem?_numbered, hv]; rfl⟩
  · next hnone => exact ⟨rfl, rfl, by rw [getElem?_numbered, hnone]; rfl⟩

/-- **A move goes from each ordinal to the next.** -/
theorem StandsAt.advance (hn : extent.high ≤ n) (hempty : hasEmpty = true → extent.low = 0)
    (h : walk.StandsAt n extent hasEmpty ordinal) :
    walk.advance.2.StandsAt n extent hasEmpty (ordinal + 1) where
  nitems_eq := walk.advance_move.nitems_eq.trans h.nitems_eq
  sizeMax_eq := walk.advance_move.sizeMax_eq.trans h.sizeMax_eq
  current_eq := by
    rw [walk.advance_move.current_eq, h.nitems_eq, h.sizeMax_eq, h.current_eq, getElem?_numbered,
      getElem?_numbered]
    cases hv : (extent.listing n hasEmpty)[ordinal]? with
    | none =>
      rw [List.getElem?_eq_none_iff] at hv
      rw [List.getElem?_eq_none (by omega)]
      rfl
    | some v =>
      rw [Option.map_some, Option.bind_some, next?_eq_getElem? hn hempty hv]
      simp only [nextNumber_nextNumber]

theorem StandsAt.advanceAfter (hn : extent.high ≤ n) (hempty : hasEmpty = true → extent.low = 0)
    (h : walk.StandsAt n extent hasEmpty ordinal) (moved : Option Bool) (times : Nat) :
    (walk.advanceAfter moved times).2.StandsAt n extent hasEmpty (ordinal + times) := by
  induction times generalizing walk ordinal moved with
  | zero => exact h
  | succ times ih =>
    rw [Walk.advanceAfter, Nat.add_comm times, ← Nat.add_assoc]
    exact ih (h.advance hn hempty) _

/-- Several moves go on by as many ordinals. -/
theorem StandsAt.advanceBy (hn : extent.high ≤ n) (hempty : hasEmpty = true → extent.low = 0)
    (h : walk.StandsAt n extent hasEmpty ordinal) (times : Nat) :
    (walk.advanceBy times).2.StandsAt n extent hasEmpty (ordinal + times) :=
  h.advanceAfter hn hempty none times

/-! ## What a walk visits -/

/-- The combinations that a walk visits from where it stands on, until it has run out of them. -/
def trail (walk : Walk) : List Numbered :=
  match _h : walk.current with
  | none => []
  | some c => c :: walk.advance.2.trail
termination_by walk.remaining
decreasing_by exact walk.remaining_advance_lt _h

theorem trail_of_none (h : walk.current = none) : walk.trail = [] := by
  rw [trail]
  split
  · rfl
  · next hc =>
    rw [h] at hc
    cases hc

theorem trail_of_some {c : Numbered} (h : walk.current = some c) :
    walk.trail = c :: walk.advance.2.trail := by
  rw [trail]
  split
  · next hc =>
    rw [h] at hc
    cases hc
  · next c' hc =>
    rw [h] at hc
    cases hc
    rfl

/-- **A walk visits the rest of the listing from where it stands.** -/
theorem StandsAt.trail_eq (hn : extent.high ≤ n) (hempty : hasEmpty = true → extent.low = 0)
    (h : walk.StandsAt n extent hasEmpty ordinal) :
    walk.trail = (numbered (extent.listing n hasEmpty)).drop ordinal := by
  -- by the length of what is left of the listing
  induction hleft : (extent.listing n hasEmpty).length - ordinal generalizing walk ordinal with
  | zero =>
    have hnone : walk.current = none := by
      rw [h.current_eq, List.getElem?_eq_none (by rw [length_numbered]; omega)]
    rw [trail_of_none hnone, List.drop_eq_nil_of_le (by rw [length_numbered]; omega)]
  | succ left ih =>
    have hlt : ordinal < (numbered (extent.listing n hasEmpty)).length := by
      rw [length_numbered]
      omega
    have hsome := h.current_eq
    rw [List.getElem?_eq_getElem hlt] at hsome
    rw [trail_of_some hsome, List.drop_eq_getElem_cons hlt, ih (h.advance hn hempty) (by omega)]

end Walk
end Combinations
