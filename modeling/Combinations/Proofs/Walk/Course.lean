import Combinations.Proofs.Config.Succession
import Combinations.Proofs.Walk.Counters
import Combinations.Proofs.Walk.SkipAhead

/-!
# The course of a walk

What holds of a walk of a configuration wherever it stands, after any number of moves.

* `Walk.Placed` — it stands on a combination that the configuration describes, or nowhere.
* `Walk.Leads` — a move leads to the next combination in the order, with the next number, or says that
  there is none; and once there is none, nothing changes any more.
* `Walk.Counted` — its counters are those of what it has visited.

The first two come from the place of the walk in the listing (`Walk.StandsAt`), which is sorted and
holds every combination.  `Walk.course` states all three of every walk that can be reached.
-/

set_option autoImplicit false

namespace Combinations

variable {config : Config} {extent : Extent} {n ordinal : Nat} {walk first : Walk}

namespace Walk

/-- Where a walk stands, `moves` moves after the start of its window. -/
structure Placed (walk : Walk) (config : Config) (n : Nat) (extent : Extent) (moves : Nat) :
    Prop where
  indices_eq : walk.indices =
    (extent.listing n (config.visitsEmpty extent))[config.window.start.toNat + moves]?
  /-- There is a number exactly if there is a combination. -/
  isSome_eq : walk.sequence.isSome = walk.indices.isSome
  /-- A combination chooses some of the positions, as many as a size of the range. -/
  of_ne_nil : ∀ v ∈ walk.indices, v ≠ [] → v.Pairwise (· < ·) ∧ (∀ i ∈ v, i < n) ∧
    max 1 config.sizes.min.toNat ≤ v.length ∧ v.length ≤ config.sizes.max.elim n UInt32.toNat
  /-- The empty combination can only come first. -/
  of_nil : walk.indices = some [] → moves = 0 ∧ config.sizes.min = 0 ∧ config.showEmpty = true ∧
    config.window.start = 0

/-- Where a move of a walk leads. -/
structure Leads (walk : Walk) (config : Config) (n : Nat) (extent : Extent) : Prop where
  /-- A move has led somewhere exactly if there is a combination. -/
  fst_eq : walk.advance.1 = walk.advance.2.indices.isSome
  /-- It leads to the next combination, which has the next number. -/
  of_true : walk.advance.1 = true → ∃ v w number, walk.indices = some v ∧
    walk.sequence = some number ∧ walk.advance.2.indices = some w ∧
    walk.advance.2.sequence = some (min (number + 1) maxOrdinal) ∧ config.Follows n extent v w
  /-- It leads nowhere only from the last combination, or from behind it. -/
  of_false : walk.advance.1 = false → ∀ v ∈ walk.indices, config.IsLast n extent v
  /-- From then on nothing changes. -/
  stays : walk.advance.1 = false → ∀ times,
    (walk.advance.2.advanceBy times).2.advance = (false, walk.advance.2)

theorem current_isSome (walk : Walk) : walk.current.isSome = walk.indices.isSome := by
  rw [indices, Option.isSome_map]

theorem placed_of_standsAt {moves : Nat} (hextent : config.extent n = .ok extent)
    (h : walk.StandsAt n extent (config.visitsEmpty extent) (config.window.start.toNat + moves)) :
    walk.Placed config n extent moves where
  indices_eq := h.indices_eq
  isSome_eq := by rw [h.sequence_eq, Option.isSome_map]
  of_ne_nil := by
    intro v hv hne
    obtain ⟨hlow, hhigh, -⟩ := SizeRange.of_resolve_eq_ok (Config.resolve_of_extent_eq_ok hextent)
    rw [h.indices_eq] at hv
    have hdescribes : config.Describes n extent v :=
      Config.mem_listing.mp (List.mem_of_getElem? hv)
    have hpos := List.length_pos_iff.mpr hne
    have hmin := hdescribes.low_le
    exact ⟨hdescribes.choice.ascending, hdescribes.choice.lt, by omega,
      hhigh ▸ hdescribes.le_high⟩
  of_nil := by
    intro hnil
    rw [h.indices_eq] at hnil
    have hzero := Config.ordinal_eq_zero hnil
    have hdescribes : config.Describes n extent [] :=
      Config.mem_listing.mp (List.mem_of_getElem? hnil)
    obtain ⟨hlow, -⟩ := SizeRange.of_resolve_eq_ok (Config.resolve_of_extent_eq_ok hextent)
    have hmin : extent.low = 0 := Nat.le_zero.mp hdescribes.low_le
    exact ⟨by omega, UInt32.toNat_inj.mp (hlow.symm.trans hmin), hdescribes.showEmpty rfl,
      UInt64.toNat_inj.mp (Nat.eq_zero_of_add_eq_zero_right hzero)⟩

theorem leads_of_standsAt (hextent : config.extent n = .ok extent)
    (h : walk.StandsAt n extent (config.visitsEmpty extent) ordinal) :
    walk.Leads config n extent := by
  have hnext := h.advance (Config.high_le hextent) fun h ↦ (Config.visitsEmpty_iff.mp h).1
  have hfst : walk.advance.1 = walk.advance.2.indices.isSome :=
    walk.advance_move.fst_eq.trans (current_isSome _)
  refine ⟨hfst, fun htrue ↦ ?_, fun hfalse v hv ↦ ?_, fun hfalse times ↦ ?_⟩
  · rw [hfst] at htrue
    obtain ⟨w, hw⟩ := Option.isSome_iff_exists.mp htrue
    rw [hnext.indices_eq] at hw
    -- where there is an element there is one before it
    obtain ⟨hlength, -⟩ := List.getElem?_eq_some_iff.mp hw
    obtain ⟨v, hv⟩ : ∃ v, (extent.listing n (config.visitsEmpty extent))[ordinal]? = some v :=
      ⟨_, List.getElem?_eq_getElem (by omega)⟩
    refine ⟨v, w, nextNumber ordinal, h.indices_eq.trans hv, ?_, hnext.indices_eq.trans hw, ?_,
      Config.follows_of_getElem? hv hw⟩
    · rw [h.sequence_eq, h.indices_eq, hv, Option.map_some]
    · rw [hnext.sequence_eq, hnext.indices_eq, hw, Option.map_some, ← nextNumber_nextNumber]
      rfl
  · rw [hfst, Option.isSome_eq_false_iff, Option.isNone_iff_eq_none, hnext.indices_eq] at hfalse
    rw [h.indices_eq] at hv
    exact Config.isLast_of_getElem? hv hfalse
  · rw [walk.advance_move.fst_eq, Option.isSome_eq_false_iff, Option.isNone_iff_eq_none] at hfalse
    rw [advanceBy_of_none hfalse, advance_of_none hfalse]

/-- **The course of a walk.**  Take the walk of a configuration over `n` items, and move it any number
of times.

* Wherever it stands, its vector is ascending and below `n`, of a size of the range; the empty
  vector occurs only before the first move, and only where it is shown and nothing is passed over.
* A move leads to the next combination by length and then lexicographically, and gives it the next
  number, which stays at `maxOrdinal` once it is reached.  If there is no next combination the move
  says so, and from then on neither the place of the walk nor its counters change.
* What was passed over at the start stays, nothing is delivered, and the sizes counted are the
  different lengths of the vectors on which the walk has stood so far. -/
theorem course (hfirst : Walk.ofConfig config n = .ok first) (moves : Nat) :
    let walk := (first.advanceBy moves).2
    ∃ extent, config.extent n = .ok extent ∧
      walk.Placed config n extent moves ∧
      walk.Leads config n extent ∧
      walk.statistics.skipped = first.statistics.skipped ∧
      walk.statistics.emitted = 0 ∧
      walk.statistics.sizesVisited = distinctLengths (first.visited moves) := by
  intro walk
  obtain ⟨extent, hextent, hplaced⟩ := exists_eq_ofLanding hfirst
  obtain ⟨other, hother, hstart⟩ := exists_standsAt hextent
  obtain rfl : first = other := Except.ok.inj (hfirst.symm.trans hother)
  have hstands := hstart.advanceBy (Config.high_le hextent)
    (fun h ↦ (Config.visitsEmpty_iff.mp h).1) moves
  obtain ⟨hemitted, hskipped, hsizes, -⟩ := counted_advanceBy hfirst moves
  exact ⟨extent, hextent, placed_of_standsAt hextent hstands, leads_of_standsAt hextent hstands,
    hskipped, hemitted.trans (hplaced ▸ emitted_ofLanding _ _ _ _), hsizes⟩

/-- Three moves over three items lead from the empty combination to the last of the single items.
The first pair is next, and two sizes have been counted. -/
theorem course_across_sizes :
    let config : Config :=
      { Config.default with showEmpty := true, sizes := ⟨0, some 2, by simp⟩ }
    ∃ first, Walk.ofConfig config 3 = .ok first ∧
      (first.advanceBy 3).2.Placed config 3 ⟨0, 2⟩ 3 ∧
      (first.advanceBy 3).2.indices = some [2] ∧
      (first.advanceBy 3).2.advance.2.indices = some [0, 1] ∧
      config.Follows 3 ⟨0, 2⟩ [2] [0, 1] ∧
      distinctLengths (first.visited 3) = 2 := by
  intro config
  have hextent : config.extent 3 = .ok ⟨0, 2⟩ := rfl
  have hfirst : Walk.ofConfig config 3 = .ok ⟨3, 2, some ⟨1, []⟩, ⟨0, 0, 1⟩⟩ := rfl
  obtain ⟨extent, hsame, hplaced, hleads, -, -, hsizes⟩ := course hfirst 3
  obtain rfl : ⟨0, 2⟩ = extent := Except.ok.inj (hextent.symm.trans hsame)
  obtain ⟨v, w, number, hv, -, hw, -, hfollows⟩ := hleads.of_true rfl
  cases hv
  cases hw
  exact ⟨_, hfirst, hplaced, rfl, rfl, hfollows, hsizes.symm⟩

end Walk

end Combinations
