import Combinations.Proofs.Walk.Position

/-!
# Skipping ahead agrees with moving

A walk can be brought to a combination in two ways that have nothing in common: it is placed there by
passing over sizes and unranking, or it is placed earlier and moved there step by step.  Both bring
it to the same place in the listing (`Walk.exists_standsAt`, `Walk.StandsAt.advanceBy`), so to the
same combination with the same number.
-/

set_option autoImplicit false

namespace Combinations

namespace Walk

variable {walk other : Walk} {n ordinal : Nat} {extent : Extent} {hasEmpty : Bool}

theorem StandsAt.indices_eq (h : walk.StandsAt n extent hasEmpty ordinal) :
    walk.indices = (extent.listing n hasEmpty)[ordinal]? := by
  rw [indices, h.current_eq, getElem?_numbered, Option.map_map]
  exact Option.map_id'

theorem StandsAt.sequence_eq (h : walk.StandsAt n extent hasEmpty ordinal) :
    walk.sequence = walk.indices.map fun _ ↦ nextNumber ordinal := by
  rw [h.indices_eq, sequence, h.current_eq, getElem?_numbered, Option.map_map]
  rfl

/-- **Skipping ahead agrees with moving.**  The walk that starts at ordinal `start` stands, after
`moves` moves, where the walk that starts at ordinal `start + moves` stands at once: on the element
of the listing at that ordinal, if there is one. -/
theorem advanceBy_agrees {config : Config} (hextent : config.extent n = .ok extent)
    {start moves : UInt64} (hsum : start.toNat + moves.toNat ≤ maxOrdinal) :
    ∃ near far : Walk,
      Walk.ofConfig (config.withWindow ⟨start, config.window.limit⟩) n = .ok near ∧
      Walk.ofConfig (config.withWindow ⟨start + moves, config.window.limit⟩) n = .ok far ∧
      (near.advanceBy moves.toNat).2.sequence = far.sequence ∧
      (near.advanceBy moves.toNat).2.indices = far.indices ∧
      far.sequence = far.indices.map (fun _ ↦ nextNumber (start.toNat + moves.toNat)) ∧
      far.indices =
        (extent.listing n (config.visitsEmpty extent))[start.toNat + moves.toNat]? := by
  have htoNat : (start + moves).toNat = start.toNat + moves.toNat := by
    rw [UInt64.toNat_add, Nat.mod_eq_of_lt]
    rw [maxOrdinal] at hsum
    omega
  have hextentNear : (config.withWindow ⟨start, config.window.limit⟩).extent n = .ok extent :=
    hextent
  have hextentFar :
      (config.withWindow ⟨start + moves, config.window.limit⟩).extent n = .ok extent := hextent
  obtain ⟨near, hnear, hstart⟩ := exists_standsAt hextentNear
  obtain ⟨far, hfar, hend⟩ := exists_standsAt hextentFar
  have hmoved := hstart.advanceBy (Config.high_le hextent)
    (fun h ↦ (Config.visitsEmpty_iff.mp h).1) moves.toNat
  replace hend : far.StandsAt n extent (config.visitsEmpty extent)
      (start.toNat + moves.toNat) := htoNat ▸ hend
  have hindices : (near.advanceBy moves.toNat).2.indices = far.indices :=
    hmoved.indices_eq.trans hend.indices_eq.symm
  refine ⟨near, far, hnear, hfar, ?_, hindices, hend.sequence_eq, hend.indices_eq⟩
  rw [hmoved.sequence_eq, hend.sequence_eq, hindices]
  rfl

/-- From the empty combination of four items, six moves lead to the second pair. -/
theorem advanceBy_agrees_across_sizes :
    let config : Config :=
      { Config.default with showEmpty := true, sizes := ⟨0, some 2, by simp⟩ }
    config.extent 4 = .ok ⟨0, 2⟩ ∧ (0 : UInt64).toNat + (6 : UInt64).toNat ≤ maxOrdinal ∧
      ∃ near far : Walk,
        Walk.ofConfig (config.withWindow ⟨0, 0⟩) 4 = .ok near ∧
        Walk.ofConfig (config.withWindow ⟨6, 0⟩) 4 = .ok far ∧
        (near.advanceBy 6).2.sequence = some 7 ∧ far.sequence = some 7 ∧
        (near.advanceBy 6).2.indices = some [0, 2] ∧ far.indices = some [0, 2] := by
  intro config
  have hextent : config.extent 4 = .ok ⟨0, 2⟩ := rfl
  have hsum : (0 : UInt64).toNat + (6 : UInt64).toNat ≤ maxOrdinal := by decide
  obtain ⟨near, far, hnear, hfar, hseq, hind, hfarSeq, hfarInd⟩ := advanceBy_agrees hextent hsum
  have hindices : far.indices = some [0, 2] := hfarInd
  have hsequence : far.sequence = some 7 := by rw [hfarSeq, hindices]; rfl
  exact ⟨hextent, hsum, near, far, hnear, hfar, hseq.trans hsequence, hsequence,
    hind.trans hindices, hindices⟩

end Walk
end Combinations
