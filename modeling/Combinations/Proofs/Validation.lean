import Combinations.Proofs.Partition
import Combinations.Proofs.Text.Sink
import Combinations.Proofs.Uses

/-!
# One check for all requests

A configuration and a number of items can be put to use in many ways: counted, walked, delivered to a
sink or to a device, moved to the end, split.  All of them begin with the same check,
`Config.extent`, and `Config.validation_uniform` says what follows from that: either all of them fail
with the same error, and nothing has been touched, or none of them does.

`Config.Rejects` and `Config.Accepts` are the two verdicts on a number of items, `Items.Rejects` and
`Items.Accepts` those on an item set.  What the check finds is `Config.extent_eq`.
-/

set_option autoImplicit false

namespace Combinations

variable {config : Config} {items : Items} {extent : Extent} {n : Nat} {e : Error}

/-! ## Item sets -/

/-- Every run over the items fails with `e`.  It leaves its sink or its device as it was, and logs
nothing. -/
structure Items.Rejects (items : Items) (config : Config) (e : Error) : Prop where
  enumerate_eq : ∀ {σ : Type} (sink : Sink σ) (state : σ),
    enumerate config items sink state = ⟨state, #[], .error e⟩
  enumerateWith_eq : ∀ {σ : Type} (f : σ → Option Nat → List String → σ × Int32) (state : σ),
    enumerateWith config items f state = ⟨state, #[], .error e⟩
  enumerateToText_eq : ∀ device, enumerateToText config items device = ⟨device, #[], .error e⟩

/-- No run over the items fails, unless its device does. -/
structure Items.Accepts (items : Items) (config : Config) : Prop where
  exists_outcome : ∀ {σ : Type} (sink : Sink σ) (state : σ), ∃ outcome,
    (enumerate config items sink state).result = .ok outcome
  exists_code : ∀ {σ : Type} (f : σ → Option Nat → List String → σ × Int32) (state : σ), ∃ code,
    (enumerateWith config items f state).result = .ok code
  ok_or_io : ∀ device, (∃ code, (enumerateToText config items device).result = .ok code) ∨
    ∃ reason, (enumerateToText config items device).result = .error (.io reason)

theorem Items.rejects_of_walk_eq_error (h : items.walk config = .error e) :
    items.Rejects config e where
  enumerate_eq sink state := enumerate_of_walk_eq_error h sink state
  enumerateWith_eq f state := by
    rw [enumerateWith, enumerate_of_walk_eq_error h]
    rfl
  enumerateToText_eq device := by
    rw [enumerateToText, enumerate_of_walk_eq_error h]
    rfl

/-- Too many items are reported whatever the sizes are. -/
theorem Items.rejects_of_itemLimit_le (config : Config) (h : itemLimit ≤ items.size) :
    items.Rejects config (.tooManyItems items.size) := by
  refine rejects_of_walk_eq_error ?_
  rw [Items.walk, if_neg (Nat.not_lt.mpr h)]

theorem TextSink.finish_ok_or_io (text : TextSink) :
    text.finish.2 = .ok () ∨ ∃ reason, text.finish.2 = .error (.io reason) := by
  rw [finish]
  cases text.fault with
  | some fault => exact .inr ⟨_, rfl⟩
  | none =>
    rcases text.out.flush with ⟨out, _ | fault⟩
    · exact .inl rfl
    · exact .inr ⟨_, rfl⟩

theorem Items.accepts_of_extent_eq_ok (hitems : items.size < itemLimit)
    (hextent : config.extent items.size = .ok extent) : items.Accepts config where
  exists_outcome sink state := by
    obtain ⟨-, statistics, hresult, -⟩ := enumerate_eq_feed sink state hitems hextent
    exact ⟨_, hresult⟩
  exists_code f state := by
    obtain ⟨-, statistics, hresult, -⟩ :=
      enumerate_eq_feed (Sink.ofFunction f) state hitems hextent
    rw [enumerateWith, Report.map, hresult]
    exact ⟨_, rfl⟩
  ok_or_io device := by
    obtain ⟨-, hresult⟩ := enumerateToText_eq hitems hextent device
    rw [hresult]
    rcases TextSink.finish_ok_or_io _ with hfinish | ⟨reason, hfinish⟩ <;> rw [hfinish]
    · exact .inl ⟨_, rfl⟩
    · exact .inr ⟨reason, rfl⟩

/-! ## Numbers of items -/

/-- Every request for combinations of `n` items fails with `e`. -/
structure Config.Rejects (config : Config) (n : Nat) (e : Error) : Prop where
  exactTotal_eq : config.exactTotal n = .error e
  walk_eq : Walk.ofConfig config n = .error e
  total_eq : config.total n = .error e
  fromEnd_eq : ∀ count, config.fromEnd n count = .error e
  partition_eq : ∀ parts, 0 < parts → config.partition n parts = .error e
  rejects_items : ∀ items : Items, items.size = n → items.Rejects config e

/-- No request for combinations of `n` items fails, except those for which the number `total` of all
combinations is too large. -/
structure Config.Accepts (config : Config) (n total : Nat) : Prop where
  exactTotal_eq : config.exactTotal n = .ok total
  exists_walk : ∃ walk, Walk.ofConfig config n = .ok walk
  total_eq : config.total n = if total ≤ maxOrdinal then .ok total else .error .overflow
  exists_fromEnd : total ≤ maxOrdinal → ∀ count, ∃ moved, config.fromEnd n count = .ok moved
  fromEnd_eq : maxOrdinal < total → ∀ count, config.fromEnd n count = .error .overflow
  exists_partition : total ≤ maxOrdinal → ∀ parts, 0 < parts → ∃ split,
    config.partition n parts = .ok split
  partition_eq : maxOrdinal < total → ∀ parts, 0 < parts →
    config.partition n parts = .error .overflow
  accepts_items : ∀ items : Items, items.size = n → items.Accepts config

theorem Config.fromEnd_of_total_eq_error (h : config.total n = .error e) (count : UInt64) :
    config.fromEnd n count = .error e := by
  simp only [Config.fromEnd, h, bind, Except.bind]

theorem Config.partition_of_total_eq_error (h : config.total n = .error e) {parts : Nat}
    (hparts : 0 < parts) : config.partition n parts = .error e := by
  rw [Config.partition, if_neg hparts.ne', h]
  rfl

/-- What the check finds: first that there are no items, then that the sizes do not fit. -/
theorem Config.extent_eq (config : Config) (n : Nat) :
    config.extent n =
      if n = 0 ∧ 0 < config.sizes.min.toNat then .error (.emptyItemSet config.sizes.min.toNat)
      else if config.sizes.max.elim n UInt32.toNat < config.sizes.min.toNat ∨
          n < config.sizes.max.elim n UInt32.toNat then
        .error (.invalidRange config.sizes.min.toNat (config.sizes.max.elim n UInt32.toNat) (some n))
      else .ok ⟨config.sizes.min.toNat, config.sizes.max.elim n UInt32.toNat⟩ := by
  simp only [Config.extent, SizeRange.resolve, UInt32.lt_iff_toNat_lt, UInt32.toNat_zero]
  cases config.sizes.max <;> rfl

theorem Config.rejects_of_extent_eq_error (hn : n < itemLimit) (h : config.extent n = .error e) :
    config.Rejects n e := by
  have htotal : config.total n = .error e := by
    simp only [Config.total, h, bind, Except.bind]
  refine ⟨?_, ?_, htotal, fromEnd_of_total_eq_error htotal,
    fun parts hparts ↦ partition_of_total_eq_error htotal hparts, ?_⟩
  · simp only [Config.exactTotal, h, bind, Except.bind]
  · rw [Walk.ofConfig, h]
    rfl
  · rintro items rfl
    refine Items.rejects_of_walk_eq_error ?_
    rw [Items.walk, if_pos hn, Walk.ofConfig, h]
    rfl

theorem Config.accepts_of_extent_eq_ok (hn : n < itemLimit) (h : config.extent n = .ok extent) :
    config.Accepts n (extent.combinations n (config.visitsEmpty extent)) := by
  have htotal := Config.total_eq h
  refine ⟨Config.exactTotal_eq h, ?_, htotal, ?_, ?_, ?_, ?_, ?_⟩
  · rw [Walk.ofConfig, h]
    exact ⟨_, rfl⟩
  · intro hle count
    rw [if_pos hle] at htotal
    simp only [Config.fromEnd, htotal, bind, Except.bind, pure, Except.pure]
    exact ⟨_, rfl⟩
  · intro hlt count
    rw [if_neg (Nat.not_le.mpr hlt)] at htotal
    exact fromEnd_of_total_eq_error htotal count
  · intro hle parts hparts
    rw [if_pos hle] at htotal
    exact ⟨_, Config.partition_eq hparts htotal⟩
  · intro hlt parts hparts
    rw [if_neg (Nat.not_le.mpr hlt)] at htotal
    exact partition_of_total_eq_error htotal hparts
  · rintro items rfl
    exact Items.accepts_of_extent_eq_ok hn h

/-! ## Sinks that are used again -/

/-- What a use adds to a sink that keeps its records does not depend on what it has kept before. -/
theorem Sink.use_collect (kept : Array Record) (u : Use) :
    Sink.collect.use kept u = kept ++ Sink.collect.use #[] u := by
  cases u with
  | visit record => exact Array.push_eq_append
  | run config items =>
    rcases items.walk_cases config with ⟨e, hwalk⟩ | ⟨extent, hitems, hextent⟩
    · rw [use, use, enumerate_of_walk_eq_error hwalk, enumerate_of_walk_eq_error hwalk]
      exact Array.append_empty.symm
    · rw [use, use, (enumerate_eq_feed collect kept hitems hextent).state_eq,
        (enumerate_eq_feed collect #[] hitems hextent).state_eq, feed_collect, feed_collect,
        Array.empty_append]

theorem Sink.useAll_collect (kept : Array Record) (uses : List Use) :
    (Sink.collect.useAll kept uses).toList =
      kept.toList ++ uses.flatMap fun u ↦ (Sink.collect.use #[] u).toList := by
  induction uses generalizing kept with
  | nil => exact (List.append_nil _).symm
  | cons u rest ih =>
    rw [useAll_cons, ih, use_collect, Array.toList_append, List.flatMap_cons, List.append_assoc]

/-! ## All requests -/

/-- **All requests are checked alike, and before anything happens.**  Let `low` and `high` be the sizes
that a configuration asks for of `n` items, where an unset maximum is `n`.

* If non-empty combinations of no items are asked for, every request fails for that reason, even if
  the sizes do not fit either.
* Otherwise, if the sizes are inverted or reach past the items, every request fails for that reason.
* Otherwise no request fails, apart from those that need the number of all combinations as a 64-bit
  number, which fail exactly if it is too large.
* Item sets of `itemLimit` and more items are refused before all that.

A run that fails leaves its sink or device alone and logs nothing.  So of the uses of one sink, the
runs that fail can be left out, and a sink that keeps its records has in the end those that the other
uses add, one behind the other. -/
theorem Config.validation_uniform (config : Config) (n : UInt32) :
    let low := config.sizes.min.toNat
    let high := config.sizes.max.elim n.toNat UInt32.toNat
    (n = 0 ∧ 0 < low → config.Rejects n.toNat (.emptyItemSet low)) ∧
      (¬(n = 0 ∧ 0 < low) → high < low ∨ n.toNat < high →
        config.Rejects n.toNat (.invalidRange low high (some n.toNat))) ∧
      (¬(n = 0 ∧ 0 < low) → low ≤ high → high ≤ n.toNat →
        ∃ total, config.Accepts n.toNat total) ∧
      (∀ items : Items, itemLimit ≤ items.size →
        items.Rejects config (.tooManyItems items.size)) ∧
      (∀ {σ : Type} (sink : Sink σ) (state : σ) (uses : List Use),
        sink.useAll state (sink.effective state uses) = sink.useAll state uses) ∧
      ∀ (kept : Array Record) (uses : List Use),
        (Sink.collect.useAll kept uses).toList =
          kept.toList ++ (Sink.collect.effective kept uses).flatMap fun u ↦
            (Sink.collect.use #[] u).toList := by
  intro low high
  have hn : n.toNat < itemLimit := n.toNat_lt
  have hzero : n.toNat = 0 ↔ n = 0 := by
    rw [← UInt32.toNat_inj]
    rfl
  have hextent := config.extent_eq n.toNat
  simp only [hzero] at hextent
  refine ⟨?_, ?_, ?_, fun items ↦ Items.rejects_of_itemLimit_le config,
    fun sink ↦ sink.useAll_effective, ?_⟩
  · intro hempty
    rw [if_pos hempty] at hextent
    exact rejects_of_extent_eq_error hn hextent
  · intro hempty hmisfit
    rw [if_neg hempty, if_pos hmisfit] at hextent
    exact rejects_of_extent_eq_error hn hextent
  · intro hempty hlow hhigh
    have hfits : ¬(high < low ∨ n.toNat < high) := by omega
    rw [if_neg hempty, if_neg hfits] at hextent
    exact ⟨_, accepts_of_extent_eq_ok hn hextent⟩
  · intro kept uses
    rw [← Sink.useAll_effective, Sink.useAll_collect]

/-- Combinations of three to five items: of none, of four, of seven and of too many. -/
theorem Config.validation_uniform_of_three_to_five :
    let config : Config := { Config.default with sizes := ⟨3, some 5, by simp⟩ }
    config.Rejects 0 (.emptyItemSet 3) ∧ config.Rejects 4 (.invalidRange 3 5 (some 4)) ∧
      (∃ total, config.Accepts 7 total) ∧
      (Items.replicate itemLimit "x").Rejects config (.tooManyItems itemLimit) := by
  intro config
  obtain ⟨hempty, -⟩ := config.validation_uniform 0
  obtain ⟨-, hmisfit, -⟩ := config.validation_uniform 4
  obtain ⟨-, -, hfits, hmany, -⟩ := config.validation_uniform 7
  exact ⟨hempty ⟨rfl, by decide⟩, hmisfit (by decide) (.inr (by decide)),
    hfits (by decide) (by decide) (by decide), hmany _ (Nat.le_refl _)⟩

end Combinations
