import Combinations.Proofs.Config.Total
import Combinations.Proofs.Uses
import Combinations.Proofs.Walk.Counters

/-!
# What the statistics of a run count

The counters of a run are raised in three places: when the walk is placed, when it enters a size, and
when a combination is delivered.  `enumerate_statistics` says what they come to, in terms of the calls
that the sink receives and of the number of all combinations.

A run ends with a combination or after a move that found none.  So the walk may have moved once more
than there were deliveries, but only to find that nothing was left: what it has visited is what was
delivered (`exists_statistics_deliver`).  Therefore a size that was entered without a delivery is not
counted, whichever way the run ends.
-/

set_option autoImplicit false

namespace Combinations

variable {σ : Type} {config : Config} {items : Items} {sink : Sink σ}

/-! ## The loop -/

/-- **A run ends with the counters of its walk.**  The walk has then visited the combinations that
were delivered, and no others. -/
theorem exists_statistics_deliver (items : Items) (sink : Sink σ) (state : σ) (walk : Walk)
    (emitted : Nat) (events : Array Event)
    (hlimit : config.window.limit.toNat = 0 ∨ emitted < config.window.limit.toNat) :
    let calls := (walk.feed config items sink state emitted).calls
    ∃ moves, walk.trail.take (moves + 1) = walk.trail.take calls.length ∧
      (deliver config items sink state walk emitted events).result.map Outcome.statistics =
        .ok { (walk.advanceBy moves).2.statistics with emitted := emitted + calls.length } := by
  fun_induction deliver config items sink state walk emitted events with
  | case1 state walk emitted events statistics h =>
    rw [Walk.feed_of_none h, Walk.trail_of_none h]
    exact ⟨0, rfl, rfl⟩
  | case2 state walk emitted events statistics c h response events' emitted' statistics' hcode =>
    rw [Walk.feed_of_stop h hlimit hcode]
    exact ⟨0, rfl, rfl⟩
  | case3 state walk emitted events statistics c h response events' emitted' statistics' hcode
      hlast =>
    rw [Walk.feed_of_last h hlast (not_not.mp hcode)]
    exact ⟨0, rfl, rfl⟩
  | case4 state walk emitted events c h response events' emitted' hcode hlast ih =>
    rw [Walk.feed_of_go h hlimit (not_not.mp hcode), Walk.trail_of_some h]
    obtain ⟨moves, htake, hresult⟩ := ih (below_limit_succ hlimit hlast)
    refine ⟨moves + 1, ?_, ?_⟩
    · rw [List.length_cons, List.take_succ_cons, List.take_succ_cons, htake]
    · rw [hresult, Walk.advanceBy_succ, List.length_cons, Nat.add_right_comm, Nat.add_assoc]

/-! ## The combinations that are delivered -/

theorem map_indices_numbered (all : List (List Nat)) : (numbered all).map (·.indices) = all := by
  refine List.ext_getElem? fun i ↦ ?_
  rw [List.getElem?_map, getElem?_numbered, Option.map_map]
  exact Option.map_id'

theorem lt_of_mem_numbered {extent : Extent} {n : Nat} {c : Numbered}
    (h : c ∈ numbered (extent.listing n (config.visitsEmpty extent))) : ∀ i ∈ c.indices, i < n := by
  have hmem := List.mem_map_of_mem (f := (·.indices)) h
  rw [map_indices_numbered] at hmem
  exact (Config.mem_listing.mp hmem).choice.lt

/-- The records with which a sink is called are as long as the vectors that they stand for. -/
theorem distinctLengths_calls {all : List Numbered} {calls : List Record}
    (hcalls : calls <+: all.map (recordOf config items))
    (hlt : ∀ c ∈ all, ∀ i ∈ c.indices, i < items.size) :
    distinctLengths (calls.map (·.items)) =
      distinctLengths ((all.take calls.length).map (·.indices)) := by
  have hlengths : (calls.map (·.items)).map List.length =
      ((all.take calls.length).map (·.indices)).map List.length := calc
    (calls.map (·.items)).map List.length =
        (((all.map (recordOf config items)).take calls.length).map (·.items)).map List.length := by
      rw [← List.prefix_iff_eq_take.mp hcalls]
    _ = (all.take calls.length).map fun c ↦ (items.pick c.indices).length := by
      rw [← List.map_take, List.map_map, List.map_map]
      rfl
    _ = (all.take calls.length).map fun c ↦ c.indices.length :=
      List.map_congr_left fun c hc ↦ items.length_pick (hlt c (List.mem_of_mem_take hc))
    _ = ((all.take calls.length).map (·.indices)).map List.length := by
      rw [List.map_map]
      rfl
  rw [distinctLengths, distinctLengths, hlengths]

/-! ## The run -/

/-- A run that is completed has not been stopped by its sink. -/
theorem Outcome.code_eq_zero {code : Int32} {statistics : Statistics}
    (h : (ofCode code statistics).isAborted = false) : code = 0 := by
  by_contra hne
  rw [ofCode, if_neg hne] at h
  cases h

/-- Without a limit, a run is to deliver all that is not passed over. -/
theorem Config.length_records_of_limit_eq_zero {extent : Extent} (h : config.window.limit = 0) :
    (config.records items extent).length =
      (extent.listing items.size (config.visitsEmpty extent)).length - config.window.start.toNat := by
  rw [Config.records, Window.slice, h, List.length_map, UInt64.toNat_zero, Window.allow, if_pos rfl,
    List.length_drop, length_numbered]

/-- **The statistics of a run**, in terms of the records that its sink is called with. -/
theorem statistics_enumerate {extent : Extent} (hitems : items.size < itemLimit)
    (hextent : config.extent items.size = .ok extent) (sink : Sink σ) (state : σ) :
    let all := extent.listing items.size (config.visitsEmpty extent)
    let calls := (sink.feed state (config.records items extent)).calls
    (enumerate config items sink state).result.map Outcome.statistics =
      .ok ⟨calls.length, min config.window.start.toNat all.length,
        distinctLengths (calls.map (·.items))⟩ := by
  intro all calls
  obtain ⟨walk, hwalk, -, htrail, hfeed⟩ := exists_walk_feed config hextent
  obtain ⟨moves, htake, hstatistics⟩ := exists_statistics_deliver items sink state walk 0
    (openingEvents config walk) (Nat.eq_zero_or_pos _)
  rw [hfeed] at htake hstatistics
  have hprefix : calls <+: walk.trail.map (recordOf config items) := by
    rw [htrail]
    exact (sink.calls_feed_prefix state _).trans ((Window.allow_prefix _ _ _).map _)
  have hlt : ∀ c ∈ walk.trail, ∀ i ∈ c.indices, i < items.size := by
    intro c hc
    exact lt_of_mem_numbered (List.mem_of_mem_drop (htrail ▸ hc))
  -- what the walk has visited is what was delivered
  have hsizes : distinctLengths (walk.visited moves) = distinctLengths (calls.map (·.items)) := by
    rw [Walk.visited, htake, distinctLengths_calls hprefix hlt]
  have hskipped := Walk.skipped_ofConfig hextent hwalk
  have hcounted := Walk.counted_advanceBy hwalk moves
  rw [enumerate, Items.walk, if_pos hitems, hwalk]
  rw [Nat.zero_add] at hstatistics
  refine hstatistics.trans (congrArg Except.ok ?_)
  rw [Statistics.mk.injEq]
  exact ⟨rfl, hcounted.skipped_eq.trans hskipped, hcounted.sizesVisited_eq.trans hsizes⟩

/-- **What the statistics of a run count.**  Let a run pass the check, and let `all` be the list of all
combinations of its configuration.  The run comes to an end, and however it ends:

* Delivered are as many combinations as the sink has been called with, one that stopped it included.
* Passed over are as many as the start of the window says, or all there are if that is less.
* The sizes counted are the different lengths of the combinations that were delivered.
* If the run is completed without a limit, what was passed over and what was delivered are together
  all combinations. -/
theorem enumerate_statistics {extent : Extent} (hitems : items.size < itemLimit)
    (hextent : config.extent items.size = .ok extent) (sink : Sink σ) (state : σ) :
    let calls := (enumerate config items sink.traced (state, [])).state.2
    ∃ outcome all, (enumerate config items sink state).result = .ok outcome ∧
      config.Lists items.size extent all ∧ config.exactTotal items.size = .ok all.length ∧
      outcome.statistics.emitted = calls.length ∧ outcome.emitted = calls.length ∧
      outcome.statistics.skipped = min config.window.start.toNat all.length ∧
      outcome.statistics.sizesVisited = distinctLengths (calls.map (·.items)) ∧
      (outcome.isAborted = false → config.window.limit = 0 →
        outcome.statistics.skipped + outcome.statistics.emitted = all.length) := by
  intro calls
  have hcalls : calls = (sink.feed state (config.records items extent)).calls := by
    have htraced := (enumerate_eq_feed sink.traced (state, []) hitems hextent).state_eq
    rw [Sink.feed_traced] at htraced
    exact congrArg Prod.snd htraced
  obtain ⟨-, statistics, hresult, -⟩ := enumerate_eq_feed sink state hitems hextent
  have hstatistics := statistics_enumerate hitems hextent sink state
  rw [hresult, ← hcalls] at hstatistics
  have hcounts := Except.ok.inj hstatistics
  refine ⟨_, _, hresult, config.lists_listing items.size extent, ?_, ?_, ?_, ?_, ?_, ?_⟩
  · rw [Config.exactTotal_eq hextent, Extent.length_listing]
  · rw [hcounts]
  · rw [Outcome.emitted, hcounts]
  · rw [hcounts]
  · rw [hcounts]
  · intro hcompleted hlimit
    have hall := Sink.calls_feed_of_code_eq_zero (Outcome.code_eq_zero hcompleted)
    rw [hcounts, hcalls, hall, Config.length_records_of_limit_eq_zero hlimit]
    simp only
    omega

/-- The first pair of three items stops the run.  Its size is counted, and so is that of the single
items, but not that of the empty combination, which was passed over. -/
theorem enumerate_statistics_of_stopped :
    let config : Config :=
      { Config.default with window := ⟨1, 0⟩, showEmpty := true, sizes := ⟨0, some 2, by simp⟩ }
    let items := Items.ofList ["a", "b", "c"]
    let sink : Sink Nat :=
      ⟨fun calls record ↦ ⟨calls + 1, if record.items = ["a", "b"] then 7 else 0, []⟩⟩
    items.size < itemLimit ∧ config.extent items.size = .ok ⟨0, 2⟩ ∧
      config.exactTotal items.size = .ok 7 ∧
      (enumerate config items sink.traced (0, [])).state.2 =
        [⟨none, ["a"]⟩, ⟨none, ["b"]⟩, ⟨none, ["c"]⟩, ⟨none, ["a", "b"]⟩] ∧
      (enumerate config items sink 0).result = .ok (.aborted 7 ⟨4, 1, 2⟩) := by
  intro config items sink
  have hitems : items.size < itemLimit := by decide
  have hextent : config.extent items.size = .ok ⟨0, 2⟩ := rfl
  have htotal : config.exactTotal items.size = .ok 7 :=
    (Config.exactTotal_eq hextent).trans (congrArg Except.ok (by decide))
  have hcalls : (enumerate config items sink.traced (0, [])).state.2 =
      [⟨none, ["a"]⟩, ⟨none, ["b"]⟩, ⟨none, ["c"]⟩, ⟨none, ["a", "b"]⟩] :=
    congrArg Prod.snd (enumerate_eq_feed sink.traced (0, []) hitems hextent).state_eq
  obtain ⟨-, statistics, hstopped, -⟩ := enumerate_eq_feed sink 0 hitems hextent
  obtain ⟨outcome, all, hresult, -, hall, hemitted, -, hskipped, hsizes, -⟩ :=
    enumerate_statistics hitems hextent sink 0
  obtain rfl : .aborted 7 statistics = outcome := Except.ok.inj (hstopped.symm.trans hresult)
  have hlength : all.length = 7 := Except.ok.inj (hall.symm.trans htotal)
  rw [hcalls] at hemitted hsizes
  rw [hlength] at hskipped
  have hcounts : statistics = ⟨4, 1, 2⟩ := by
    rw [Statistics.mk.injEq]
    exact ⟨hemitted, hskipped, hsizes.trans (by decide)⟩
  exact ⟨hitems, hextent, htotal, hcalls, hcounts ▸ hresult⟩

end Combinations
