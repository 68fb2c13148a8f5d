import Combinations.Enumerate
import Combinations.Proofs.Sink
import Combinations.Proofs.Walk.Position
import Combinations.Proofs.Window

/-!
# A run delivers a slice of the listing

`Walk.feed` is what the loop of a run does to its sink: it feeds it the records of what the walk still
visits, as far as the limit allows.  Each way in which a round of the loop can go has its equation
(`Walk.feed_of_none`, `feed_of_stop`, `feed_of_last`, `feed_of_go`), and whatever is to be said of the
loop goes through them; `deliver_feeds` is the first such statement.  With the position of a walk it
follows that a run feeds its sink the slice of the listing that its window selects
(`enumerate_eq_feed`).

`enumerate_delivers_slice` states the same in full, about the one list that holds the combinations
of the configuration in order, with the calls that the sink receives.
-/

set_option autoImplicit false

namespace Combinations

variable {σ : Type} {config : Config} {items : Items} {sink : Sink σ}

/-- How a run ends that its sink has stopped with `code`, or not stopped if that is 0. -/
def Outcome.ofCode (code : Int32) (statistics : Statistics) : Outcome :=
  if code = 0 then .completed statistics else .aborted code statistics

theorem Outcome.code_ofCode (code : Int32) (statistics : Statistics) :
    (ofCode code statistics).code = code := by
  rw [ofCode]
  split
  · next hzero => exact hzero.symm
  · rfl

/-! ## The loop -/

namespace Walk

variable {walk : Walk} {state : σ} {emitted : Nat} {c : Numbered}

/-- What comes of feeding a sink all that a run still delivers, after `emitted` records before. -/
def feed (walk : Walk) (config : Config) (items : Items) (sink : Sink σ) (state : σ)
    (emitted : Nat) : Feeding σ :=
  sink.feed state ((Window.allow config.window.limit.toNat emitted walk.trail).map
    (recordOf config items))

/-- The walk has run out of combinations. -/
theorem feed_of_none (h : walk.current = none) :
    walk.feed config items sink state emitted = ⟨state, [], 0⟩ := by
  rw [feed, trail_of_none h, Window.allow_nil, List.map_nil, Sink.feed_nil]

/-- The sink stops the run. -/
theorem feed_of_stop (h : walk.current = some c)
    (hlimit : config.window.limit.toNat = 0 ∨ emitted < config.window.limit.toNat)
    (hcode : (sink.visit state (recordOf config items c)).code ≠ 0) :
    walk.feed config items sink state emitted =
      ⟨(sink.visit state (recordOf config items c)).state, [recordOf config items c],
        (sink.visit state (recordOf config items c)).code⟩ := by
  rw [feed, trail_of_some h, Window.allow_cons hlimit, List.map_cons, Sink.feed_cons_of_stop hcode]

/-- The limit is reached. -/
theorem feed_of_last (h : walk.current = some c)
    (hlast : emitted + 1 = config.window.limit.toNat)
    (hcode : (sink.visit state (recordOf config items c)).code = 0) :
    walk.feed config items sink state emitted =
      ⟨(sink.visit state (recordOf config items c)).state, [recordOf config items c], 0⟩ := by
  rw [feed, trail_of_some h, Window.allow_cons (by omega), hlast, Window.allow_of_eq (by omega),
    List.map_cons, Sink.feed_cons_of_go hcode]
  rfl

/-- The run goes on. -/
theorem feed_of_go (h : walk.current = some c)
    (hlimit : config.window.limit.toNat = 0 ∨ emitted < config.window.limit.toNat)
    (hcode : (sink.visit state (recordOf config items c)).code = 0) :
    let next := (sink.visit state (recordOf config items c)).state
    walk.feed config items sink state emitted =
      { walk.advance.2.feed config items sink next (emitted + 1) with
        calls := recordOf config items c ::
          (walk.advance.2.feed config items sink next (emitted + 1)).calls } := by
  rw [feed, trail_of_some h, Window.allow_cons hlimit, List.map_cons, Sink.feed_cons_of_go hcode]
  rfl

end Walk

/-- `report` is what feeding records to a sink comes to, after `emitted` records before. -/
structure Report.Feeds (report : Report σ Outcome) (emitted : Nat) (fed : Feeding σ) : Prop where
  state_eq : report.state = fed.state
  result_eq : ∃ statistics, report.result = .ok (.ofCode fed.code statistics) ∧
    statistics.emitted = emitted + fed.calls.length

/-- Below the limit, the round behind one that does not reach it is below it as well. -/
theorem below_limit_succ {limit emitted : Nat} (hlimit : limit = 0 ∨ emitted < limit)
    (hgo : ¬emitted + 1 = limit) : limit = 0 ∨ emitted + 1 < limit := by
  omega

/-- **The loop of a run feeds its sink what the walk still visits**, as far as the limit allows. -/
theorem deliver_feeds (state : σ) (walk : Walk) (emitted : Nat) (events : Array Event)
    (hlimit : config.window.limit.toNat = 0 ∨ emitted < config.window.limit.toNat) :
    (deliver config items sink state walk emitted events).Feeds emitted
      (walk.feed config items sink state emitted) := by
  fun_induction deliver config items sink state walk emitted events with
  | case1 state walk emitted events statistics h =>
    rw [Walk.feed_of_none h]
    exact ⟨rfl, _, rfl, rfl⟩
  | case2 state walk emitted events statistics c h response events' emitted' statistics' hcode =>
    rw [Walk.feed_of_stop h hlimit hcode]
    exact ⟨rfl, statistics', by rw [Outcome.ofCode, if_neg hcode], rfl⟩
  | case3 state walk emitted events statistics c h response events' emitted' statistics' hcode
      hlast =>
    rw [Walk.feed_of_last h hlast (not_not.mp hcode)]
    exact ⟨rfl, statistics', rfl, rfl⟩
  | case4 state walk emitted events c h response events' emitted' hcode hlast ih =>
    rw [Walk.feed_of_go h hlimit (not_not.mp hcode)]
    obtain ⟨hstate, statistics, hresult, hemitted⟩ := ih (below_limit_succ hlimit hlast)
    refine ⟨hstate, statistics, hresult, hemitted.trans ?_⟩
    rw [List.length_cons, Nat.add_right_comm, Nat.add_assoc]

/-! ## The run -/

/-- The records that a run feeds its sink: the slice of the listing that the window selects. -/
def Config.records (config : Config) (items : Items) (extent : Extent) : List Record :=
  (config.window.slice (numbered (extent.listing items.size (config.visitsEmpty extent)))).map
    (recordOf config items)

/-- The walk of a run stands at the start of the window, visits the rest of the listing, and feeds a
sink the records that the window selects. -/
theorem exists_walk_feed (config : Config) {extent : Extent}
    (hextent : config.extent items.size = .ok extent) :
    ∃ walk, Walk.ofConfig config items.size = .ok walk ∧
      walk.StandsAt items.size extent (config.visitsEmpty extent) config.window.start.toNat ∧
      walk.trail = (numbered (extent.listing items.size (config.visitsEmpty extent))).drop
        config.window.start.toNat ∧
      ∀ {σ : Type} (sink : Sink σ) (state : σ), walk.feed config items sink state 0 =
        sink.feed state (config.records items extent) := by
  obtain ⟨walk, hwalk, hstart⟩ := Walk.exists_standsAt hextent
  have htrail := hstart.trail_eq (Config.high_le hextent) fun h ↦ (Config.visitsEmpty_iff.mp h).1
  refine ⟨walk, hwalk, hstart, htrail, fun sink state ↦ ?_⟩
  rw [Walk.feed, htrail, Config.records, Window.slice]

/-- **A run feeds its sink the slice of its window.** -/
theorem enumerate_eq_feed (sink : Sink σ) (state : σ) {extent : Extent}
    (hitems : items.size < itemLimit) (hextent : config.extent items.size = .ok extent) :
    (enumerate config items sink state).Feeds 0
      (sink.feed state (config.records items extent)) := by
  obtain ⟨walk, hwalk, -, -, hfeed⟩ := exists_walk_feed config hextent
  rw [enumerate, Items.walk, if_pos hitems, hwalk, ← hfeed]
  exact deliver_feeds state walk 0 (openingEvents config walk) (Nat.eq_zero_or_pos _)

/-- Keeping the calls changes no call, and keeps those of the feeding. -/
theorem enumerate_traced (sink : Sink σ) (state : σ) (before : List Record) {extent : Extent}
    (hitems : items.size < itemLimit) (hextent : config.extent items.size = .ok extent) :
    (enumerate config items sink.traced (state, before)).state =
      ((sink.feed state (config.records items extent)).state,
        before ++ (sink.feed state (config.records items extent)).calls) := by
  rw [(enumerate_eq_feed sink.traced (state, before) hitems hextent).state_eq, Sink.feed_traced]

/-- Below the size, every position has its item. -/
theorem Items.map_some_pick (items : Items) {indices : List Nat}
    (h : ∀ i ∈ indices, i < items.size) :
    (items.pick indices).map some = indices.map items.get? := by
  induction indices with
  | nil => rfl
  | cons i rest ih =>
    have hrest := ih fun j hj ↦ h j (List.mem_cons_of_mem i hj)
    have hi := items.get?_of_lt (h i List.mem_cons_self)
    rw [Items.pick] at hrest ⊢
    rw [List.filterMap_cons_some hi, List.map_cons, List.map_cons, hrest, hi]

theorem Config.records_eq {extent : Extent} {all : List (List Nat)}
    (h : config.Lists items.size extent all) :
    config.records items extent =
      config.window.slice (all.mapIdx fun ordinal indices ↦
        ⟨if config.showNumbers then some (min (ordinal + 1) maxOrdinal) else none,
          items.pick indices⟩) := by
  obtain rfl := h.unique (config.lists_listing items.size extent)
  rw [Config.records, ← Window.slice_map, numbered, List.mapIdx_eq_zipIdx_map,
    List.mapIdx_eq_zipIdx_map, List.map_map]
  rfl

/-- **A run delivers the slice of its window.**  Let `all` be the list of all combinations of the
configuration, by length and then lexicographically.  The sink is called with the records of those
that the window selects, in order, up to and including the first call that it answers with a code
other than 0.  The number of a record is that of its combination in `all`, and its items are those
at the positions of the combination.  The run is aborted with the code of the call that stopped it,
and completed if there was none, and its statistics count the calls. -/
theorem enumerate_delivers_slice (sink : Sink σ) (state : σ) {extent : Extent}
    {all : List (List Nat)} (hitems : items.size < itemLimit)
    (hextent : config.extent items.size = .ok extent) (hall : config.Lists items.size extent all) :
    let records := config.window.slice (all.mapIdx fun ordinal indices ↦
      (⟨if config.showNumbers then some (min (ordinal + 1) maxOrdinal) else none,
        items.pick indices⟩ : Record))
    let fed := sink.feed state records
    (∀ indices ∈ all, (items.pick indices).map some = indices.map items.get?) ∧
      (enumerate config items sink state).state = fed.state ∧
      (enumerate config items sink.traced (state, [])).state = (fed.state, fed.calls) ∧
      ∃ statistics, (enumerate config items sink state).result =
          .ok (if fed.code = 0 then .completed statistics else .aborted fed.code statistics) ∧
        statistics.emitted = fed.calls.length := by
  intro records fed
  have hrecords : config.records items extent = records := Config.records_eq hall
  have hfeeds := enumerate_eq_feed sink state hitems hextent
  have htraced := enumerate_eq_feed sink.traced (state, []) hitems hextent
  rw [hrecords] at hfeeds htraced
  refine ⟨?_, hfeeds.state_eq, ?_, ?_⟩
  · intro indices hmem
    exact items.map_some_pick ((hall.mem_iff indices).mp hmem).choice.lt
  · rw [htraced.state_eq, Sink.feed_traced]
    rfl
  · obtain ⟨statistics, hresult, hemitted⟩ := hfeeds.result_eq
    exact ⟨statistics, hresult, hemitted.trans (Nat.zero_add _)⟩

/-- The third of three combinations that are allowed stops the run, and is reported. -/
theorem enumerate_delivers_slice_of_three :
    let config : Config :=
      { Config.default with
        window := ⟨1, 3⟩, showNumbers := true, sizes := ⟨1, some 2, by simp⟩ }
    let items := Items.ofList ["a", "b", "c"]
    let sink : Sink Nat :=
      ⟨fun calls record ↦ ⟨calls + 1, if record.items = ["a", "b"] then 7 else 0, []⟩⟩
    items.size < itemLimit ∧ config.extent items.size = .ok ⟨1, 2⟩ ∧
      config.Lists items.size ⟨1, 2⟩ [[0], [1], [2], [0, 1], [0, 2], [1, 2]] ∧
      (enumerate config items sink.traced (0, [])).state =
        (3, [⟨some 2, ["b"]⟩, ⟨some 3, ["c"]⟩, ⟨some 4, ["a", "b"]⟩]) ∧
      ∃ statistics, (enumerate config items sink 0).result = .ok (.aborted 7 statistics) ∧
        statistics.emitted = 3 := by
  intro config items sink
  have hitems : items.size < itemLimit := by decide
  have hextent : config.extent items.size = .ok ⟨1, 2⟩ := rfl
  have hall : config.Lists items.size ⟨1, 2⟩ [[0], [1], [2], [0, 1], [0, 2], [1, 2]] :=
    config.lists_listing items.size ⟨1, 2⟩
  obtain ⟨-, -, htraced, hresult⟩ := enumerate_delivers_slice sink 0 hitems hextent hall
  exact ⟨hitems, hextent, hall, htraced, hresult⟩

end Combinations
