import Combinations.Proofs.Statistics

/-!
# The log of a run

A run logs in three places: when its walk has been placed, around each call of its sink, and when it
ends.  This file says what that comes to, for every sink, whatever the sink logs itself:

* A run that fails logs nothing.
* Any other run logs where it starts (`Config.openingLog`), then its calls one by one (`callLog`), and
  then once how it ended (`Outcome.closingEvent`).
* Whether visits are logged changes nothing else, neither what the sink receives, nor what comes of
  the run, nor the other events of the log.

What a sink logs depends on its state, so `Sink.logAll` follows the state from call to call.  With it,
the log of the loop is a list over the calls that are made (`events_deliver`), and the calls are those
of `Sink.feed`, which knows nothing of logging.  The number in the event of a visit is counted from the
start of the window: it is there even if the records have no numbers.
-/

set_option autoImplicit false

namespace Combinations

variable {σ : Type} {config : Config} {items : Items} {sink : Sink σ} {state : σ}

/-- Whether an event announces a combination that is about to be delivered. -/
def Event.isVisit : Event → Bool
  | .visit .. => true
  | _ => false

/-- The same configuration, with visits logged or not. -/
def Config.withDebug (config : Config) (debug : Bool) : Config := { config with debug := debug }

/-! ## What sinks log and answer -/

namespace Sink

/-- The sink logs nothing. -/
def Silent (sink : Sink σ) : Prop := ∀ state record, (sink.visit state record).events = []

/-- Records, each with what the sink logs when it is called with them one after the other. -/
def logAll (sink : Sink σ) (state : σ) : List Record → List (Record × List Event)
  | [] => []
  | record :: rest =>
    let response := sink.visit state record
    (record, response.events) :: sink.logAll response.state rest

theorem logAll_cons (sink : Sink σ) (state : σ) (record : Record) (rest : List Record) :
    sink.logAll state (record :: rest) =
      (record, (sink.visit state record).events) ::
        sink.logAll (sink.visit state record).state rest := rfl

theorem Silent.of_mem_logAll (h : sink.Silent) {records : List Record}
    {logged : Record × List Event} (hmem : logged ∈ sink.logAll state records) : logged.2 = [] := by
  induction records generalizing state with
  | nil => cases hmem
  | cons record rest ih =>
    rw [logAll_cons] at hmem
    rcases List.mem_cons.mp hmem with rfl | hrest
    · exact h state record
    · exact ih hrest

/-- The code of a feeding is that of its last call. -/
theorem code_feed_eq_getLast? (sink : Sink σ) (state : σ) (records : List Record) :
    (sink.feed state records).code =
      (sink.visitAll state (sink.feed state records).calls).2.getLast?.getD 0 := by
  induction records generalizing state with
  | nil => rfl
  | cons record rest ih =>
    by_cases hcode : (sink.visit state record).code = 0
    · rw [feed_cons_of_go hcode, visitAll_cons, List.getLast?_cons, hcode, Option.getD_some]
      exact ih _
    · rw [feed_cons_of_stop hcode]
      rfl

end Sink

/-! ## The parts of a log -/

/-- What a run over `n` items logs before its first call, where `all` are all combinations. -/
def Config.openingLog (config : Config) (n : Nat) (extent : Extent) (all : List (List Nat)) :
    List Event :=
  let start := config.window.start.toNat
  (match all[start]? with
    | none => [.pastEnd start]
    | some indices => if start = 0 then [] else [.seeked start indices.length indices]) ++
  [.enumerating n config.sizes.min.toNat extent.high start config.window.limit.toNat]

/-- What is logged of a call: the visit, if visits are logged, with the number of the combination at
that ordinal and the items of the record, and behind it what the sink logs when it is called. -/
def callLog (debug : Bool) (call : (Record × List Event) × Nat) : List Event :=
  (if debug then [.visit (min (call.2 + 1) maxOrdinal) call.1.1.items] else []) ++ call.1.2

/-- What a run logs at its end, after `emitted` calls, the last of them with the combination of number
`number`. -/
def Outcome.closingEvent (number emitted : Nat) : Outcome → Event
  | .completed _ => .finished emitted
  | .aborted code _ => .stopped number code emitted

/-- Without its visit, the log of a call of a sink that logs nothing is that of a call whose visit is
not logged. -/
theorem filter_callLog {call : (Record × List Event) × Nat} (h : call.1.2 = []) :
    (callLog true call).filter (!·.isVisit) = callLog false call := by
  rw [callLog, callLog, h]
  rfl

theorem Config.filter_openingLog (config : Config) (n : Nat) (extent : Extent)
    (all : List (List Nat)) :
    (config.openingLog n extent all).filter (!·.isVisit) = config.openingLog n extent all := by
  rw [openingLog, List.filter_append]
  cases all[config.window.start.toNat]? with
  | none => rfl
  | some indices =>
    simp only
    split <;> rfl

theorem Outcome.isVisit_closingEvent (number emitted : Nat) (outcome : Outcome) :
    (outcome.closingEvent number emitted).isVisit = false := by
  cases outcome <;> rfl

/-! ## The loop -/

/-- Behind an ordinal, the first of a numbered list has the next number. -/
theorem of_drop_numbered_eq_cons {all : List (List Nat)} {ordinal : Nat} {c : Numbered}
    {rest : List Numbered} (h : (numbered all).drop ordinal = c :: rest) :
    c.number = min (ordinal + 1) maxOrdinal ∧ rest = (numbered all).drop (ordinal + 1) := by
  constructor
  · have hc : (numbered all)[ordinal]? = some c := by
      rw [← List.head?_drop, h, List.head?_cons]
    rw [getElem?_numbered] at hc
    obtain ⟨indices, -, rfl⟩ := Option.map_eq_some_iff.mp hc
    rfl
  · rw [← List.tail_drop, h, List.tail_cons]

/-- What a round of the loop adds to the log. -/
theorem toList_append_visitEvents (events : Array Event) (own : List Event) {c : Numbered}
    {ordinal : Nat} (hnumber : c.number = min (ordinal + 1) maxOrdinal) :
    (events ++ visitEvents config items c ++ own).toList =
      events.toList ++ callLog config.debug ((recordOf config items c, own), ordinal) := by
  rw [visitEvents, callLog, hnumber]
  cases config.debug <;> simp [recordOf]

/-- **The loop of a run logs its calls one by one**, and then how it ended. -/
theorem events_deliver (items : Items) (sink : Sink σ) (all : List (List Nat)) (final : Statistics)
    (state : σ) (walk : Walk) (emitted : Nat) (events : Array Event)
    (hlimit : config.window.limit.toNat = 0 ∨ emitted < config.window.limit.toNat) :
    let fed := walk.feed config items sink state emitted
    ∀ ordinal, walk.trail = (numbered all).drop ordinal →
      (deliver config items sink state walk emitted events).events.toList =
        events.toList ++
          ((sink.logAll state fed.calls).zipIdx ordinal).flatMap (callLog config.debug) ++
          [(Outcome.ofCode fed.code final).closingEvent
            (min (ordinal + fed.calls.length) maxOrdinal) (emitted + fed.calls.length)] := by
  -- the ordinal of the walk is no argument of the loop: it moves along from round to round
  fun_induction deliver config items sink state walk emitted events with
  | case1 state walk emitted events statistics h =>
    intro fed ordinal htrail
    rw [show fed = _ from Walk.feed_of_none h, Array.toList_push]
    simp [Sink.logAll, Outcome.ofCode, Outcome.closingEvent]
  | case2 state walk emitted events statistics c h response events' emitted' statistics' hcode =>
    intro fed ordinal htrail
    rw [Walk.trail_of_some h] at htrail
    obtain ⟨hnumber, -⟩ := of_drop_numbered_eq_cons htrail.symm
    rw [show fed = _ from Walk.feed_of_stop h hlimit hcode, Array.toList_push,
      toList_append_visitEvents events response.events hnumber, hnumber, Outcome.ofCode,
      if_neg hcode]
    simp [Sink.logAll, Outcome.closingEvent, response, emitted']
  | case3 state walk emitted events statistics c h response events' emitted' statistics' hcode
      hlast =>
    intro fed ordinal htrail
    rw [Walk.trail_of_some h] at htrail
    obtain ⟨hnumber, -⟩ := of_drop_numbered_eq_cons htrail.symm
    rw [show fed = _ from Walk.feed_of_last h hlast (not_not.mp hcode), Array.toList_push,
      toList_append_visitEvents events response.events hnumber, Outcome.ofCode, if_pos rfl]
    simp [Sink.logAll, Outcome.closingEvent, response, emitted']
  | case4 state walk emitted events c h response events' emitted' hcode hlast ih =>
    intro fed ordinal htrail
    rw [Walk.trail_of_some h] at htrail
    obtain ⟨hnumber, hrest⟩ := of_drop_numbered_eq_cons htrail.symm
    rw [ih (below_limit_succ hlimit hlast) (ordinal + 1) hrest,
      toList_append_visitEvents events response.events hnumber,
      show fed = _ from Walk.feed_of_go h hlimit (not_not.mp hcode), Sink.logAll_cons,
      List.zipIdx_cons, List.flatMap_cons, List.length_cons, ← List.append_assoc,
      Nat.add_right_comm ordinal, Nat.add_right_comm emitted, Nat.add_assoc ordinal,
      Nat.add_assoc emitted]

/-! ## The run -/

variable {extent : Extent}

theorem toList_openingEvents {walk : Walk} {hasEmpty : Bool}
    (h : walk.StandsAt items.size extent hasEmpty config.window.start.toNat) :
    (openingEvents config walk).toList =
      config.openingLog items.size extent (extent.listing items.size hasEmpty) := by
  rw [openingEvents, Array.toList_push, Walk.startEvents, h.current_eq, h.nitems_eq, h.sizeMax_eq,
    getElem?_numbered, Config.openingLog]
  cases (extent.listing items.size hasEmpty)[config.window.start.toNat]? <;> rfl

/-- **The log of a run**, in terms of the records that its sink is called with. -/
theorem events_enumerate (hitems : items.size < itemLimit)
    (hextent : config.extent items.size = .ok extent) (final : Statistics) (sink : Sink σ)
    (state : σ) :
    let start := config.window.start.toNat
    let fed := sink.feed state (config.records items extent)
    (enumerate config items sink state).events.toList =
      config.openingLog items.size extent
          (extent.listing items.size (config.visitsEmpty extent)) ++
        ((sink.logAll state fed.calls).zipIdx start).flatMap (callLog config.debug) ++
        [(Outcome.ofCode fed.code final).closingEvent (min (start + fed.calls.length) maxOrdinal)
          fed.calls.length] := by
  intro start fed
  obtain ⟨walk, hwalk, hstart, htrail, hfeed⟩ := exists_walk_feed config hextent
  have hlimit : config.window.limit.toNat = 0 ∨ 0 < config.window.limit.toNat :=
    Nat.eq_zero_or_pos _
  have hfed : walk.feed config items sink state 0 = fed := hfeed sink state
  have hlog := events_deliver items sink _ final state walk 0 (openingEvents config walk) hlimit start
    htrail
  rw [hfed, toList_openingEvents hstart, Nat.zero_add] at hlog
  rw [enumerate, Items.walk, if_pos hitems, hwalk]
  exact hlog

theorem Outcome.statistics_ofCode (code : Int32) (statistics : Statistics) :
    (ofCode code statistics).statistics = statistics := by
  rw [ofCode]
  split <;> rfl

/-- The result of a run, in terms of the records that its sink is called with. -/
theorem result_enumerate (hitems : items.size < itemLimit)
    (hextent : config.extent items.size = .ok extent) (sink : Sink σ) (state : σ) :
    let all := extent.listing items.size (config.visitsEmpty extent)
    let fed := sink.feed state (config.records items extent)
    (enumerate config items sink state).result =
      .ok (.ofCode fed.code ⟨fed.calls.length, min config.window.start.toNat all.length,
        distinctLengths (fed.calls.map (·.items))⟩) := by
  intro all fed
  obtain ⟨-, statistics, hresult, -⟩ := enumerate_eq_feed sink state hitems hextent
  have hstatistics := statistics_enumerate hitems hextent sink state
  rw [hresult, Except.map, Except.ok.injEq, Outcome.statistics_ofCode] at hstatistics
  rw [hresult, hstatistics]

/-- The call with index `i` is for the combination whose ordinal is `i` behind the start. -/
theorem Config.getElem?_calls {i : Nat} {call : Record}
    (h : (sink.feed state (config.records items extent)).calls[i]? = some call) :
    let start := config.window.start.toNat
    ∃ indices, (extent.listing items.size (config.visitsEmpty extent))[start + i]? =
        some indices ∧
      call = ⟨if config.showNumbers then some (min (start + i + 1) maxOrdinal) else none,
        items.pick indices⟩ := by
  intro start
  obtain ⟨rest, hrest⟩ : (sink.feed state (config.records items extent)).calls <+:
      ((numbered (extent.listing items.size (config.visitsEmpty extent))).drop start).map
        (recordOf config items) :=
    (sink.calls_feed_prefix state _).trans ((Window.allow_prefix _ _ _).map _)
  have hlt : i < (sink.feed state (config.records items extent)).calls.length :=
    (List.getElem?_eq_some_iff.mp h).choose
  rw [← List.getElem?_append_left hlt, hrest, List.getElem?_map, List.getElem?_drop,
    getElem?_numbered] at h
  obtain ⟨c, hc, rfl⟩ := Option.map_eq_some_iff.mp h
  obtain ⟨indices, hindices, rfl⟩ := Option.map_eq_some_iff.mp hc
  exact ⟨indices, hindices, rfl⟩

/-! ## Visits logged or not -/

/-- Which combinations there are does not depend on whether visits are logged. -/
theorem Config.lists_of_withDebug {debug : Bool} {n : Nat} {all : List (List Nat)}
    (h : (config.withDebug debug).Lists n extent all) : config.Lists n extent all := by
  obtain rfl := h.unique ((config.withDebug debug).lists_listing n extent)
  exact config.lists_listing n extent

/-- **Whether visits are logged makes no difference to what a run does.** -/
theorem enumerate_withDebug (config : Config) (debug : Bool) (items : Items) (sink : Sink σ)
    (state : σ) :
    (enumerate (config.withDebug debug) items sink state).result =
        (enumerate config items sink state).result ∧
      (enumerate (config.withDebug debug) items sink state).state =
        (enumerate config items sink state).state := by
  rcases items.walk_cases config with ⟨e, herror⟩ | ⟨extent, hitems, hextent⟩
  · have hlogged : items.walk (config.withDebug debug) = .error e := herror
    rw [enumerate_of_walk_eq_error herror, enumerate_of_walk_eq_error hlogged]
    exact ⟨rfl, rfl⟩
  · have hlogged : (config.withDebug debug).extent items.size = .ok extent := hextent
    rw [result_enumerate hitems hextent, result_enumerate hitems hlogged,
      (enumerate_eq_feed sink state hitems hextent).state_eq,
      (enumerate_eq_feed sink state hitems hlogged).state_eq]
    exact ⟨rfl, rfl⟩

/-- **Whether visits are logged makes no difference to what else is logged.** -/
theorem filter_events_enumerate (config : Config) (items : Items) (hsilent : sink.Silent)
    (state : σ) :
    (enumerate (config.withDebug true) items sink state).events.toList.filter (!·.isVisit) =
      (enumerate (config.withDebug false) items sink state).events.toList := by
  rcases items.walk_cases config with ⟨e, herror⟩ | ⟨extent, hitems, hextent⟩
  · have hlogged (debug : Bool) : items.walk (config.withDebug debug) = .error e := herror
    rw [enumerate_of_walk_eq_error (hlogged true), enumerate_of_walk_eq_error (hlogged false)]
    rfl
  · have hlogged (debug : Bool) : (config.withDebug debug).extent items.size = .ok extent := hextent
    have hcalls : ∀ call ∈ (sink.logAll state
          (sink.feed state (config.records items extent)).calls).zipIdx config.window.start.toNat,
        (callLog true call).filter (!·.isVisit) = callLog false call :=
      fun call hcall ↦ filter_callLog (hsilent.of_mem_logAll (List.fst_mem_of_mem_zipIdx hcall))
    rw [events_enumerate hitems (hlogged true) .zero, events_enumerate hitems (hlogged false) .zero,
      List.filter_append, List.filter_append, Config.filter_openingLog, List.filter_flatMap,
      List.filter_singleton, Outcome.isVisit_closingEvent]
    exact congrArg (_ ++ · ++ _) (List.flatMap_congr hcalls)

/-! ## The whole log -/

/-- A run that fails logs nothing. -/
theorem events_of_error {error : Error}
    (h : (enumerate config items sink state).result = .error error) :
    (enumerate config items sink state).events = #[] := by
  rcases items.walk_cases config with ⟨e, herror⟩ | ⟨extent, hitems, hextent⟩
  · rw [enumerate_of_walk_eq_error herror]
  · rw [result_enumerate hitems hextent] at h
    cases h

/-- **The log of a run that does not fail**, in terms of its own calls and its own outcome. -/
theorem events_of_ok {outcome : Outcome}
    (h : (enumerate config items sink state).result = .ok outcome) :
    ∃ extent all, config.extent items.size = .ok extent ∧ config.Lists items.size extent all ∧
      let start := config.window.start.toNat
      let calls := (enumerate config items sink.traced (state, [])).state.2
      (∀ i call, calls[i]? = some call → ∃ indices, all[start + i]? = some indices ∧
        call = ⟨if config.showNumbers then some (min (start + i + 1) maxOrdinal) else none,
          items.pick indices⟩) ∧
      outcome = .ofCode ((sink.visitAll state calls).2.getLast?.getD 0) outcome.statistics ∧
      (enumerate config items sink state).events.toList =
        config.openingLog items.size extent all ++
          ((sink.logAll state calls).zipIdx start).flatMap (callLog config.debug) ++
          [outcome.closingEvent (min (start + calls.length) maxOrdinal) calls.length] := by
  rcases items.walk_cases config with ⟨e, herror⟩ | ⟨extent, hitems, hextent⟩
  · rw [enumerate_of_walk_eq_error herror] at h
    cases h
  rw [result_enumerate hitems hextent] at h
  obtain rfl := Except.ok.inj h
  refine ⟨extent, _, hextent, config.lists_listing items.size extent, ?_⟩
  intro start calls
  have hcalls : calls = (sink.feed state (config.records items extent)).calls :=
    congrArg Prod.snd (enumerate_traced sink state [] hitems hextent)
  rw [hcalls]
  refine ⟨fun i call ↦ Config.getElem?_calls, ?_, events_enumerate hitems hextent _ sink state⟩
  rw [← Sink.code_feed_eq_getLast?, Outcome.statistics_ofCode]

/-- **What a run logs.**  Let `calls` be the records that the sink of a run is called with, and `run`
and `kept` the run without and with these kept beside the state of the sink, with visits logged or
not.

* Whether visits are logged makes no difference to the result of the run, the state of the sink or the
  calls, and if the sink logs nothing itself, the log with visits is that without but for the visits.
* A run that fails logs nothing.
* The log of any other run begins with where the run starts, if that is not at the first combination:
  at a later one, or behind the last.  Then the run is announced.  Then follows for each call, if
  visits are logged, its visit, with the true number of the combination and the items that the sink
  is called with, and directly behind that what the sink itself logs of the call.  The end is one
  event: that the sink has stopped the run, with the number of the combination of the last call and
  the code that it was answered with, or that the run has finished, and in both cases the number of
  calls. -/
theorem enumerate_log (config : Config) (items : Items) (sink : Sink σ) (state : σ) :
    let run := fun debug ↦ enumerate (config.withDebug debug) items sink state
    let kept := fun debug ↦
      (enumerate (config.withDebug debug) items sink.traced (state, [])).state
    ((run true).result = (run false).result ∧ (run true).state = (run false).state ∧
        kept true = kept false ∧
        (sink.Silent →
          (run true).events.toList.filter (!·.isVisit) = (run false).events.toList)) ∧
      ∀ debug, (∀ error, (run debug).result = .error error → (run debug).events = #[]) ∧
        ∀ outcome, (run debug).result = .ok outcome →
          ∃ extent all, config.extent items.size = .ok extent ∧
            config.Lists items.size extent all ∧
            let start := config.window.start.toNat
            let calls := (kept debug).2
            (∀ i call, calls[i]? = some call → ∃ indices, all[start + i]? = some indices ∧
              call = ⟨if config.showNumbers then some (min (start + i + 1) maxOrdinal) else none,
                items.pick indices⟩) ∧
            outcome = .ofCode ((sink.visitAll state calls).2.getLast?.getD 0) outcome.statistics ∧
            (run debug).events.toList =
              config.openingLog items.size extent all ++
                ((sink.logAll state calls).zipIdx start).flatMap (callLog debug) ++
                [outcome.closingEvent (min (start + calls.length) maxOrdinal) calls.length] := by
  intro run kept
  have hrun := fun debug ↦ enumerate_withDebug config debug items sink state
  have hkept := fun debug ↦ (enumerate_withDebug config debug items sink.traced (state, [])).2
  refine ⟨⟨?_, ?_, ?_, ?_⟩, fun debug ↦ ⟨?_, ?_⟩⟩
  · exact (hrun true).1.trans (hrun false).1.symm
  · exact (hrun true).2.trans (hrun false).2.symm
  · exact (hkept true).trans (hkept false).symm
  · intro hsilent
    exact filter_events_enumerate config items hsilent state
  · intro error herror
    exact events_of_error herror
  · intro outcome hok
    obtain ⟨extent, all, hextent, hall, hlog⟩ := events_of_ok hok
    exact ⟨extent, all, hextent, Config.lists_of_withDebug hall, hlog⟩

/-- The last pair of three items stops the run, which has passed over the first.  The records have no
numbers, but the visits have. -/
theorem enumerate_log_of_stopped :
    let config : Config :=
      { Config.default with window := ⟨1, 0⟩, sizes := ⟨2, some 2, by simp⟩ }
    let items := Items.ofList ["a", "b", "c"]
    let sink : Sink Nat :=
      ⟨fun calls record ↦ ⟨calls + 1, if record.items = ["b", "c"] then 7 else 0, []⟩⟩
    sink.Silent ∧
      (enumerate (config.withDebug true) items sink.traced (0, [])).state.2 =
        [⟨none, ["a", "c"]⟩, ⟨none, ["b", "c"]⟩] ∧
      (enumerate (config.withDebug true) items sink 0).result = .ok (.aborted 7 ⟨2, 1, 1⟩) ∧
      (enumerate (config.withDebug true) items sink 0).events.toList =
        [.seeked 1 2 [0, 2], .enumerating 3 2 2 1 0, .visit 2 ["a", "c"], .visit 3 ["b", "c"],
          .stopped 3 7 2] ∧
      (enumerate (config.withDebug false) items sink 0).events.toList =
        [.seeked 1 2 [0, 2], .enumerating 3 2 2 1 0, .stopped 3 7 2] := by
  intro config items sink
  have hsilent : sink.Silent := fun _ _ ↦ rfl
  have hitems : items.size < itemLimit := by decide
  have hextent : (config.withDebug true).extent items.size = .ok ⟨2, 2⟩ := rfl
  have hcalls : (enumerate (config.withDebug true) items sink.traced (0, [])).state.2 =
      [⟨none, ["a", "c"]⟩, ⟨none, ["b", "c"]⟩] :=
    congrArg Prod.snd (enumerate_eq_feed sink.traced (0, []) hitems hextent).state_eq
  have hresult : (enumerate (config.withDebug true) items sink 0).result =
      .ok (.aborted 7 ⟨2, 1, 1⟩) :=
    (result_enumerate hitems hextent sink 0).trans (congrArg Except.ok (by decide))
  obtain ⟨⟨-, -, -, hquiet⟩, hlog⟩ := enumerate_log config items sink 0
  obtain ⟨extent, all, hsame, hall, -, -, hevents⟩ := (hlog true).2 _ hresult
  obtain rfl : ⟨2, 2⟩ = extent := Except.ok.inj (hextent.symm.trans hsame)
  obtain rfl : all = [[0, 1], [0, 2], [1, 2]] :=
    hall.unique (config.lists_listing items.size ⟨2, 2⟩)
  rw [hcalls] at hevents
  exact ⟨hsilent, hcalls, hresult, hevents, (hquiet hsilent).symm.trans (congrArg _ hevents)⟩

end Combinations
