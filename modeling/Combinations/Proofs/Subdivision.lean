import Combinations.Proofs.Partition
import Combinations.Proofs.Text.Sink

/-!
# Running the windows of a split

Windows that split a run, run one behind the other, call a sink that never stops with what the run
itself calls it with, and write the same text (`Config.subdivide_delivers`).  Both are stated of what
runs leave behind: the sink keeps its calls, and the devices keep their bytes.

The argument has nothing to do with sinks or texts.  What a run delivers is a function of its
records, and the records of the windows put together are the records of the run
(`Config.Splits.flatMap_records`), because their slices of the listing are one slice.
-/

set_option autoImplicit false

namespace Combinations

variable {σ : Type} {config : Config} {items : Items} {extent : Extent} {sink : Sink σ} {total : Nat}

/-- Runs configurations one after the other into one sink. -/
def runInOrder (configs : List Config) (items : Items) (sink : Sink σ) (state : σ) : σ :=
  configs.foldl (fun state config ↦ (enumerate config items sink state).state) state

/-- The texts of runs, each of them into a new device without a bound, put together. -/
def textInOrder (configs : List Config) (items : Items) (flushFails : Bool) : ByteArray :=
  configs.foldr
    (fun config rest ↦
      (enumerateToText config items (.new none flushFails)).state.accepted ++ rest)
    ByteArray.empty

/-! ## Runs as records -/

theorem runInOrder_eq_feed {configs : List Config} (hitems : items.size < itemLimit)
    (hextent : ∀ config ∈ configs, config.extent items.size = .ok extent)
    (hsink : sink.NeverStops) (state : σ) :
    runInOrder configs items sink state =
      (sink.feed state (configs.flatMap (·.records items extent))).state := by
  induction configs generalizing state with
  | nil => rfl
  | cons config rest ih =>
    obtain ⟨hconfig, hrest⟩ := List.forall_mem_cons.mp hextent
    have hnext := ih hrest (enumerate config items sink state).state
    rw [(enumerate_eq_feed sink state hitems hconfig).state_eq] at hnext
    rw [List.flatMap_cons, Sink.feed_append (hsink.code_feed state _), ← hnext,
      ← (enumerate_eq_feed sink state hitems hconfig).state_eq]
    rfl

theorem textInOrder_eq_join {configs : List Config} (hitems : items.size < itemLimit)
    (hextent : ∀ config ∈ configs, config.extent items.size = .ok extent) (flushFails : Bool) :
    textInOrder configs items flushFails =
      (String.join (configs.flatMap fun config ↦
        (config.records items extent).map config.style.render)).toUTF8 := by
  induction configs with
  | nil => rfl
  | cons config rest ih =>
    obtain ⟨hconfig, hrest⟩ := List.forall_mem_cons.mp hextent
    have hnext := ih hrest
    rw [textInOrder] at hnext ⊢
    rw [List.foldr_cons, hnext, accepted_enumerateToText hitems hconfig, List.flatMap_cons,
      String.join_append]
    rfl

/-! ## The records of a split -/

theorem Config.length_records
    (hlength : (extent.listing items.size (config.visitsEmpty extent)).length = total) :
    (config.records items extent).length = (config.window.select total).remaining := by
  rw [← length_numbered] at hlength
  rw [Config.records, List.length_map, config.window.length_slice hlength]

/-- **The records of the windows of a split are those of the run.** -/
theorem Config.Splits.flatMap_records {windows : List Config} (h : config.Splits total windows)
    (hlength : (extent.listing items.size (config.visitsEmpty extent)).length = total) :
    windows.flatMap (·.records items extent) = config.records items extent := by
  rw [← length_numbered] at hlength
  have hrecords : ∀ window ∈ windows, window.records items extent =
      (window.window.slice (numbered (extent.listing items.size (config.visitsEmpty extent)))).map
        (recordOf config items) := by
    intro window hmem
    rw [h.eq_withWindow window hmem]
    rfl
  rw [List.flatMap_congr hrecords, ← List.map_flatMap, h.flatMap_slice _ hlength, Config.records]

/-- A window of a split resolves like the configuration that was split. -/
theorem Config.Splits.extent_eq {windows : List Config} (h : config.Splits total windows)
    (hextent : config.extent items.size = .ok extent) :
    ∀ window ∈ windows, window.extent items.size = .ok extent := by
  intro window hmem
  rw [h.eq_withWindow window hmem, ← hextent]
  rfl

/-- **The windows of a split leave a sink as the run leaves it**, unless it stops runs. -/
theorem Config.Splits.runInOrder_eq {windows : List Config} (h : config.Splits total windows)
    (hitems : items.size < itemLimit) (hextent : config.extent items.size = .ok extent)
    (hlength : (extent.listing items.size (config.visitsEmpty extent)).length = total)
    (hsink : sink.NeverStops) (state : σ) :
    runInOrder windows items sink state = (enumerate config items sink state).state := by
  rw [runInOrder_eq_feed hitems (h.extent_eq hextent) hsink, h.flatMap_records hlength,
    (enumerate_eq_feed sink state hitems hextent).state_eq]

/-- **The windows of a split write the text of the run.** -/
theorem Config.Splits.textInOrder_eq {windows : List Config} (h : config.Splits total windows)
    (hitems : items.size < itemLimit) (hextent : config.extent items.size = .ok extent)
    (hlength : (extent.listing items.size (config.visitsEmpty extent)).length = total)
    (flushFails : Bool) :
    textInOrder windows items flushFails =
      (enumerateToText config items (.new none flushFails)).state.accepted := by
  have hstyles : ∀ window ∈ windows,
      (window.records items extent).map window.style.render =
        (window.records items extent).map config.style.render := by
    intro window hmem
    have hstyle : window.style = config.style := by
      rw [h.eq_withWindow window hmem]
      rfl
    rw [hstyle]
  rw [textInOrder_eq_join hitems (h.extent_eq hextent), List.flatMap_congr hstyles,
    ← List.map_flatMap, h.flatMap_records hlength, accepted_enumerateToText hitems hextent,
    Config.text, TextStyle.text]

/-! ## How many are selected -/

/-- A run that keeps its records keeps as many as its window selects. -/
theorem size_collect (hitems : items.size < itemLimit)
    (hextent : config.extent items.size = .ok extent)
    (hlength : (extent.listing items.size (config.visitsEmpty extent)).length = total) :
    (enumerate config items Sink.collect #[]).state.size =
      (config.window.select total).remaining := by
  rw [(enumerate_eq_feed Sink.collect #[] hitems hextent).state_eq, Sink.feed_collect,
    Array.empty_append, List.size_toArray, Config.length_records hlength]

/-- **A run can be split.**  Let `selected` be the number of combinations that a run delivers.  Its
configuration is split into `parts` windows, or into `selected` windows if those are fewer.  They lie
one behind the other from the start of the run on, none of them is empty, their limits add up to
`selected` and differ by at most one, and apart from the window nothing of the configuration is
changed.

However often windows are split further, no split fails, and in the end the windows together make the
same calls to a sink that does not stop, and write the same text, as the run itself. -/
theorem Config.subdivide_delivers (hitems : items.size < itemLimit)
    (htotal : config.total items.size = .ok total) :
    let selected := (enumerate config items Sink.collect #[]).state.size
    let start := min config.window.start.toNat total
    (∀ parts, 0 < parts → ∃ windows,
      config.partition items.size parts =
          .ok (.partitioned total start selected windows.length, windows) ∧
        windows.length = min parts selected ∧
        Window.Tiles start (windows.map (·.window)) (start + selected) ∧
        (windows.map (·.window.limit.toNat)).sum = selected ∧
        (∀ a ∈ windows, ∀ b ∈ windows, a.window.limit.toNat ≤ b.window.limit.toNat + 1) ∧
        ∀ window ∈ windows,
          0 < window.window.limit.toNat ∧ window = config.withWindow window.window) ∧
    ∀ parts : List Nat, (∀ p ∈ parts, 0 < p) → ∃ events windows,
      subdivide items.size parts [config] = (events, .ok windows) ∧
        (∀ {σ : Type} (sink : Sink σ) (state : σ), sink.NeverStops →
          runInOrder windows items sink.traced (state, []) =
            (enumerate config items sink.traced (state, [])).state) ∧
        ∀ flushFails, textInOrder windows items flushFails =
          (enumerateToText config items (.new none flushFails)).state.accepted := by
  intro selected start
  obtain ⟨extent, hextent, hlength, hle⟩ := Config.of_total_eq_ok htotal
  have hselected : selected = (config.window.select total).remaining :=
    size_collect hitems hextent hlength
  refine ⟨?_, ?_⟩
  · intro parts hparts
    rw [hselected]
    have htiles := config.tiles_split hparts hle
    have hsum := htiles.sum_limit
    rw [Nat.add_sub_cancel_left, List.map_map] at hsum
    refine ⟨config.split total parts, Config.partition_eq hparts htotal,
      config.length_split total parts, htiles, hsum, config.limit_split hparts hle, ?_⟩
    intro window hmem
    exact ⟨htiles.limit_pos _ (List.mem_map_of_mem hmem),
      (config.splits_split hparts hle).eq_withWindow window hmem⟩
  · intro parts hparts
    obtain ⟨events, windows, hsubdivide, hsplits⟩ :=
      Config.splits_subdivide hparts htotal (config.splits_self total)
    refine ⟨events, windows, hsubdivide, ?_, ?_⟩
    · intro σ sink state hsink
      exact hsplits.runInOrder_eq hitems hextent hlength hsink.traced (state, [])
    · intro flushFails
      exact hsplits.textInOrder_eq hitems hextent hlength flushFails

/-- Seven of the ten combinations of one or two out of four items, in six windows. -/
theorem Config.subdivide_delivers_of_four :
    let config : Config := { Config.default with window := ⟨1, 7⟩, sizes := ⟨1, some 2, by simp⟩ }
    let items := Items.ofList ["a", "b", "c", "d"]
    items.size < itemLimit ∧ config.total items.size = .ok 10 ∧
      ∃ events windows, subdivide items.size [2, 3] [config] = (events, .ok windows) ∧
        windows.map (·.window) = [⟨1, 2⟩, ⟨3, 1⟩, ⟨4, 1⟩, ⟨5, 1⟩, ⟨6, 1⟩, ⟨7, 1⟩] ∧
        Sink.collect.NeverStops ∧
        runInOrder windows items Sink.collect.traced (#[], []) =
          (enumerate config items Sink.collect.traced (#[], [])).state ∧
        textInOrder windows items true =
          (enumerateToText config items (.new none true)).state.accepted := by
  intro config items
  have hitems : items.size < itemLimit := by decide
  have htotal : config.total items.size = .ok 10 := by decide +kernel
  have hcollect : Sink.collect.NeverStops := fun _ _ ↦ rfl
  obtain ⟨-, hsubdivide⟩ := Config.subdivide_delivers hitems htotal
  obtain ⟨events, windows, heq, hruns, htexts⟩ := hsubdivide [2, 3] (by decide)
  have hwindows : (subdivide items.size [2, 3] [config]).2.map (List.map (·.window)) =
      .ok [⟨1, 2⟩, ⟨3, 1⟩, ⟨4, 1⟩, ⟨5, 1⟩, ⟨6, 1⟩, ⟨7, 1⟩] := by decide +kernel
  rw [heq] at hwindows
  exact ⟨hitems, htotal, events, windows, heq, Except.ok.inj hwindows, hcollect,
    hruns Sink.collect #[] hcollect, htexts true⟩

end Combinations
