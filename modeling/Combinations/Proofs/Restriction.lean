import Combinations.Proofs.Subdivision
import Mathlib.Data.List.DropRight

/-!
# Runs restricted to a part of the whole run

The whole run of a configuration is its run without a window, and `Config.wholeRun` is what it
delivers.  A configuration can be restricted to a part of that in two ways, and for both the part is
said in terms of the whole run alone:

* `Config.withWindow_delivers` — restricted to a window, a run delivers the records whose ordinals lie
  in the window.  A limit of 0 is no limit, so no window is empty by its limit
  (`Config.withWindow_limit_zero`).
* `Config.fromEnd_delivers` — moved to the end, a run delivers the last records, or the first of those
  if it has a limit.

Either way the restriction is a window, and what a run restricted to a window delivers is a slice of
the whole run (`Config.enumerate_withWindow`).
-/

set_option autoImplicit false

namespace Combinations

variable {σ : Type} {config moved : Config} {items : Items} {extent : Extent} {n : Nat}

namespace Config

/-! ## The whole run -/

/-- The records that the run without a window delivers, in order. -/
def wholeRun (config : Config) (items : Items) : List Record :=
  (enumerate (config.withWindow ⟨0, 0⟩) items Sink.collect #[]).state.toList

theorem wholeRun_eq (hitems : items.size < itemLimit)
    (hextent : config.extent items.size = .ok extent) :
    config.wholeRun items =
      (numbered (extent.listing items.size (config.visitsEmpty extent))).map
        (recordOf config items) := by
  have hwhole : (config.withWindow ⟨0, 0⟩).extent items.size = .ok extent := hextent
  rw [wholeRun, (enumerate_eq_feed Sink.collect #[] hitems hwhole).state_eq, Sink.feed_collect,
    Array.empty_append]
  rfl

theorem length_wholeRun (hitems : items.size < itemLimit)
    (hextent : config.extent items.size = .ok extent) :
    (config.wholeRun items).length =
      (extent.listing items.size (config.visitsEmpty extent)).length := by
  rw [wholeRun_eq hitems hextent, List.length_map, length_numbered]

theorem records_withWindow (hitems : items.size < itemLimit)
    (hextent : config.extent items.size = .ok extent) (window : Window) :
    (config.withWindow window).records items extent = window.slice (config.wholeRun items) := by
  rw [wholeRun_eq hitems hextent, Window.slice_map]
  rfl

/-- **A run restricted to a window delivers a slice of the whole run**, up to and including the first
record that its sink answers with a code other than 0. -/
theorem enumerate_withWindow (hitems : items.size < itemLimit)
    (hextent : config.extent items.size = .ok extent) (window : Window) (sink : Sink σ) (state : σ) :
    let run := config.withWindow window
    let fed := sink.feed state (window.slice (config.wholeRun items))
    (enumerate run items sink.traced (state, [])).state = (fed.state, fed.calls) ∧
      (enumerate run items sink state).result.map Outcome.code = .ok fed.code := by
  intro run fed
  have hrun : run.extent items.size = .ok extent := hextent
  have htraced := enumerate_traced sink state [] hitems hrun
  obtain ⟨-, statistics, hresult, -⟩ := enumerate_eq_feed sink state hitems hrun
  rw [records_withWindow hitems hextent] at htraced hresult
  refine ⟨htraced, ?_⟩
  rw [hresult]
  exact congrArg Except.ok (Outcome.code_ofCode fed.code statistics)

/-- Runs restricted to windows, one after the other, deliver those slices, unless their sink stops
one of them. -/
theorem runInOrder_withWindow (hitems : items.size < itemLimit)
    (hextent : config.extent items.size = .ok extent) {sink : Sink σ} (hsink : sink.NeverStops)
    (state : σ) (windows : List Window) :
    runInOrder (windows.map config.withWindow) items sink state =
      (sink.feed state (windows.flatMap (·.slice (config.wholeRun items)))).state := by
  have hruns : ∀ run ∈ windows.map config.withWindow, run.extent items.size = .ok extent :=
    List.forall_mem_map.mpr fun _ _ ↦ hextent
  rw [runInOrder_eq_feed hitems hruns hsink, List.flatMap_map]
  simp only [records_withWindow hitems hextent]

/-! ## Restricted to a window -/

/-- **A run restricted to a window delivers the records of the whole run whose ordinals lie in it.**
These are the ordinals from `start` on and, unless the limit is 0, below `start` and the limit
together, however large that is.  The records are the same as in the whole run, numbers included.

So a window that is not empty, and one that begins where it ends, deliver in turn what the window made
up of both delivers. -/
theorem withWindow_delivers (hitems : items.size < itemLimit)
    (hextent : config.extent items.size = .ok extent) :
    (∀ {σ : Type} (sink : Sink σ) (state : σ) (start limit : UInt64),
      let selected := (config.wholeRun items).zipIdx.filter fun x ↦
        start.toNat ≤ x.2 ∧ (limit.toNat = 0 ∨ x.2 < start.toNat + limit.toNat)
      let run := config.withWindow ⟨start, limit⟩
      let fed := sink.feed state (selected.map (·.1))
      (enumerate run items sink.traced (state, [])).state = (fed.state, fed.calls) ∧
        (enumerate run items sink state).result.map Outcome.code = .ok fed.code) ∧
      ∀ {σ : Type} (sink : Sink σ) (state : σ) (start first second : UInt64), sink.NeverStops →
        0 < first.toNat → start.toNat + first.toNat ≤ maxOrdinal →
        first.toNat + second.toNat ≤ maxOrdinal →
        runInOrder [config.withWindow ⟨start, first⟩, config.withWindow ⟨start + first, second⟩]
            items sink.traced (state, []) =
          (enumerate (config.withWindow ⟨start, if second = 0 then 0 else first + second⟩) items
            sink.traced (state, [])).state := by
  refine ⟨?_, ?_⟩
  · intro σ sink state start limit selected
    have hslice := Window.slice_eq_filter ⟨start, limit⟩ (config.wholeRun items)
    have hdelivers := enumerate_withWindow hitems hextent ⟨start, limit⟩ sink state
    rwa [hslice] at hdelivers
  · intro σ sink state start first second hsink hfirst hstart hsum
    have hinTurn := runInOrder_withWindow hitems hextent hsink.traced (state, [])
    have htwo := hinTurn [⟨start, first⟩, ⟨start + first, second⟩]
    have hone := hinTurn [⟨start, if second = 0 then 0 else first + second⟩]
    rw [List.flatMap_cons, List.flatMap_singleton,
      Window.slice_append_slice hfirst hstart hsum] at htwo
    rw [List.flatMap_singleton, ← htwo] at hone
    exact hone.symm

/-- Of the six pairs of four items, the last two by a window that reaches past the largest ordinal, and
five in two windows. -/
theorem withWindow_delivers_of_pairs :
    let config : Config := { Config.default with showNumbers := true, sizes := ⟨2, some 2, by simp⟩ }
    let items := Items.ofList ["a", "b", "c", "d"]
    let start := (#[], [])
    items.size < itemLimit ∧ config.extent items.size = .ok ⟨2, 2⟩ ∧
      (enumerate (config.withWindow ⟨4, 18446744073709551615⟩) items
        Sink.collect.traced start).state.2 = [⟨some 5, ["b", "d"]⟩, ⟨some 6, ["c", "d"]⟩] ∧
      Sink.collect.NeverStops ∧ 0 < (2 : UInt64).toNat ∧
      (1 : UInt64).toNat + (2 : UInt64).toNat ≤ maxOrdinal ∧
      (2 : UInt64).toNat + (3 : UInt64).toNat ≤ maxOrdinal ∧
      runInOrder [config.withWindow ⟨1, 2⟩, config.withWindow ⟨1 + 2, 3⟩] items
          Sink.collect.traced start =
        (enumerate (config.withWindow ⟨1, 5⟩) items Sink.collect.traced start).state := by
  intro config items start
  have hitems : items.size < itemLimit := by decide
  have hextent : config.extent items.size = .ok ⟨2, 2⟩ := rfl
  have hwhole : config.wholeRun items =
      [⟨some 1, ["a", "b"]⟩, ⟨some 2, ["a", "c"]⟩, ⟨some 3, ["a", "d"]⟩,
        ⟨some 4, ["b", "c"]⟩, ⟨some 5, ["b", "d"]⟩, ⟨some 6, ["c", "d"]⟩] :=
    wholeRun_eq hitems hextent
  have hcollect : Sink.collect.NeverStops := fun _ _ ↦ rfl
  obtain ⟨hdelivers, hjoin⟩ := withWindow_delivers hitems hextent
  obtain ⟨hlast, -⟩ := hdelivers Sink.collect #[] 4 18446744073709551615
  rw [hwhole] at hlast
  exact ⟨hitems, hextent, congrArg Prod.snd hlast, hcollect, by decide, by decide, by decide,
    hjoin Sink.collect #[] 1 2 3 hcollect (by decide) (by decide) (by decide)⟩

/-- A limit of 0 does not make a window empty.  No ordinal is at least 1 and below 1 and 0 together, but
the run restricted to that window delivers all from the second record on.  So two windows, one of
which has a limit of 0, do not make up the window of their limits together. -/
theorem withWindow_limit_zero :
    let config : Config := { Config.default with sizes := ⟨1, some 1, by simp⟩ }
    let items := Items.ofList ["a", "b"]
    let delivered := fun windows ↦
      (runInOrder (windows.map config.withWindow) items Sink.collect #[]).toList
    items.size < itemLimit ∧ config.extent items.size = .ok ⟨1, 1⟩ ∧
      ((config.wholeRun items).zipIdx.filter fun x ↦ 1 ≤ x.2 ∧ x.2 < 1 + 0).map (·.1) = [] ∧
      delivered [⟨1, 0⟩] = [⟨none, ["b"]⟩] ∧
      delivered [⟨0, 0⟩, ⟨0 + 0, 1⟩] = [⟨none, ["a"]⟩, ⟨none, ["b"]⟩, ⟨none, ["a"]⟩] ∧
      delivered [⟨0, 0 + 1⟩] = [⟨none, ["a"]⟩] ∧
      delivered [⟨0, 1⟩, ⟨0 + 1, 0⟩] = [⟨none, ["a"]⟩, ⟨none, ["b"]⟩] ∧
      delivered [⟨0, 1 + 0⟩] = [⟨none, ["a"]⟩] := by
  intro config items delivered
  have hitems : items.size < itemLimit := by decide
  have hextent : config.extent items.size = .ok ⟨1, 1⟩ := rfl
  have hwhole : config.wholeRun items = [⟨none, ["a"]⟩, ⟨none, ["b"]⟩] :=
    wholeRun_eq hitems hextent
  have hdelivered : ∀ windows, delivered windows =
      windows.flatMap (·.slice [⟨none, ["a"]⟩, ⟨none, ["b"]⟩]) := by
    intro windows
    have hcollect : Sink.collect.NeverStops := fun _ _ ↦ rfl
    have hruns := runInOrder_withWindow hitems hextent hcollect #[] windows
    rw [Sink.feed_collect, hwhole, Array.empty_append] at hruns
    exact congrArg Array.toList hruns
  refine ⟨hitems, hextent, ?_, ?_, ?_, ?_, ?_, ?_⟩
  · rw [hwhole]
    rfl
  all_goals
    rw [hdelivered]
    rfl

/-! ## Moved to the end -/

theorem of_fromEnd_eq_ok {count : UInt64} (h : config.fromEnd n count = .ok moved) :
    ∃ total, config.total n = .ok total ∧
      moved = config.withWindow ⟨UInt64.ofNat (total - count.toNat), config.window.limit⟩ := by
  cases htotal : config.total n with
  | error e =>
    rw [fromEnd, htotal] at h
    cases h
  | ok total =>
    rw [fromEnd, htotal] at h
    exact ⟨total, rfl, (Except.ok.inj h).symm⟩

/-- **A run moved to the end delivers the last records of the whole run**, as many as it was asked for
or all of them if there are fewer, and of those the first ones if it has a limit.  Nothing but the
start of its window is changed, and where that was before has no part in it. -/
theorem fromEnd_delivers {count : UInt64} (hitems : items.size < itemLimit)
    (hmoved : config.fromEnd items.size count = .ok moved) :
    let whole := config.wholeRun items
    let last := whole.rtake count.toNat
    let limit := config.window.limit
    let records := if limit = 0 then last else last.take limit.toNat
    (∀ {σ : Type} (sink : Sink σ) (state : σ),
      let fed := sink.feed state records
      (enumerate moved items sink.traced (state, [])).state = (fed.state, fed.calls) ∧
        (enumerate moved items sink state).result.map Outcome.code = .ok fed.code) ∧
      config.total items.size = .ok whole.length ∧
      last.length = min count.toNat whole.length ∧
      (limit ≠ 0 → records.length = min limit.toNat (min count.toNat whole.length)) ∧
      moved = config.withWindow ⟨moved.window.start, limit⟩ ∧
      ∀ start, (config.withWindow ⟨start, limit⟩).fromEnd items.size count = .ok moved := by
  intro whole last limit records
  obtain ⟨total, htotal, rfl⟩ := of_fromEnd_eq_ok hmoved
  obtain ⟨extent, hextent, hlength, hle⟩ := of_total_eq_ok htotal
  have hwhole : whole.length = total := (length_wholeRun hitems hextent).trans hlength
  have hlast : last.length = min count.toNat whole.length := by
    rw [show last = whole.drop (whole.length - count.toNat) from rfl, List.length_drop]
    omega
  have hstart : (UInt64.ofNat (total - count.toNat)).toNat = whole.length - count.toNat := by
    rw [toNat_ofNat_of_le (by omega), hwhole]
  have hslice : Window.slice ⟨UInt64.ofNat (total - count.toNat), limit⟩ whole = records := by
    rw [Window.slice_eq_ite]
    simp only [hstart]
    rfl
  refine ⟨?_, htotal.trans (congrArg Except.ok hwhole.symm), hlast, ?_, rfl, fun start ↦ hmoved⟩
  · intro σ sink state
    have hdelivers := enumerate_withWindow hitems hextent
      ⟨UInt64.ofNat (total - count.toNat), limit⟩ sink state
    rwa [hslice] at hdelivers
  · intro hlimit
    rw [show records = last.take limit.toNat from if_neg hlimit, List.length_take, hlast]

/-- The first two of the last three of six pairs, wherever the window was before. -/
theorem fromEnd_delivers_of_pairs :
    let config : Config :=
      { Config.default with
        window := ⟨5, 2⟩, showNumbers := true, sizes := ⟨2, some 2, by simp⟩ }
    let items := Items.ofList ["a", "b", "c", "d"]
    items.size < itemLimit ∧ config.fromEnd items.size 3 = .ok (config.withWindow ⟨3, 2⟩) ∧
      (enumerate (config.withWindow ⟨3, 2⟩) items Sink.collect.traced (#[], [])).state.2 =
        [⟨some 4, ["b", "c"]⟩, ⟨some 5, ["b", "d"]⟩] ∧
      config.total items.size = .ok 6 ∧
      (config.withWindow ⟨0, 2⟩).fromEnd items.size 3 = .ok (config.withWindow ⟨3, 2⟩) := by
  intro config items
  have hitems : items.size < itemLimit := by decide
  have hextent : config.extent items.size = .ok ⟨2, 2⟩ := rfl
  have hmoved : config.fromEnd items.size 3 = .ok (config.withWindow ⟨3, 2⟩) := by decide +kernel
  have hwhole : config.wholeRun items =
      [⟨some 1, ["a", "b"]⟩, ⟨some 2, ["a", "c"]⟩, ⟨some 3, ["a", "d"]⟩,
        ⟨some 4, ["b", "c"]⟩, ⟨some 5, ["b", "d"]⟩, ⟨some 6, ["c", "d"]⟩] :=
    wholeRun_eq hitems hextent
  obtain ⟨hdelivers, htotal, -, -, -, hagain⟩ := fromEnd_delivers hitems hmoved
  obtain ⟨hlast, -⟩ := hdelivers Sink.collect #[]
  rw [hwhole] at hlast htotal
  exact ⟨hitems, hmoved, congrArg Prod.snd hlast, htotal, hagain 0⟩

end Config
end Combinations
