import Combinations.Proofs.Enumerate

/-!
# Using one sink again and again

A sink belongs to its caller, who may hand records to it directly and run configurations into it, in
any order and as often as wanted.  Each of these is a `Use` of the sink.

* Whatever the uses are, they come down to calls of the sink with records, one after the other
  (`Sink.exists_calls_useAll`).  So what holds after any calls holds at every moment of any uses.
* A run that fails does not call the sink.  The uses without the runs that fail, `Sink.effective`,
  leave the sink as all of them do (`Sink.useAll_effective`).
-/

set_option autoImplicit false

namespace Combinations

/-- One use of a sink. -/
inductive Use where
  /-- A record is handed to it directly. -/
  | visit (record : Record)
  /-- A run delivers its combinations to it. -/
  | run (config : Config) (items : Items)

/-! ## Runs that fail -/

/-- A run fails before its sink is called, or it has sizes to go through. -/
theorem Items.walk_cases (items : Items) (config : Config) :
    (∃ e, items.walk config = .error e) ∨
      ∃ extent, items.size < itemLimit ∧ config.extent items.size = .ok extent := by
  rw [Items.walk, Walk.ofConfig]
  split
  · next hitems =>
    cases hextent : config.extent items.size with
    | error e => exact .inl ⟨e, rfl⟩
    | ok extent => exact .inr ⟨extent, hitems, rfl⟩
  · exact .inl ⟨_, rfl⟩

/-- **A run that fails leaves its sink alone**, and logs nothing. -/
theorem enumerate_of_walk_eq_error {σ : Type} {config : Config} {items : Items} {e : Error}
    (h : items.walk config = .error e) (sink : Sink σ) (state : σ) :
    enumerate config items sink state = ⟨state, #[], .error e⟩ := by
  rw [enumerate, h]

namespace Sink

variable {σ : Type} {sink : Sink σ} {state : σ}

/-- The state of a sink after one use. -/
def use (sink : Sink σ) (state : σ) : Use → σ
  | .visit record => (sink.visit state record).state
  | .run config items => (enumerate config items sink state).state

/-- The state of a sink after a list of uses. -/
def useAll (sink : Sink σ) (state : σ) (uses : List Use) : σ := uses.foldl sink.use state

theorem useAll_cons (sink : Sink σ) (state : σ) (u : Use) (rest : List Use) :
    sink.useAll state (u :: rest) = sink.useAll (sink.use state u) rest := rfl

/-! ## Uses as calls -/

theorem exists_calls_use (sink : Sink σ) (state : σ) (before : List Record) (u : Use) :
    ∃ calls, sink.traced.use (state, before) u = (sink.use state u, before ++ calls) ∧
      (sink.visitAll state calls).1 = sink.use state u := by
  cases u with
  | visit record => exact ⟨[record], rfl, rfl⟩
  | run config items =>
    rcases items.walk_cases config with ⟨e, hwalk⟩ | ⟨extent, hitems, hextent⟩
    · refine ⟨[], ?_, ?_⟩
      · rw [use, use, enumerate_of_walk_eq_error hwalk, enumerate_of_walk_eq_error hwalk,
          List.append_nil]
      · rw [use, enumerate_of_walk_eq_error hwalk, visitAll_nil]
    · have hstate := (enumerate_eq_feed sink state hitems hextent).state_eq
      refine ⟨(sink.feed state (config.records items extent)).calls, ?_, ?_⟩
      · rw [use, use, enumerate_traced sink state before hitems hextent, hstate]
      · rw [use, hstate, visitAll_calls_feed]

/-- **Uses of a sink come down to calls of it.** -/
theorem exists_calls_useAll (sink : Sink σ) (state : σ) (before : List Record) (uses : List Use) :
    ∃ calls, sink.traced.useAll (state, before) uses = (sink.useAll state uses, before ++ calls) ∧
      (sink.visitAll state calls).1 = sink.useAll state uses := by
  induction uses generalizing state before with
  | nil => exact ⟨[], by rw [List.append_nil]; rfl, rfl⟩
  | cons u rest ih =>
    obtain ⟨calls, htraced, hcalls⟩ := sink.exists_calls_use state before u
    obtain ⟨more, htraced', hmore⟩ := ih (sink.use state u) (before ++ calls)
    refine ⟨calls ++ more, ?_, ?_⟩
    · rw [useAll_cons, htraced, htraced', useAll_cons, List.append_assoc]
    · rw [visitAll_append, hcalls, hmore, useAll_cons]

theorem useAll_map_visit (sink : Sink σ) (state : σ) (records : List Record) :
    sink.useAll state (records.map .visit) = (sink.visitAll state records).1 := by
  induction records generalizing state with
  | nil => rfl
  | cons record rest ih => exact ih (sink.visit state record).state

/-! ## Uses without the runs that fail -/

/-- The uses of a list without the runs that fail. -/
def effective (sink : Sink σ) (state : σ) : List Use → List Use
  | [] => []
  | .visit record :: rest =>
    .visit record :: sink.effective (sink.use state (.visit record)) rest
  | .run config items :: rest =>
    match (enumerate config items sink state).result with
    | .ok _ => .run config items :: sink.effective (sink.use state (.run config items)) rest
    | .error _ => sink.effective (sink.use state (.run config items)) rest

/-- **The runs that fail can be left out.** -/
theorem useAll_effective (sink : Sink σ) (state : σ) (uses : List Use) :
    sink.useAll state (sink.effective state uses) = sink.useAll state uses := by
  induction uses generalizing state with
  | nil => rfl
  | cons u rest ih =>
    cases u with
    | visit record => exact ih _
    | run config items =>
      rw [effective]
      split
      · exact ih _
      · next e herror =>
        rcases items.walk_cases config with ⟨e, hwalk⟩ | ⟨extent, hitems, hextent⟩
        · have hsame : sink.use state (.run config items) = state := by
            rw [use, enumerate_of_walk_eq_error hwalk]
          rw [useAll_cons, hsame, ih]
        · obtain ⟨-, statistics, hresult, -⟩ := enumerate_eq_feed sink state hitems hextent
          rw [hresult] at herror
          cases herror

end Sink
end Combinations
