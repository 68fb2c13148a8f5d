import Combinations.Sink

/-!
# Feeding a sink

`Sink.feed` gives a sink the records of a list one after the other, up to and including the first
that it answers with a code other than 0.  Statements about runs compare a run with this: it has no
walk, no limit and no log, only a list of records that is there from the beginning.

`Sink.visitAll` calls a sink with the records of a list whatever it answers.  It says what state calls
lead to, wherever they come from: those of a feeding lead to its state (`visitAll_calls_feed`).

The records that a sink is called with are not part of its state, and a sink may well forget them.
`Sink.traced` is the same sink with the calls kept beside the state, so that a statement about its
state says which calls were made (`feed_traced`).
-/

set_option autoImplicit false

namespace Combinations

/-- What comes of feeding records to a sink. -/
structure Feeding (σ : Type) where
  state : σ
  /-- The records that the sink was called with, in order. -/
  calls : List Record
  /-- The code that the last call was answered with if it stopped the sink, or 0. -/
  code : Int32

namespace Sink

variable {σ : Type}

/-- Feeds records to a sink, up to and including the first that stops it. -/
def feed (sink : Sink σ) (state : σ) : List Record → Feeding σ
  | [] => ⟨state, [], 0⟩
  | record :: rest =>
    let response := sink.visit state record
    if response.code ≠ 0 then ⟨response.state, [record], response.code⟩
    else
      let after := sink.feed response.state rest
      { after with calls := record :: after.calls }

variable {sink : Sink σ} {state : σ} {record : Record}

@[simp] theorem feed_nil (sink : Sink σ) (state : σ) : sink.feed state [] = ⟨state, [], 0⟩ := rfl

theorem feed_cons_of_stop (h : (sink.visit state record).code ≠ 0) (rest : List Record) :
    sink.feed state (record :: rest) =
      ⟨(sink.visit state record).state, [record], (sink.visit state record).code⟩ := by
  rw [feed]
  exact if_pos h

theorem feed_cons_of_go (h : (sink.visit state record).code = 0) (rest : List Record) :
    sink.feed state (record :: rest) =
      { sink.feed (sink.visit state record).state rest with
        calls := record :: (sink.feed (sink.visit state record).state rest).calls } := by
  rw [feed]
  exact if_neg (not_not_intro h)

/-- As long as nothing stops the sink, lists are fed one after the other. -/
theorem feed_append {front : List Record} (h : (sink.feed state front).code = 0)
    (rest : List Record) :
    sink.feed state (front ++ rest) =
      { sink.feed (sink.feed state front).state rest with
        calls := front ++ (sink.feed (sink.feed state front).state rest).calls } := by
  induction front generalizing state with
  | nil => rfl
  | cons record front ih =>
    by_cases hcode : (sink.visit state record).code = 0
    · rw [feed_cons_of_go hcode] at h
      rw [List.cons_append, feed_cons_of_go hcode, feed_cons_of_go hcode, ih h]
      rfl
    · rw [feed_cons_of_stop hcode] at h
      exact absurd h hcode

/-- The sink is called with the first of the records. -/
theorem calls_feed_prefix (sink : Sink σ) (state : σ) (records : List Record) :
    (sink.feed state records).calls <+: records := by
  induction records generalizing state with
  | nil => exact List.prefix_rfl
  | cons record rest ih =>
    by_cases hcode : (sink.visit state record).code = 0
    · rw [feed_cons_of_go hcode]
      exact List.prefix_cons_inj record |>.mpr (ih _)
    · rw [feed_cons_of_stop hcode]
      exact ⟨rest, rfl⟩

/-- A sink that is not stopped is called with all records. -/
theorem calls_feed_of_code_eq_zero {records : List Record}
    (h : (sink.feed state records).code = 0) : (sink.feed state records).calls = records := by
  induction records generalizing state with
  | nil => rfl
  | cons record rest ih =>
    by_cases hcode : (sink.visit state record).code = 0
    · rw [feed_cons_of_go hcode] at h ⊢
      exact congrArg (record :: ·) (ih h)
    · rw [feed_cons_of_stop hcode] at h
      exact absurd h hcode

/-! ## Going on whatever the answers are -/

/-- Calls a sink with records, whatever it answers; with the codes of the answers. -/
def visitAll (sink : Sink σ) (state : σ) : List Record → σ × List Int32
  | [] => (state, [])
  | record :: rest =>
    let response := sink.visit state record
    let after := sink.visitAll response.state rest
    (after.1, response.code :: after.2)

@[simp] theorem visitAll_nil (sink : Sink σ) (state : σ) : sink.visitAll state [] = (state, []) := rfl

theorem visitAll_cons (sink : Sink σ) (state : σ) (record : Record) (rest : List Record) :
    sink.visitAll state (record :: rest) =
      ((sink.visitAll (sink.visit state record).state rest).1,
        (sink.visit state record).code ::
          (sink.visitAll (sink.visit state record).state rest).2) := rfl

theorem visitAll_append (sink : Sink σ) (state : σ) (front back : List Record) :
    sink.visitAll state (front ++ back) =
      ((sink.visitAll (sink.visitAll state front).1 back).1,
        (sink.visitAll state front).2 ++ (sink.visitAll (sink.visitAll state front).1 back).2) := by
  induction front generalizing state with
  | nil => rfl
  | cons record front ih =>
    rw [List.cons_append, visitAll_cons, ih, visitAll_cons]
    rfl

/-- The calls of a feeding lead to its state. -/
theorem visitAll_calls_feed (sink : Sink σ) (state : σ) (records : List Record) :
    (sink.visitAll state (sink.feed state records).calls).1 = (sink.feed state records).state := by
  induction records generalizing state with
  | nil => rfl
  | cons record rest ih =>
    by_cases hcode : (sink.visit state record).code = 0
    · rw [feed_cons_of_go hcode]
      exact ih _
    · rw [feed_cons_of_stop hcode]
      rfl

/-! ## Keeping the calls -/

/-- The sink with the records it is called with kept beside its state. -/
def traced (sink : Sink σ) : Sink (σ × List Record) where
  visit kept record :=
    let response := sink.visit kept.1 record
    ⟨(response.state, kept.2 ++ [record]), response.code, response.events⟩

theorem feed_traced (sink : Sink σ) (state : σ) (before records : List Record) :
    sink.traced.feed (state, before) records =
      let fed := sink.feed state records
      ⟨(fed.state, before ++ fed.calls), fed.calls, fed.code⟩ := by
  induction records generalizing state before with
  | nil => simp
  | cons record rest ih =>
    have hnext : (sink.traced.visit (state, before) record).state =
        ((sink.visit state record).state, before ++ [record]) := rfl
    by_cases hcode : (sink.visit state record).code = 0
    · have htraced : (sink.traced.visit (state, before) record).code = 0 := hcode
      rw [feed_cons_of_go hcode, feed_cons_of_go htraced, hnext, ih]
      simp
    · have htraced : (sink.traced.visit (state, before) record).code ≠ 0 := hcode
      rw [feed_cons_of_stop hcode, feed_cons_of_stop htraced, hnext]
      rfl

/-! ## Sinks that never stop -/

/-- The sink lets every run go on. -/
def NeverStops (sink : Sink σ) : Prop := ∀ state record, (sink.visit state record).code = 0

theorem NeverStops.traced (h : sink.NeverStops) : sink.traced.NeverStops :=
  fun kept record ↦ h kept.1 record

theorem NeverStops.code_feed (h : sink.NeverStops) (state : σ) (records : List Record) :
    (sink.feed state records).code = 0 := by
  induction records generalizing state with
  | nil => rfl
  | cons record rest ih =>
    rw [feed_cons_of_go (h state record)]
    exact ih _

/-- The sink that keeps its records keeps all that it is fed. -/
theorem feed_collect (kept : Array Record) (records : List Record) :
    (collect.feed kept records).state = kept ++ records.toArray := by
  induction records generalizing kept with
  | nil => exact Array.append_empty.symm
  | cons record rest ih =>
    have hgo : (collect.visit kept record).code = 0 := rfl
    have hnext : (collect.visit kept record).state = kept ++ #[record] := Array.push_eq_append
    rw [feed_cons_of_go hgo, ih, hnext, Array.append_assoc, List.toArray_cons record rest]

end Sink
end Combinations
