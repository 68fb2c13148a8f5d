import Combinations.Event
import Combinations.Text.Style

/-!
# Sinks

A sink is what a run delivers its combinations to, one `Record` at a time.  It is a machine with a
state of its own: given the state and a record it answers with the next state, a code, and the events
it logged.  Code 0 lets the run go on; any other code stops it and is reported with the outcome.
-/

set_option autoImplicit false

namespace Combinations

/-- The answer of a sink to one record. -/
structure Response (σ : Type) where
  state : σ
  code : Int32
  events : List Event

/-- A consumer of records with states `σ`. -/
structure Sink (σ : Type) where
  visit : σ → Record → Response σ

/-- The sink of a function of the number and the items, which logs nothing. -/
def Sink.ofFunction {σ : Type} (f : σ → Option Nat → List String → σ × Int32) : Sink σ where
  visit state record :=
    let (state, code) := f state record.number record.items
    ⟨state, code, []⟩

/-- The sink that keeps every record, in the order of their arrival. -/
def Sink.collect : Sink (Array Record) where
  visit kept record := ⟨kept.push record, 0, []⟩

end Combinations
