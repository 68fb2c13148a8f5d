import Combinations.Items
import Combinations.Sink
import Combinations.Walk

/-!
# Enumerating combinations into a sink

`enumerate` delivers the combinations of a configuration's window, in the order and with the numbers
of the walk, until the walk ends, the limit of the window is reached, or the sink answers with a code
other than 0.  Nothing is delivered after that.

A request that does not fit the items fails before the sink is touched: its `Report` then holds the
state the sink was handed in with, and no event.
-/

set_option autoImplicit false

namespace Combinations

/-- How a run ended. -/
inductive Outcome where
  /-- Every combination that was asked for was delivered. -/
  | completed (statistics : Statistics)
  /-- The sink answered with `code`, which is not 0. -/
  | aborted (code : Int32) (statistics : Statistics)
  deriving DecidableEq, Repr

namespace Outcome

/-- The code that stopped the run, or 0. -/
def code : Outcome → Int32
  | completed _ => 0
  | aborted code _ => code

def isAborted : Outcome → Bool
  | completed _ => false
  | aborted _ _ => true

def statistics : Outcome → Statistics
  | completed statistics => statistics
  | aborted _ statistics => statistics

/-- How many combinations were delivered, including one that stopped the run. -/
def emitted (outcome : Outcome) : Nat := outcome.statistics.emitted

end Outcome

/-- What an operation on a sink leaves behind: the state of the sink, the events in order, and the
result or the error. -/
structure Report (σ α : Type) where
  state : σ
  events : Array Event
  result : Except Error α

/-- The report with its result passed through a function. -/
def Report.map {σ α β : Type} (f : α → β) (report : Report σ α) : Report σ β :=
  ⟨report.state, report.events, report.result.map f⟩

/-- The record that a sink receives for a combination of a walk. -/
def recordOf (config : Config) (items : Items) (c : Numbered) : Record :=
  ⟨if config.showNumbers then some c.number else none, items.pick c.indices⟩

/-- What is logged before a combination is delivered. -/
def visitEvents (config : Config) (items : Items) (c : Numbered) : Array Event :=
  if config.debug then #[.visit c.number (items.pick c.indices)] else #[]

/-- Delivers what is left of a walk, after `emitted` combinations and `events`.

The deliveries are counted without a bound.  A counter in a 64-bit word shows the same number as long
as there are at most `maxOrdinal` deliveries, which is any run with a limit.  With more it would begin
again at 0, where a limit of 0 would stop the run. -/
def deliver {σ : Type} (config : Config) (items : Items) (sink : Sink σ)
    (state : σ) (walk : Walk) (emitted : Nat) (events : Array Event) : Report σ Outcome :=
  let statistics := { walk.statistics with emitted := emitted }
  match h : walk.current with
  | none => ⟨state, events.push (.finished emitted), .ok (.completed statistics)⟩
  | some c =>
    let response := sink.visit state (recordOf config items c)
    let events := events ++ visitEvents config items c ++ response.events
    let emitted := emitted + 1
    let statistics := { statistics with emitted := emitted }
    if response.code ≠ 0 then
      ⟨response.state, events.push (.stopped c.number response.code emitted),
        .ok (.aborted response.code statistics)⟩
    else if emitted = config.window.limit.toNat then
      ⟨response.state, events.push (.finished emitted), .ok (.completed statistics)⟩
    else
      deliver config items sink response.state walk.advance.2 emitted events
termination_by walk.remaining
decreasing_by exact walk.remaining_advance_lt h

/-- What is logged before the first combination of a run. -/
def openingEvents (config : Config) (walk : Walk) : Array Event :=
  let start := config.window.start.toNat
  (walk.startEvents start).toArray.push
    (.enumerating walk.nitems config.sizes.min.toNat walk.sizeMax start config.window.limit.toNat)

/-- The walk of a configuration over an item set. -/
def Items.walk (items : Items) (config : Config) : Except Error Walk :=
  if items.size < itemLimit then Walk.ofConfig config items.size
  else .error (.tooManyItems items.size)

/-- Delivers the combinations of `items` that `config` asks for to a sink in state `state`. -/
def enumerate {σ : Type} (config : Config) (items : Items) (sink : Sink σ) (state : σ) :
    Report σ Outcome :=
  match items.walk config with
  | .error e => ⟨state, #[], .error e⟩
  | .ok walk => deliver config items sink state walk 0 (openingEvents config walk)

/-- Delivers the combinations of `items` that `config` asks for to a function of the number and the
items.  The code is the one that stopped the run, or 0. -/
def enumerateWith {σ : Type} (config : Config) (items : Items)
    (f : σ → Option Nat → List String → σ × Int32) (state : σ) : Report σ Int32 :=
  (enumerate config items (Sink.ofFunction f) state).map Outcome.code

end Combinations
