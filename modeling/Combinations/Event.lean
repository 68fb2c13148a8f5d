import Combinations.Text.Quoted

/-!
# The log of a run

The operations of the library report what they do as a list of events, in order, beside their
result.  An event is a value; its level, message and fields are read off it for display.
-/

set_option autoImplicit false

namespace Combinations

/-- How much an event matters. -/
inductive Level where
  | trace
  | debug
  | warn
  deriving DecidableEq, Repr

/-- The name of a level. -/
def Level.name : Level → String
  | trace => "TRACE"
  | debug => "DEBUG"
  | warn => "WARN"

/-- Something that happened during a run. -/
inductive Event where
  /-- A walk was started behind the first combination. -/
  | seeked (start size : Nat) (indices : List Nat)
  /-- A walk was started with nothing left to visit. -/
  | pastEnd (start : Nat)
  /-- A run is about to deliver combinations. -/
  | enumerating (items sizeMin sizeMax start limit : Nat)
  /-- A combination is about to be delivered. -/
  | visit (number : Nat) (combination : List String)
  /-- The sink stopped the run. -/
  | stopped (number : Nat) (code : Int32) (emitted : Nat)
  /-- The run delivered all that was asked for. -/
  | finished (emitted : Nat)
  /-- A text sink could not write a combination. -/
  | writeFailed (reason : String)
  /-- A run was split into windows. -/
  | partitioned (total start remaining windows : Nat)
  deriving DecidableEq, Repr

namespace Event

def level : Event → Level
  | visit .. => .trace
  | writeFailed _ => .warn
  | _ => .debug

def message : Event → String
  | seeked .. => "seeked to start"
  | pastEnd _ => "start is past the last combination"
  | enumerating .. => "enumerating combinations"
  | visit .. => "visit"
  | stopped .. => "sink stopped enumeration"
  | finished _ => "enumeration finished"
  | writeFailed _ => "failed to write combination"
  | partitioned .. => "partitioned run"

/-- The fields of an event with their values as text. -/
def fields : Event → List (String × String)
  | seeked start size indices =>
    [("start", toString start), ("size", toString size),
      ("indices", Quoted.list (indices.map toString))]
  | pastEnd start => [("start", toString start)]
  | enumerating items sizeMin sizeMax start limit =>
    [("nitems", toString items), ("size_min", toString sizeMin), ("size_max", toString sizeMax),
      ("start", toString start), ("count", toString limit)]
  | visit number combination =>
    [("seq", toString number), ("combination", Quoted.list (combination.map Quoted.text))]
  | stopped number code emitted =>
    [("seq", toString number), ("code", toString code.toInt), ("emitted", toString emitted)]
  | finished emitted => [("emitted", toString emitted)]
  | writeFailed reason => [("error", reason)]
  | partitioned total start remaining windows =>
    [("total", toString total), ("start", toString start), ("remaining", toString remaining),
      ("windows", toString windows)]

end Event
end Combinations
