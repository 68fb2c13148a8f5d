import Combinations.Enumerate
import Combinations.Text.Buffer

/-!
# Text output

A `TextSink` writes each record as one line, in a style of its own, to a buffered device.  A record
that cannot be written stops the run with the code `TextSink.writeFailed`; the sink remembers what
went wrong, and `TextSink.finish` reports it.  A sink can be used for several runs in a row.

`enumerateToText` is one run into a fresh sink, finished at the end.
-/

set_option autoImplicit false

namespace Combinations

/-- A buffered device with the style of its lines and the last failure to write one. -/
structure TextSink where
  style : TextStyle
  out : Buffered
  fault : Option Fault

namespace TextSink

/-- The code that stops a run after a failed write. -/
def writeFailed : Int32 := -1

/-- A sink that has written nothing yet. -/
def new (style : TextStyle) (device : Device) : TextSink := ⟨style, .new device, none⟩

/-- Writes one record. -/
def visit (text : TextSink) (record : Record) : Response TextSink :=
  match text.out.writeAll ((text.style.pieces record).map String.toUTF8) with
  | (out, none) => ⟨{ text with out := out }, 0, []⟩
  | (out, some fault) =>
    ⟨{ text with out := out, fault := some fault }, writeFailed, [.writeFailed fault.message]⟩

/-- Text output as a sink. -/
def sink : Sink TextSink := ⟨visit⟩

/-- Ends the output: the remembered failure if there is one, and otherwise whatever comes of handing
on the pending bytes and flushing the device. -/
def finish (text : TextSink) : Device × Except Error Unit :=
  match text.fault with
  | some fault => (text.out.device, .error (.io fault.message))
  | none =>
    match text.out.flush with
    | (out, some fault) => (out.device, .error (.io fault.message))
    | (out, none) => (out.device, .ok ())

end TextSink

/-- Writes the combinations of `items` that `config` asks for to a device.  The code is 0 if all of
them were written and flushed. -/
def enumerateToText (config : Config) (items : Items) (device : Device) : Report Device Int32 :=
  let report := enumerate config items TextSink.sink (.new config.style device)
  match report.result with
  | .error e => ⟨report.state.out.device, report.events, .error e⟩
  | .ok outcome =>
    let (device, finished) := report.state.finish
    ⟨device, report.events, finished.map fun _ => outcome.code⟩

end Combinations
