import Combinations.Text.Device

/-!
# Buffered writing

A `Buffered` device holds back what is written to it, up to `Buffered.capacity` bytes, and hands it on
in larger portions.  A piece that does not fit behind what is pending first spills all of that; a piece
as large as the buffer is then handed on by itself, and a smaller one becomes pending.

A spill that the device refuses keeps what was left over pending, so bytes reach the device in the
order in which they were written, whatever fails in between.
-/

set_option autoImplicit false

namespace Combinations

/-- A device with bytes that are still to be handed to it. -/
structure Buffered where
  device : Device
  pending : ByteArray

namespace Buffered

/-- How many bytes are held back at most. -/
def capacity : Nat := 8192

/-- A buffer with nothing in it. -/
def new (device : Device) : Buffered := ⟨device, ByteArray.empty⟩

/-- Hands on all that is pending. -/
def spill (out : Buffered) : Buffered × Option Fault :=
  let (device, rest, fault) := out.device.write out.pending
  (⟨device, rest⟩, fault)

/-- Takes in a piece behind which there is nothing to spill: a large one is handed on, a small one
becomes pending. -/
def take (out : Buffered) (piece : ByteArray) : Buffered × Option Fault :=
  if piece.size < capacity then (⟨out.device, out.pending ++ piece⟩, none)
  else
    let (device, _, fault) := out.device.write piece
    (⟨device, out.pending⟩, fault)

/-- Writes one piece. -/
def write (out : Buffered) (piece : ByteArray) : Buffered × Option Fault :=
  if out.pending.size + piece.size ≤ capacity then out.take piece
  else
    match out.spill with
    | (out, none) => out.take piece
    | (out, some fault) => (out, some fault)

/-- Writes pieces up to the first that fails. -/
def writeAll (out : Buffered) : List ByteArray → Buffered × Option Fault
  | [] => (out, none)
  | piece :: rest =>
    match out.write piece with
    | (out, none) => out.writeAll rest
    | (out, some fault) => (out, some fault)

/-- Hands on all that is pending and has the device flush. -/
def flush (out : Buffered) : Buffered × Option Fault :=
  match out.spill with
  | (out, none) =>
    let (device, fault) := out.device.flush
    (⟨device, out.pending⟩, fault)
  | (out, some fault) => (out, some fault)

end Buffered
end Combinations
