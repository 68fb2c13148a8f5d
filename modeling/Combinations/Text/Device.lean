/-!
# Devices

A device takes in bytes, up to a capacity if it has one.  A write that does not fit is accepted as
far as there is room; what is left over is refused, and the device counts its refusals.
-/

set_option autoImplicit false

namespace Combinations

/-- A failure of a device. -/
inductive Fault where
  /-- The device is full; this is its refusal number `attempt`, counted from 1. -/
  | closed (attempt : Nat)
  | flushFailed
  deriving DecidableEq, Repr

/-- The text shown for a failure of a device. -/
def Fault.message : Fault → String
  | closed attempt => "closed #" ++ toString attempt
  | flushFailed => "flush failed"

/-- A destination for bytes. -/
structure Device where
  /-- How many bytes are accepted in all; no bound if unset. -/
  capacity : Option Nat
  flushFails : Bool
  accepted : ByteArray
  refusals : Nat
  /-- How often the device was asked to flush. -/
  flushes : Nat

namespace Device

/-- A device that has accepted nothing yet. -/
def new (capacity : Option Nat) (flushFails : Bool) : Device :=
  ⟨capacity, flushFails, ByteArray.empty, 0, 0⟩

/-- How many of `size` more bytes the device has room for. -/
def room (device : Device) (size : Nat) : Nat :=
  match device.capacity with
  | some capacity => min size (capacity - device.accepted.size)
  | none => size

/-- Writes `bytes`: what there is room for is accepted, and the rest is handed back with the refusal
of it.  Nothing is refused if nothing is left. -/
def write (device : Device) (bytes : ByteArray) : Device × ByteArray × Option Fault :=
  let taken := device.room bytes.size
  let device := { device with accepted := device.accepted ++ bytes.extract 0 taken }
  if taken < bytes.size then
    ({ device with refusals := device.refusals + 1 }, bytes.extract taken bytes.size,
      some (.closed (device.refusals + 1)))
  else (device, ByteArray.empty, none)

/-- Asks the device to flush. -/
def flush (device : Device) : Device × Option Fault :=
  ({ device with flushes := device.flushes + 1 },
    if device.flushFails then some .flushFailed else none)

end Device
end Combinations
