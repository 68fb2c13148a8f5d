import Combinations.Partition
import Combinations.Words.Counting

/-!
# Splitting a run on words

The windows of a split are cut one behind the other, each from where the one before ended.  Starts,
lengths and the number of parts are words of 64 bits.
-/

set_option autoImplicit false

namespace Combinations
namespace Words

/-- The windows of the parts from number `part` on, of which `left` are left to make, from `cursor`
on.  The first `extra` parts are longer by one than `base`, and a part without a combination ends the
split. -/
def cut (base extra : Nat) : (left part cursor : Nat) → Calculation (List Window)
  | 0, _, _ => pure []
  | left + 1, part, cursor => do
    let length ← add 64 base (if part < extra then 1 else 0)
    if length = 0 then return []
    let next ← add 64 cursor length
    let windows ← cut base extra left (part + 1) next
    return ⟨UInt64.ofNat cursor, UInt64.ofNat length⟩ :: windows

/-- Splits the run over `n` items into at most `parts` windows, with the event that reports it. -/
def partition (config : Config) (n parts : Nat) :
    Calculation (Except Error (Event × List Config)) :=
  if parts = 0 then pure (.error (.invalidConfig "cannot partition into zero windows"))
  else do
    match ← total config n with
    | .error e => return .error e
    | .ok total =>
      let start := min config.window.start.toNat total
      let rest ← sub 64 total start
      let remaining :=
        if config.window.limit = 0 then rest else min rest config.window.limit.toNat
      let windows ← cut (remaining / parts) (remaining % parts) parts 0 start
      return .ok (.partitioned total start remaining windows.length,
        windows.map config.withWindow)

end Words
end Combinations
