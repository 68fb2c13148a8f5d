/-!
# Statistics of a run

Three counters that every run keeps for itself and hands back with its outcome.
-/

set_option autoImplicit false

namespace Combinations

/-- The counters of one run. -/
structure Statistics where
  /-- Combinations delivered to the sink, including one that stopped the run.  The number has no bound;
  a 64-bit word shows it as long as it is at most `maxOrdinal`. -/
  emitted : Nat
  /-- Combinations passed over to reach the start of the window. -/
  skipped : Nat
  /-- Combination sizes the run entered, counting size 0 when the empty combination was visited. -/
  sizesVisited : Nat
  deriving DecidableEq, Repr

namespace Statistics

/-- The counters of a run that has done nothing. -/
def zero : Statistics := ⟨0, 0, 0⟩

/-- The counters with their names, for a log. -/
def entries (s : Statistics) : List (String × Nat) :=
  [("Emitted", s.emitted), ("Skipped", s.skipped), ("SizesVisited", s.sizesVisited)]

end Statistics
end Combinations
