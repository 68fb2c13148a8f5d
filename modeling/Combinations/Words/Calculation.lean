import Combinations.Limits
import Mathlib.Algebra.Ring.Int.Defs
import Mathlib.Algebra.Ring.Nat

/-!
# Calculations on words

The library computes with natural numbers.  This file describes the same arithmetic as it is carried
out on unsigned words of 32, 64 or 128 bits, where a result that does not fit is cut off and nothing
reports it.

* `Operation` is one addition, subtraction, multiplication or shift of words, with its operands.  It
  has an exact value, an integer, and a wrapping one, a word; the two agree if the exact value
  `Fits`.
* `Calculation` is a computation that goes through such operations.  What comes next may depend on
  the values of those before.  It can be run with either value, and it lists the operations that the
  run on words goes through.

Comparisons, divisions, minima and conversions to wider words cannot wrap, and so are no operations
here.  Neither is what a loop does to count its rounds.
-/

set_option autoImplicit false

namespace Combinations
namespace Words

/-- What can leave the range of a word. -/
inductive Operator where
  | add
  | sub
  | mul
  | shl
  deriving DecidableEq, Repr

/-- An operation on words of `bits` bits. -/
structure Operation where
  bits : Nat
  operator : Operator
  left : Nat
  right : Nat
  deriving DecidableEq, Repr

/-- The integer that an operation stands for. -/
def Operation.exact (op : Operation) : Int :=
  match op.operator with
  | .add => op.left + op.right
  | .sub => (op.left : Int) - op.right
  | .mul => op.left * op.right
  | .shl => op.left * 2 ^ op.right

/-- The value on unbounded numbers; a negative one is no value of a calculation, and never `Fits`. -/
def Operation.unbounded (op : Operation) : Nat := op.exact.toNat

/-- The value on words: the exact one modulo the number of words.  A shift looks only at the low
bits of its distance. -/
def Operation.wrapping (op : Operation) : Nat :=
  match op.operator with
  | .shl => op.left * 2 ^ (op.right % op.bits) % 2 ^ op.bits
  | _ => (op.exact % 2 ^ op.bits).toNat

/-- The operation stays within its word. -/
structure Operation.Fits (op : Operation) : Prop where
  nonneg : 0 ≤ op.exact
  lt : op.exact < 2 ^ op.bits
  /-- A shift is shorter than the word. -/
  distance_lt : op.operator = .shl → op.right < op.bits

/-- A calculation that ends in an `α`. -/
inductive Calculation (α : Type) where
  /-- It is at its end. -/
  | result (a : α)
  /-- It performs an operation and goes on with the value. -/
  | perform (op : Operation) (rest : Nat → Calculation α)
  /-- It is in a loop that goes round more often than foreseen. -/
  | endless

namespace Calculation

variable {α β : Type}

/-- One calculation, and then another that depends on its result. -/
def bind : Calculation α → (α → Calculation β) → Calculation β
  | .result a, f => f a
  | .perform op rest, f => .perform op fun value => (rest value).bind f
  | .endless, _ => .endless

instance : Monad Calculation where
  pure := .result
  bind := bind

/-- The result, where `value` says what operations come to. -/
def run (value : Operation → Nat) : Calculation α → Option α
  | .result a => some a
  | .perform op rest => (rest (value op)).run value
  | .endless => none

/-- The operations that the run on words goes through. -/
def operations : Calculation α → List Operation
  | .result _ => []
  | .perform op rest => op :: (rest op.wrapping).operations
  | .endless => []

end Calculation

/-! ## Single operations -/

/-- An operation as a calculation of its own. -/
def perform (bits : Nat) (operator : Operator) (left right : Nat) : Calculation Nat :=
  .perform ⟨bits, operator, left, right⟩ .result

/-- The sum of two words. -/
def add (bits x y : Nat) : Calculation Nat := perform bits .add x y

/-- The difference of two words. -/
def sub (bits x y : Nat) : Calculation Nat := perform bits .sub x y

/-- The product of two words. -/
def mul (bits x y : Nat) : Calculation Nat := perform bits .mul x y

/-- A word, shifted to the left. -/
def shl (bits x y : Nat) : Calculation Nat := perform bits .shl x y

/-- Conversion to a narrower word, which keeps the low bits. -/
def truncate (bits x : Nat) : Nat := x % 2 ^ bits

/-- Conversion to a word of 64 bits, if the number fits. -/
def narrow? (x : Nat) : Option Nat := if maxOrdinal < x then none else some x

/-- The sum of two words of 64 bits, if it is one. -/
def checkedAdd (x y : Nat) : Option Nat := narrow? (x + y)

end Words
end Combinations
