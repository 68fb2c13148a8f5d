import Combinations.Words.Calculation

/-!
# Calculations that never wrap

`Calculation.Yields c a` says that every operation of `c` stays within its word, and that `c` ends
in `a` on words as on unbounded numbers.  It is what there is to know about a calculation, and it is
found one operation at a time: `Yields.bind` is the only rule for putting calculations together, and
each kind of operation has its condition (`yields_add`, `yields_sub`, `yields_mul`, `yields_shl`).

That the two runs agree needs no argument of its own.  As long as every operation fits, they go
through the same operations (`Calculation.run_unbounded_eq`).
-/

set_option autoImplicit false

namespace Combinations
namespace Words

variable {α β : Type} {op : Operation} {bits x y : Nat}

/-! ## Operations -/

theorem exact_shl (bits x y : Nat) :
    (⟨bits, .shl, x, y⟩ : Operation).exact = (x * 2 ^ y : Nat) := by
  push_cast
  rfl

/-- **An operation that fits has the same value on words as on unbounded numbers.** -/
theorem Operation.Fits.wrapping_eq (h : op.Fits) : op.wrapping = op.unbounded := by
  obtain ⟨bits, operator, left, right⟩ := op
  obtain ⟨hnonneg, hlt, hdistance⟩ := h
  cases operator with
  | shl =>
    rw [exact_shl] at hlt
    have hvalue : left * 2 ^ right < 2 ^ bits := by exact_mod_cast hlt
    unfold unbounded wrapping
    rw [exact_shl, Int.toNat_natCast]
    simp only [Nat.mod_eq_of_lt (hdistance rfl), Nat.mod_eq_of_lt hvalue]
  | _ => exact congrArg Int.toNat (Int.emod_eq_of_lt hnonneg hlt)

/-- The value on words goes round at both ends, and a shift by the whole word is none. -/
example : (⟨32, .sub, 0, 1⟩ : Operation).wrapping = 4294967295 ∧
    (⟨64, .add, 18446744073709551615, 1⟩ : Operation).wrapping = 0 ∧
    (⟨64, .shl, 1, 64⟩ : Operation).wrapping = 1 := by decide

/-! ## Calculations -/

namespace Calculation

variable {c : Calculation α} {f : α → Calculation β} {a : α} {b : β}

/-- **A calculation whose operations fit ends the same way on words as on unbounded numbers.** -/
theorem run_unbounded_eq (h : ∀ op ∈ c.operations, op.Fits) :
    c.run Operation.unbounded = c.run Operation.wrapping := by
  induction c with
  | result a => rfl
  | endless => rfl
  | perform op rest ih =>
    obtain ⟨hop, hrest⟩ := List.forall_mem_cons.mp h
    rw [run, run, ← hop.wrapping_eq]
    exact ih op.wrapping hrest

theorem run_bind (value : Operation → Nat) (c : Calculation α) (f : α → Calculation β) :
    (c >>= f).run value = (c.run value).bind fun a ↦ (f a).run value := by
  induction c with
  | result a => rfl
  | endless => rfl
  | perform op rest ih => exact ih (value op)

theorem operations_bind (h : c.run Operation.wrapping = some a) :
    (c >>= f).operations = c.operations ++ (f a).operations := by
  induction c with
  | result a' => cases h; rfl
  | endless => cases h
  | perform op rest ih => exact congrArg (op :: ·) (ih op.wrapping h)

/-- `c` ends in `a`, and nothing wraps on the way. -/
structure Yields (c : Calculation α) (a : α) : Prop where
  fits : ∀ op ∈ c.operations, op.Fits
  wrapping_eq : c.run Operation.wrapping = some a
  unbounded_eq : c.run Operation.unbounded = some a

theorem Yields.of_fits (hfits : ∀ op ∈ c.operations, op.Fits)
    (h : c.run Operation.wrapping = some a) : c.Yields a :=
  ⟨hfits, h, (run_unbounded_eq hfits).trans h⟩

theorem Yields.pure (a : α) : (Pure.pure a : Calculation α).Yields a := .of_fits nofun rfl

/-- A calculation yields one result only. -/
theorem Yields.yields_iff {a' : α} (h : c.Yields a) : c.Yields a' ↔ a = a' := by
  constructor
  · intro h'
    exact Option.some.inj (h.wrapping_eq.symm.trans h'.wrapping_eq)
  · rintro rfl
    exact h

/-- **Calculations that never wrap can be put together.** -/
theorem Yields.bind (hc : c.Yields a) (hf : (f a).Yields b) : (c >>= f).Yields b := by
  refine .of_fits ?_ ?_
  · rw [operations_bind hc.wrapping_eq]
    exact List.forall_mem_append.mpr ⟨hc.fits, hf.fits⟩
  · rw [run_bind, hc.wrapping_eq]
    exact hf.wrapping_eq

end Calculation

/-! ## Single operations -/

open Calculation

/-- An operation whose exact value is a word yields that word. -/
theorem yields_perform {operator : Operator} {value : Nat}
    (hexact : (⟨bits, operator, x, y⟩ : Operation).exact = value) (hlt : value < 2 ^ bits)
    (hdistance : operator = .shl → y < bits) : (perform bits operator x y).Yields value := by
  have hfits : (⟨bits, operator, x, y⟩ : Operation).Fits :=
    ⟨by rw [hexact]; exact Int.natCast_nonneg value, by rw [hexact]; exact_mod_cast hlt, hdistance⟩
  have hvalue : (⟨bits, operator, x, y⟩ : Operation).unbounded = value := by
    unfold Operation.unbounded
    rw [hexact, Int.toNat_natCast]
  refine .of_fits (List.forall_mem_singleton.mpr hfits) ?_
  exact congrArg some (hfits.wrapping_eq.trans hvalue)

theorem yields_add (h : x + y < 2 ^ bits) : (add bits x y).Yields (x + y) :=
  yields_perform (Int.natCast_add x y).symm h nofun

theorem yields_sub (hx : x < 2 ^ bits) (h : y ≤ x) : (sub bits x y).Yields (x - y) :=
  yields_perform (Int.ofNat_sub h).symm (by omega) nofun

theorem yields_mul (h : x * y < 2 ^ bits) : (mul bits x y).Yields (x * y) :=
  yields_perform (Int.natCast_mul x y).symm h nofun

theorem yields_shl (hy : y < bits) (h : x * 2 ^ y < 2 ^ bits) :
    (shl bits x y).Yields (x * 2 ^ y) :=
  yields_perform (exact_shl bits x y) h fun _ ↦ hy

theorem truncate_of_lt (h : x < 2 ^ bits) : truncate bits x = x := Nat.mod_eq_of_lt h

theorem lt_of_le_maxOrdinal (h : x ≤ maxOrdinal) : x < 2 ^ 64 := by
  rw [maxOrdinal] at h
  omega

theorem narrow?_of_le (h : x ≤ maxOrdinal) : narrow? x = some x := by
  rw [narrow?, if_neg (Nat.not_lt.mpr h)]

theorem narrow?_of_lt (h : maxOrdinal < x) : narrow? x = none := by
  rw [narrow?, if_pos h]

end Words
end Combinations
