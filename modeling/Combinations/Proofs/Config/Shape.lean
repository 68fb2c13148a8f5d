import Combinations.Config.Reading
import Mathlib.Logic.Function.Basic

/-!
# The shapes of values

`Shape.Fits` says which values have a shape, by their bounds where they are numbers.  Each reader
succeeds exactly on the values of its shape: it is the inverse of the function that makes a value
(`Value.asWord32_eq_ok`), and the values of a shape are those that can be made
(`Shape.fits_word32_iff`).
-/

set_option autoImplicit false

namespace Combinations

variable {value : Value} {α β ε ε' : Type}

/-! ## Results -/

theorem map_eq_ok {result : Except ε α} {f : α → β} {b : β} :
    result.map f = .ok b ↔ ∃ a, result = .ok a ∧ f a = b := by
  cases result <;> simp [Except.map]

theorem exists_map_eq_ok {result : Except ε α} {f : α → β} :
    (∃ b, result.map f = .ok b) ↔ ∃ a, result = .ok a := by
  cases result <;> simp [Except.map]

theorem bind_eq_ok {result : Except ε α} {f : α → Except ε β} {b : β} :
    result.bind f = .ok b ↔ ∃ a, result = .ok a ∧ f a = .ok b := by
  cases result <;> simp [Except.bind]

theorem mapError_eq_ok {result : Except ε α} {f : ε → ε'} {a : α} :
    result.mapError f = .ok a ↔ result = .ok a := by
  cases result with
  | error e => exact ⟨nofun, nofun⟩
  | ok b =>
    change (Except.ok b : Except ε' α) = .ok a ↔ (Except.ok b : Except ε α) = .ok a
    rw [Except.ok.injEq, Except.ok.injEq]

/-! ## Readers -/

namespace Value

theorem asNat_eq_ok {bound m : Nat} {shape : Shape} :
    value.asNat bound shape = .ok m ↔ value = .integer m ∧ m < bound := by
  cases value with
  | integer i =>
    simp only [asNat, integer.injEq]
    split
    · next h =>
      rw [Except.ok.injEq]
      omega
    · next h =>
      simp only [reduceCtorEq, false_iff]
      omega
  | _ => simp [asNat]

theorem asWord32_eq_ok {x : UInt32} : value.asWord32 = .ok x ↔ value = .word32 x := by
  simp only [asWord32, map_eq_ok, asNat_eq_ok, word32]
  constructor
  · rintro ⟨m, ⟨rfl, hm⟩, rfl⟩
    rw [UInt32.toNat_ofNat_of_lt' hm]
  · rintro rfl
    exact ⟨x.toNat, ⟨rfl, x.toNat_lt⟩, UInt32.ofNat_toNat⟩

theorem asWord64_eq_ok {x : UInt64} : value.asWord64 = .ok x ↔ value = .word64 x := by
  simp only [asWord64, map_eq_ok, asNat_eq_ok, word64]
  constructor
  · rintro ⟨m, ⟨rfl, hm⟩, rfl⟩
    rw [UInt64.toNat_ofNat_of_lt' hm]
  · rintro rfl
    exact ⟨x.toNat, ⟨rfl, x.toNat_lt⟩, UInt64.ofNat_toNat⟩

theorem asFlag_eq_ok {b : Bool} : value.asFlag = .ok b ↔ value = .bool b := by
  cases value <;> simp [asFlag]

theorem asText_eq_ok {s : String} : value.asText = .ok s ↔ value = .string s := by
  cases value <;> simp [asText]

/-- Null is free to stand for an unset value if no value is written as null. -/
theorem asOption_eq_ok {read : Value → Except ReadError α} {write : α → Value}
    (hread : ∀ {value a}, read value = .ok a ↔ value = write a) (hnull : ∀ a, write a ≠ null)
    {o : Option α} : value.asOption read = .ok o ↔ value = ofOption write o := by
  cases value with
  | null => cases o <;> simp [asOption, ofOption, (hnull _).symm]
  | _ => cases o <;> simp [asOption, ofOption, map_eq_ok, hread]

theorem asOptionWord32_eq_ok {o : Option UInt32} :
    value.asOption asWord32 = .ok o ↔ value = ofOption word32 o :=
  asOption_eq_ok asWord32_eq_ok (fun _ ↦ nofun)

theorem asOptionText_eq_ok {o : Option String} :
    value.asOption asText = .ok o ↔ value = ofOption string o :=
  asOption_eq_ok asText_eq_ok (fun _ ↦ nofun)

/-- Values that are read back as they were are never written alike. -/
theorem injective_of_read {read : Value → Except ReadError α} {write : α → Value}
    (hread : ∀ {value a}, read value = .ok a ↔ value = write a) : Function.Injective write :=
  fun _ _ h ↦ Except.ok.inj ((hread.mpr rfl).symm.trans (hread.mpr h))

theorem exists_eq_ofOption {write : α → Value} :
    (∃ o, value = ofOption write o) ↔ (∃ a, value = write a) ∨ value = null := by
  rw [Option.exists, or_comm]
  rfl

end Value

/-! ## Shapes -/

/-- A value of a shape. -/
inductive Shape.Fits : Shape → Value → Prop
  | word32 {i : Int} : 0 ≤ i → i < UInt32.size → Fits .word32 (.integer i)
  | word64 {i : Int} : 0 ≤ i → i < UInt64.size → Fits .word64 (.integer i)
  | flag (b : Bool) : Fits .flag (.bool b)
  | text (s : String) : Fits .text (.string s)

namespace Shape

theorem fits_word32_iff : word32.Fits value ↔ ∃ x, value = .word32 x := by
  constructor
  · intro h
    cases h with | word32 hle hlt =>
    obtain ⟨m, rfl⟩ := Int.eq_ofNat_of_zero_le hle
    refine ⟨UInt32.ofNat m, ?_⟩
    rw [Value.word32, UInt32.toNat_ofNat_of_lt' (by exact_mod_cast hlt)]
  · rintro ⟨x, rfl⟩
    exact .word32 (Int.natCast_nonneg _) (by exact_mod_cast x.toNat_lt)

theorem fits_word64_iff : word64.Fits value ↔ ∃ x, value = .word64 x := by
  constructor
  · intro h
    cases h with | word64 hle hlt =>
    obtain ⟨m, rfl⟩ := Int.eq_ofNat_of_zero_le hle
    refine ⟨UInt64.ofNat m, ?_⟩
    rw [Value.word64, UInt64.toNat_ofNat_of_lt' (by exact_mod_cast hlt)]
  · rintro ⟨x, rfl⟩
    exact .word64 (Int.natCast_nonneg _) (by exact_mod_cast x.toNat_lt)

theorem fits_flag_iff : flag.Fits value ↔ ∃ b, value = .bool b := by
  constructor
  · rintro (_ | _)
    exact ⟨_, rfl⟩
  · rintro ⟨b, rfl⟩
    exact .flag b

theorem fits_text_iff : text.Fits value ↔ ∃ s, value = .string s := by
  constructor
  · rintro (_ | _)
    exact ⟨_, rfl⟩
  · rintro ⟨s, rfl⟩
    exact .text s

end Shape

end Combinations
