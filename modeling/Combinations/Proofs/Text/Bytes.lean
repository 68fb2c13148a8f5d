import Mathlib.Data.List.Basic

/-!
# Bytes and characters of a text

A text is handed on as bytes, its characters encoded one after the other.  An ASCII character is one
byte, which is its code, and all bytes of any other character are at least 128.  So a byte below 128
stands for the ASCII character with that code and for nothing else, and a text has as many of the one
as of the other (`count_bytesOf`).

A number is written in decimal digits, and no other number has the same ones (`repr_inj`).
-/

set_option autoImplicit false

namespace Combinations

/-- The bytes of a text. -/
def bytesOf (text : String) : List UInt8 := text.toUTF8.data.toList

theorem bytesOf_eq (text : String) : bytesOf text = text.toList.flatMap String.utf8EncodeChar := by
  rw [bytesOf, String.toUTF8_eq_toByteArray, ← String.utf8Encode_toList, List.utf8Encode,
    List.data_toByteArray]

theorem utf8EncodeChar_of_lt {c : Char} (h : c.toNat < 128) :
    String.utf8EncodeChar c = [c.toUInt8] := by
  have hsize : c.utf8Size = 1 := by
    rw [Char.utf8Size_eq_one_iff, UInt32.le_iff_toNat_le]
    exact Nat.le_of_lt_succ h
  rw [String.utf8EncodeChar_eq_singleton hsize, Char.toUInt8_val]

theorem toNat_toUInt8_of_lt {c : Char} (h : c.toNat < 128) : c.toUInt8.toNat = c.toNat := by
  rw [← Char.toUInt8_val, UInt32.toNat_toUInt8]
  exact Nat.mod_eq_of_lt (Nat.lt_trans h (by decide))

/-- A character that is not ASCII has no byte below 128. -/
theorem le_of_mem_utf8EncodeChar {c : Char} (h : 128 ≤ c.toNat) :
    ∀ byte ∈ String.utf8EncodeChar c, 128 ≤ byte.toNat := by
  have hone : ¬c.val.toNat ≤ 127 := Nat.not_le.mpr h
  simp only [String.utf8EncodeChar, if_neg hone]
  split
  · simp only [List.mem_cons, List.not_mem_nil, or_false, forall_eq_or_imp, forall_eq,
      UInt8.toNat_ofNat']
    omega
  · split <;>
      simp only [List.mem_cons, List.not_mem_nil, or_false, forall_eq_or_imp, forall_eq,
        UInt8.toNat_ofNat'] <;>
      omega

theorem toUInt8_inj_of_lt {c d : Char} (hc : c.toNat < 128) (hd : d.toNat < 128) :
    c.toUInt8 = d.toUInt8 ↔ c = d := by
  rw [← UInt8.toNat_inj, toNat_toUInt8_of_lt hc, toNat_toUInt8_of_lt hd, Char.toNat_inj]

/-- **A byte of an ASCII character stands for that character**, and so a text has as many of one as of
the other. -/
theorem count_bytesOf {c : Char} (hc : c.toNat < 128) (text : String) :
    (bytesOf text).count c.toUInt8 = text.toList.count c := by
  rw [bytesOf_eq]
  induction text.toList with
  | nil => rfl
  | cons x rest ih =>
    rw [List.flatMap_cons, List.count_append, ih, List.count_cons, Nat.add_comm]
    congr 1
    rcases Nat.lt_or_ge x.toNat 128 with hx | hx
    · rw [utf8EncodeChar_of_lt hx, List.count_singleton]
      simp only [beq_iff_eq, toUInt8_inj_of_lt hx hc]
    · have hne : x ≠ c := by
        rintro rfl
        omega
      have hnot : c.toUInt8 ∉ String.utf8EncodeChar x := by
        intro hmem
        have hlarge := le_of_mem_utf8EncodeChar hx _ hmem
        rw [toNat_toUInt8_of_lt hc] at hlarge
        omega
      rw [List.count_eq_zero_of_not_mem hnot]
      simp [hne]

theorem mem_bytesOf {c : Char} (hc : c.toNat < 128) (text : String) :
    c.toUInt8 ∈ bytesOf text ↔ c ∈ text.toList := by
  rw [← List.count_pos_iff, count_bytesOf hc, List.count_pos_iff]

/-- Two numbers with the same digits are the same. -/
theorem repr_inj {a b : Nat} : a.repr = b.repr ↔ a = b := by
  constructor
  · intro h
    have hdigits : Nat.toDigits 10 a = Nat.toDigits 10 b := by
      rwa [Nat.repr_eq_ofList_toDigits, Nat.repr_eq_ofList_toDigits, String.ofList_inj] at h
    calc
      a = Nat.ofDigitChars 10 (Nat.toDigits 10 a) 0 := Nat.ofDigitChars_ten_toDigits.symm
      _ = Nat.ofDigitChars 10 (Nat.toDigits 10 b) 0 := by rw [hdigits]
      _ = b := Nat.ofDigitChars_ten_toDigits
  · rintro rfl
    rfl

end Combinations
