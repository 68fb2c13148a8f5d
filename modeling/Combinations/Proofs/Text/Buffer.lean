import Combinations.Text.Buffer

/-!
# What becomes of bytes that are written to a buffer

A buffered device that bytes are written to, piece by piece, is in one of two situations.  Both are
said of all the bytes that were ever written, whatever the pieces were, and of the device as it was
at the beginning.

* `Buffered.Sound`: nothing has been refused.  The device has accepted a front of the bytes, and the
  others are pending.
* `Buffered.Full`: something has been refused.  The device has accepted as much of the bytes as it
  has room for, and that is not all of them.

A piece that is written leads from the first situation to itself, or to the second with a failure
(`Buffered.Sound.write`).  From the second there is no way out (`Buffered.Full.write`): pieces that
are small enough may still become pending without a failure, but the device accepts nothing more.
-/

set_option autoImplicit false

namespace Combinations

/-- The first `n` bytes, where the ones in front are no more than that. -/
theorem extract_append_of_le {front : ByteArray} {n : Nat} (h : front.size ≤ n) (back : ByteArray) :
    (front ++ back).extract 0 n = front ++ back.extract 0 (n - front.size) := by
  have hfront : front.extract 0 n = front := by
    have hall := @ByteArray.extract_zero_max_size front n
    rwa [Nat.max_eq_left h] at hall
  rw [ByteArray.extract_append, hfront, Nat.zero_sub]

/-! ## Devices -/

namespace Device

variable {device : Device} {bytes : ByteArray} {n : Nat}

/-- The device can accept `size` bytes in all. -/
def Holds (device : Device) (size : Nat) : Prop := ∀ n ∈ device.capacity, size ≤ n

theorem holds_or_lt (device : Device) (size : Nat) :
    device.Holds size ∨ ∃ n, device.capacity = some n ∧ n < size := by
  rcases hcapacity : device.capacity with _ | n
  · exact .inl fun n hn ↦ by cases hcapacity.symm.trans hn
  · rcases Nat.lt_or_ge n size with hlt | hge
    · exact .inr ⟨n, rfl, hlt⟩
    · refine .inl fun m hm ↦ ?_
      obtain rfl := Option.some.inj (hcapacity.symm.trans hm)
      exact hge

theorem not_holds {size : Nat} (hcapacity : device.capacity = some n) (hlt : n < size) :
    ¬device.Holds size :=
  fun h ↦ Nat.not_le.mpr hlt (h n hcapacity)

/-- A write that fits is accepted. -/
theorem write_of_holds (h : device.Holds (device.accepted.size + bytes.size)) :
    device.write bytes = ({ device with accepted := device.accepted ++ bytes }, .empty, none) := by
  have hroom : device.room bytes.size = bytes.size := by
    rw [room]
    split
    · next n hcapacity =>
      have := h n hcapacity
      omega
    · rfl
  rw [write]
  simp only
  rw [hroom, if_neg (Nat.lt_irrefl _), ByteArray.extract_zero_size]

/-- Of a write that does not fit, the device accepts what fills it up. -/
theorem write_of_lt (hcapacity : device.capacity = some n) (hle : device.accepted.size ≤ n)
    (hlt : n < device.accepted.size + bytes.size) :
    device.write bytes =
      ({ device with
          accepted := (device.accepted ++ bytes).extract 0 n
          refusals := device.refusals + 1 },
        bytes.extract (n - device.accepted.size) bytes.size,
        some (.closed (device.refusals + 1))) := by
  have hroom : device.room bytes.size = n - device.accepted.size := by
    rw [room, hcapacity]
    simp only
    omega
  rw [write]
  simp only
  rw [hroom, if_pos (by omega), extract_append_of_le hle]

/-- A device that is full accepts nothing, and refuses nothing only if nothing is written. -/
theorem write_of_full (hcapacity : device.capacity = some n) (hfull : device.accepted.size = n)
    (bytes : ByteArray) :
    ∃ refusals fault, device.write bytes = ({ device with refusals := refusals }, bytes, fault) ∧
      (fault = none → bytes = .empty) := by
  rcases Nat.eq_zero_or_pos bytes.size with hzero | hpos
  · obtain rfl := ByteArray.size_eq_zero_iff.mp hzero
    refine ⟨device.refusals, none, ?_, fun _ ↦ rfl⟩
    rw [write_of_holds (fun m hm ↦ ?_), ByteArray.append_empty]
    obtain rfl := Option.some.inj (hcapacity.symm.trans hm)
    exact Nat.le_of_eq hfull
  · refine ⟨device.refusals + 1, some (.closed (device.refusals + 1)), ?_, fun h ↦ by cases h⟩
    rw [write_of_lt hcapacity (Nat.le_of_eq hfull) (by omega),
      extract_append_of_le (Nat.le_of_eq hfull), hfull,
      Nat.sub_self, ByteArray.extract_same, ByteArray.append_empty, ByteArray.extract_zero_size]

end Device

/-! ## Situations -/

namespace Buffered

/-- Of the bytes `bytes` that were written, nothing has been refused: `origin` has accepted a front of
them, and the others are pending. -/
structure Sound (out : Buffered) (origin : Device) (bytes : ByteArray) : Prop where
  device_eq : out.device = { origin with accepted := out.device.accepted }
  holds : origin.Holds out.device.accepted.size
  content_eq : out.device.accepted ++ out.pending = bytes
  pending_le : out.pending.size ≤ capacity

/-- Of the bytes `bytes` that were written, `origin` has accepted the first `n` and could not accept
more. -/
structure Full (out : Buffered) (origin : Device) (n : Nat) (bytes : ByteArray) : Prop where
  capacity_eq : origin.capacity = some n
  lt_size : n < bytes.size
  device_eq : out.device =
    { origin with accepted := bytes.extract 0 n, refusals := out.device.refusals }
  pending_le : out.pending.size ≤ capacity

/-- What writing can come to, of a buffer that has not been refused anything before: all is well, or
the device has just filled up, and that is the failure. -/
inductive Relayed (origin : Device) (bytes : ByteArray) : Buffered × Option Fault → Prop
  | sound {out : Buffered} (h : out.Sound origin bytes) : Relayed origin bytes (out, none)
  | full {out : Buffered} {n : Nat} (h : out.Full origin n bytes) :
    Relayed origin bytes (out, some (.closed (origin.refusals + 1)))

variable {out : Buffered} {origin : Device} {bytes piece : ByteArray} {n : Nat}

theorem sound_new (h : origin.Holds origin.accepted.size) :
    (new origin).Sound origin origin.accepted :=
  ⟨rfl, h, ByteArray.append_empty, Nat.zero_le _⟩

/-- What is written to a full device changes nothing about what it has accepted. -/
theorem Full.append (h : out.Full origin n bytes) (more : ByteArray) :
    out.Full origin n (bytes ++ more) := by
  have hlt := h.lt_size
  refine ⟨h.capacity_eq, ?_, ?_, h.pending_le⟩
  · rw [ByteArray.size_append]
    omega
  · rw [ByteArray.extract_append, show n - bytes.size = 0 by omega, Nat.zero_sub,
      ByteArray.extract_same, ByteArray.append_empty]
    exact h.device_eq

theorem Sound.capacity_eq (h : out.Sound origin bytes) : out.device.capacity = origin.capacity := by
  rw [h.device_eq]

theorem Full.accepted_eq (h : out.Full origin n bytes) :
    out.device.accepted = bytes.extract 0 n := by
  rw [h.device_eq]

theorem Full.size_accepted (h : out.Full origin n bytes) : out.device.accepted.size = n := by
  have hlt := h.lt_size
  rw [h.accepted_eq, ByteArray.size_extract]
  omega

theorem Full.device_write (h : out.Full origin n bytes) (piece : ByteArray) :
    ∃ refusals fault,
      out.device.write piece = ({ out.device with refusals := refusals }, piece, fault) ∧
        (fault = none → piece = .empty) := by
  have hcapacity : out.device.capacity = some n := by rw [h.device_eq, h.capacity_eq]
  exact Device.write_of_full hcapacity h.size_accepted piece

/-- Whatever has happened, the device has accepted a front of the bytes. -/
theorem Sound.exists_append (h : out.Sound origin bytes) :
    ∃ rest, out.device.accepted ++ rest = bytes :=
  ⟨out.pending, h.content_eq⟩

theorem Full.exists_append (h : out.Full origin n bytes) :
    ∃ rest, out.device.accepted ++ rest = bytes := by
  refine ⟨bytes.extract n bytes.size, ?_⟩
  have hle := Nat.le_of_lt h.lt_size
  rw [h.accepted_eq, ← ByteArray.extract_eq_extract_append_extract n (Nat.zero_le _) hle,
    ByteArray.extract_zero_size]

theorem Relayed.exists_append {result : Buffered × Option Fault} (h : Relayed origin bytes result) :
    (∃ rest, result.1.device.accepted ++ rest = bytes) ∧ result.1.pending.size ≤ capacity := by
  cases h with
  | sound h => exact ⟨h.exists_append, h.pending_le⟩
  | full h => exact ⟨h.exists_append, h.pending_le⟩

/-! ## Spilling -/

/-- If there is room for all bytes, a spill brings the pending ones to the device. -/
theorem Sound.spill_of_holds (h : out.Sound origin bytes) (hfits : origin.Holds bytes.size) :
    out.spill = (⟨{ origin with accepted := bytes }, .empty⟩, none) := by
  have hwrite : out.device.write out.pending = ({ origin with accepted := bytes }, .empty, none) := by
    rw [← h.content_eq] at hfits ⊢
    rw [ByteArray.size_append] at hfits
    rw [h.device_eq]
    exact Device.write_of_holds hfits
  rw [spill, hwrite]

/-- If there is not, the device fills up. -/
theorem Sound.spill_of_lt (h : out.Sound origin bytes) (hcapacity : origin.capacity = some n)
    (hlt : n < bytes.size) :
    ∃ rest, out.spill =
        (⟨{ origin with accepted := bytes.extract 0 n, refusals := origin.refusals + 1 }, rest⟩,
          some (.closed (origin.refusals + 1))) ∧
      rest.size ≤ capacity := by
  have hle := h.holds n hcapacity
  have hpending := h.pending_le
  refine ⟨out.pending.extract (n - out.device.accepted.size) out.pending.size, ?_, ?_⟩
  · rw [← h.content_eq, ByteArray.size_append] at hlt
    rw [spill, Device.write_of_lt (h.capacity_eq.trans hcapacity) hle hlt, h.content_eq, h.device_eq]
  · rw [ByteArray.size_extract]
    omega

theorem Full.spill (h : out.Full origin n bytes) :
    out.spill.1.Full origin n bytes ∧ (out.spill.2 = none → out.spill.1.pending = .empty) := by
  obtain ⟨refusals, fault, hwrite, hempty⟩ := h.device_write out.pending
  rw [Buffered.spill, hwrite]
  refine ⟨⟨h.capacity_eq, h.lt_size, ?_, h.pending_le⟩, hempty⟩
  rw [h.device_eq]

/-! ## Writing -/

/-- The piece has a place behind what is pending, or there is nothing that it would stand behind. -/
def Admits (out : Buffered) (piece : ByteArray) : Prop :=
  out.pending.size + piece.size ≤ capacity ∨ out.pending = .empty

theorem Admits.size_le (h : out.Admits piece) (hsmall : piece.size < capacity) :
    (out.pending ++ piece).size ≤ capacity := by
  rw [ByteArray.size_append]
  rcases h with hfits | hempty
  · exact hfits
  · rw [hempty, ByteArray.size_empty]
    omega

theorem Admits.pending_eq (h : out.Admits piece) (hlarge : capacity ≤ piece.size) :
    out.pending = .empty := by
  rcases h with hfits | hempty
  · exact ByteArray.size_eq_zero_iff.mp (by omega)
  · exact hempty

theorem Sound.take (h : out.Sound origin bytes) (hplace : out.Admits piece) :
    Relayed origin (bytes ++ piece) (out.take piece) := by
  rw [Buffered.take]
  split
  · next hsmall =>
    refine .sound ⟨h.device_eq, h.holds, ?_, hplace.size_le hsmall⟩
    rw [← h.content_eq, ByteArray.append_assoc]
  · next hlarge =>
    -- nothing is pending, so the piece goes to the device behind all bytes
    have hempty := hplace.pending_eq (Nat.not_lt.mp hlarge)
    obtain rfl : out.device.accepted = bytes := by
      rw [← h.content_eq, hempty, ByteArray.append_empty]
    rcases origin.holds_or_lt (out.device.accepted.size + piece.size) with
      hfits | ⟨n, hcapacity, hlt⟩
    · have hsize := ByteArray.size_append (a := out.device.accepted) (b := piece)
      rw [h.device_eq, Device.write_of_holds hfits, hempty]
      exact .sound ⟨rfl, hsize ▸ hfits, ByteArray.append_empty, Nat.zero_le _⟩
    · have hle := h.holds n hcapacity
      rw [Device.write_of_lt (h.capacity_eq.trans hcapacity) hle hlt, h.device_eq]
      refine .full ⟨hcapacity, ?_, rfl, h.pending_le⟩
      rwa [ByteArray.size_append]

/-- **A write keeps a buffer sound, or fills up its device.** -/
theorem Sound.write (h : out.Sound origin bytes) (piece : ByteArray) :
    Relayed origin (bytes ++ piece) (out.write piece) := by
  rw [Buffered.write]
  split
  · next hplace => exact h.take (.inl hplace)
  · rcases origin.holds_or_lt bytes.size with hfits | ⟨n, hcapacity, hlt⟩
    · rw [h.spill_of_holds hfits]
      have hspilt : Buffered.Sound ⟨{ origin with accepted := bytes }, .empty⟩ origin bytes :=
        ⟨rfl, hfits, ByteArray.append_empty, Nat.zero_le _⟩
      exact hspilt.take (.inr rfl)
    · obtain ⟨rest, hspill, hrest⟩ := h.spill_of_lt hcapacity hlt
      rw [hspill]
      exact .full (Full.append ⟨hcapacity, hlt, rfl, hrest⟩ piece)

theorem Full.take (h : out.Full origin n bytes) (hplace : out.Admits piece) :
    (out.take piece).1.Full origin n bytes := by
  rw [Buffered.take]
  split
  · next hsmall => exact ⟨h.capacity_eq, h.lt_size, h.device_eq, hplace.size_le hsmall⟩
  · obtain ⟨refusals, fault, hwrite, -⟩ := h.device_write piece
    rw [hwrite]
    refine ⟨h.capacity_eq, h.lt_size, ?_, h.pending_le⟩
    rw [h.device_eq]

/-- **What is written to a full device leaves it as it is.** -/
theorem Full.write (h : out.Full origin n bytes) (piece : ByteArray) :
    (out.write piece).1.Full origin n bytes := by
  rw [Buffered.write]
  split
  · next hplace => exact h.take (.inl hplace)
  · obtain ⟨hfull, hempty⟩ := h.spill
    rcases hspill : out.spill with ⟨spilt, _ | fault⟩ <;> rw [hspill] at hfull hempty
    · exact hfull.take (.inr (hempty rfl))
    · exact hfull

/-- Texts that are written piece by piece are written like one text. -/
theorem Sound.writeAll (h : out.Sound origin bytes) (texts : List String) :
    Relayed origin (bytes ++ (String.join texts).toUTF8) (out.writeAll (texts.map String.toUTF8)) := by
  induction texts generalizing out bytes with
  | nil =>
    rw [String.join_nil, String.toUTF8_eq_toByteArray, String.toByteArray_empty,
      ByteArray.append_empty]
    exact .sound h
  | cons text rest ih =>
    have hjoin : bytes ++ (String.join (text :: rest)).toUTF8 =
        bytes ++ text.toUTF8 ++ (String.join rest).toUTF8 := by
      rw [String.join_cons, ByteArray.append_assoc]
      rfl
    have hwrite := h.write text.toUTF8
    rw [hjoin, List.map_cons, Buffered.writeAll]
    rcases hout : out.write text.toUTF8 with ⟨next, fault⟩
    rw [hout] at hwrite
    cases hwrite with
    | sound hnext => exact ih hnext
    | full hnext => exact .full (hnext.append _)

theorem Full.writeAll (h : out.Full origin n bytes) (pieces : List ByteArray) :
    (out.writeAll pieces).1.Full origin n bytes := by
  induction pieces generalizing out with
  | nil => exact h
  | cons piece rest ih =>
    have hwrite := h.write piece
    rw [Buffered.writeAll]
    rcases hout : out.write piece with ⟨next, _ | fault⟩ <;> rw [hout] at hwrite
    · exact ih hwrite
    · exact hwrite

end Buffered
end Combinations
