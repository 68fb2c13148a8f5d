import Combinations.Proofs.Text.Sink
import Combinations.Proofs.Uses

/-!
# How far a text sink has got

A text sink may be used in any way: records are handed to it directly, runs with configurations of
their own deliver to it, and all of that goes on after a failure.  `TextSink.accepts_front` says what
its device has accepted at every moment, in the middle of a run and in the middle of a visit as well,
and what finishing would then report.

By `Sink.exists_calls_useAll` the uses are calls.  What calls lead to is `TextSink.Sound.visitAll`, and
each part of the statement is read off the two situations that a sink can be in.
-/

set_option autoImplicit false

namespace Combinations
namespace TextSink

variable {text : TextSink} {style : TextStyle} {origin : Device} {n : Nat} {bytes : ByteArray}

/-! ## In the middle of a visit -/

/-- What has been written of some of the pieces of a line is a front of the line. -/
theorem exists_append_join_take (style : TextStyle) (record : Record) (k : Nat) :
    ∃ rest, (String.join ((style.pieces record).take k)).toUTF8 ++ rest =
      (style.render record).toUTF8 := by
  refine ⟨(String.join ((style.pieces record).drop k)).toUTF8, ?_⟩
  have hpieces := style.join_pieces record
  rw [← List.take_append_drop k (style.pieces record), String.join_append] at hpieces
  rw [← hpieces]
  rfl

/-- In the middle of a visit, a sound sink has accepted a front of everything with the line. -/
theorem Sound.writing (h : text.Sound style origin bytes) (record : Record) (k : Nat) :
    let out := (text.out.writeAll (((style.pieces record).take k).map String.toUTF8)).1
    (∃ rest, out.device.accepted ++ rest = bytes ++ (style.render record).toUTF8) ∧
      out.pending.size ≤ Buffered.capacity := by
  intro out
  obtain ⟨⟨rest, hrest⟩, hpending⟩ :=
    (h.sound.writeAll ((style.pieces record).take k)).exists_append
  obtain ⟨others, hothers⟩ := exists_append_join_take style record k
  refine ⟨⟨rest ++ others, ?_⟩, hpending⟩
  rw [← ByteArray.append_assoc, hrest, ByteArray.append_assoc, hothers]

/-- So has a spoiled one, with whatever pieces. -/
theorem Spoiled.writing (h : text.Spoiled style origin n bytes) (pieces : List ByteArray)
    (more : ByteArray) :
    let out := (text.out.writeAll pieces).1
    (∃ rest, out.device.accepted ++ rest = bytes ++ more) ∧
      out.pending.size ≤ Buffered.capacity := by
  have hfull := (h.full.writeAll pieces).append more
  exact ⟨hfull.exists_append, hfull.pending_le⟩

/-! ## What finishing reports -/

theorem Sound.finish_eq_ok_iff (h : text.Sound style origin bytes) :
    text.finish.2 = .ok () ↔ origin.Holds bytes.size ∧ origin.flushFails = false := by
  rcases origin.holds_or_lt bytes.size with hfits | ⟨n, hcapacity, hlt⟩
  · rw [h.finish_of_holds hfits]
    cases hflush : origin.flushFails <;> simp [hfits]
  · rw [h.finish_of_lt hcapacity hlt]
    exact iff_of_false (fun hok ↦ by cases hok) fun hboth ↦ Device.not_holds hcapacity hlt hboth.1

theorem Spoiled.finish_eq_ok_iff (h : text.Spoiled style origin n bytes) :
    text.finish.2 = .ok () ↔ origin.Holds bytes.size ∧ origin.flushFails = false := by
  obtain ⟨fault, hfault⟩ := h.exists_fault
  rw [finish_of_fault hfault]
  exact iff_of_false (fun hok ↦ by cases hok) fun hboth ↦
    Device.not_holds h.full.capacity_eq h.full.lt_size hboth.1

/-! ## At every moment -/

/-- **A text sink writes a front of its lines, and says so if it is not all of them.**  A sink is used
in any way, and `calls` are the records that it is called with on the whole.  At the moment when it
has been called with `front`, and answered with `codes`, let `text` be the lines of `front`.

* Its device has accepted a front of `text`, and at most 8192 bytes are pending.  That is so in the
  middle of the next visit as well, with the line of that visit counted in.
* If no visit has failed, the accepted bytes and the pending ones make up `text`.
* If one has failed, the device has accepted as much of `text` as it can, less than all, and that
  stays as it is for good.
* Finishing succeeds if and only if the device can accept all of `text` and can be flushed. -/
theorem accepts_front (style : TextStyle) (capacity : Option Nat) (flushFails : Bool)
    (uses : List Use) :
    let start := new style (.new capacity flushFails)
    let calls := (sink.traced.useAll (start, []) uses).2
    sink.useAll start uses = (sink.visitAll start calls).1 ∧
      ∀ front back, calls = front ++ back →
        let now := (sink.visitAll start front).1
        let codes := (sink.visitAll start front).2
        let text := (String.join (front.map style.render)).toUTF8
        (∃ rest, now.out.device.accepted ++ rest = text) ∧ now.out.pending.size ≤ 8192 ∧
          (∀ record later k, back = record :: later →
            let out := (now.out.writeAll (((style.pieces record).take k).map String.toUTF8)).1
            (∃ rest, out.device.accepted ++ rest = text ++ (style.render record).toUTF8) ∧
              out.pending.size ≤ 8192) ∧
          ((∀ code ∈ codes, code = 0) → now.out.device.accepted ++ now.out.pending = text) ∧
          ((∃ code ∈ codes, code ≠ 0) →
            ∃ n ∈ capacity, n < text.size ∧ now.out.device.accepted = text.extract 0 n ∧
              ∀ later, later <+: back →
                (sink.visitAll start (front ++ later)).1.out.device.accepted =
                  now.out.device.accepted) ∧
          (now.finish.2 = .ok () ↔ (∀ n ∈ capacity, text.size ≤ n) ∧ flushFails = false) := by
  intro start calls
  have hstart : start.Sound style (.new capacity flushFails) .empty :=
    sound_new style fun _ _ ↦ Nat.zero_le _
  refine ⟨?_, ?_⟩
  · obtain ⟨made, htraced, hmade⟩ := sink.exists_calls_useAll start [] uses
    have hcalls : calls = made := congrArg Prod.snd htraced
    rw [hcalls, hmade]
  · intro front back hsplit now codes text
    have hnow := hstart.visitAll front
    rw [ByteArray.empty_append] at hnow
    rcases hnow with ⟨hcodes, hsound⟩ | ⟨⟨code, hmem, hne⟩, n, hspoiled⟩
    · refine ⟨hsound.sound.exists_append, hsound.sound.pending_le, ?_, ?_, ?_,
        hsound.finish_eq_ok_iff⟩
      · intro record later k _
        exact hsound.writing record k
      · exact fun _ ↦ hsound.sound.content_eq
      · rintro ⟨code, hmem, hne⟩
        exact absurd (hcodes code hmem) hne
    · refine ⟨hspoiled.full.exists_append, hspoiled.full.pending_le, ?_, ?_, ?_,
        hspoiled.finish_eq_ok_iff⟩
      · intro record later k _
        exact hspoiled.writing _ _
      · intro hcodes
        exact absurd (hcodes code hmem) hne
      · intro _
        refine ⟨n, hspoiled.full.capacity_eq, hspoiled.full.lt_size, hspoiled.full.accepted_eq, ?_⟩
        intro later _
        have hlater := hspoiled.visitAll later
        rw [Sink.visitAll_append, hlater.full.accepted_eq, hspoiled.full.accepted_eq]

/-- A line can be as large as one likes. -/
theorem exists_lt_size_text (style : TextStyle) (n : Nat) :
    ∃ record : Record, n < (style.text [record]).size := by
  have hlong : ∀ n, ∃ item : String, n < item.utf8ByteSize := by
    intro n
    induction n with
    | zero => exact ⟨"a", by decide⟩
    | succ n ih =>
      obtain ⟨item, hitem⟩ := ih
      refine ⟨item ++ "a", ?_⟩
      rw [String.utf8ByteSize_append]
      exact Nat.add_lt_add_of_lt_of_le hitem (by decide)
  obtain ⟨item, hitem⟩ := hlong n
  refine ⟨⟨none, [item]⟩, ?_⟩
  have hsize : (style.text [⟨none, [item]⟩]).size = (style.render ⟨none, [item]⟩).utf8ByteSize := by
    rw [TextStyle.text_cons, TextStyle.text_nil, ByteArray.append_empty,
      String.toUTF8_eq_toByteArray, String.size_toByteArray]
  simp only [hsize, TextStyle.render, String.utf8ByteSize_append, String.intercalate_singleton]
  omega

/-- A line that is larger than the buffer fails on a device with room for one byte; nothing that is
visited after that changes what the device has accepted, and finishing fails. -/
theorem accepts_front_of_large :
    let start := new TextStyle.default (.new (some 1) false)
    let small : Record := ⟨some 7, ["b"]⟩
    ∃ large : Record,
      (sink.traced.useAll (start, []) [.visit large, .visit small]).2 = [large] ++ [small] ∧
      (∃ code ∈ (sink.visitAll start [large]).2, code ≠ 0) ∧
      (sink.visitAll start ([large] ++ [small])).1.out.device.accepted =
        (sink.visitAll start [large]).1.out.device.accepted ∧
      (sink.visitAll start ([large] ++ [small])).1.finish.2 ≠ .ok () := by
  dsimp only
  obtain ⟨large, hlarge⟩ := exists_lt_size_text TextStyle.default 9000
  have hfails : ∃ code ∈
      (sink.visitAll (new TextStyle.default (.new (some 1) false)) [large]).2, code ≠ 0 := by
    have hstart : (new TextStyle.default (.new (some 1) false)).Sound _ _ .empty :=
      sound_new _ fun _ _ ↦ Nat.zero_le _
    rcases hstart.visitAll [large] with ⟨-, hsound⟩ | ⟨hfails, -⟩
    · -- at most 8193 bytes are accepted or pending
      have haccepted := hsound.sound.holds 1 rfl
      have hpending : _ ≤ 8192 := hsound.sound.pending_le
      have hsize := congrArg ByteArray.size hsound.sound.content_eq
      rw [ByteArray.size_append, ByteArray.empty_append] at hsize
      omega
    · exact hfails
  obtain ⟨-, hmoments⟩ :=
    accepts_front TextStyle.default (some 1) false [.visit large, .visit ⟨some 7, ["b"]⟩]
  obtain ⟨-, -, -, -, hfull, -⟩ := hmoments [large] [⟨some 7, ["b"]⟩] rfl
  obtain ⟨-, -, -, -, -, hfinish⟩ := hmoments ([large] ++ [⟨some 7, ["b"]⟩]) [] rfl
  obtain ⟨n, -, -, -, hstays⟩ := hfull hfails
  refine ⟨large, rfl, hfails, hstays _ (List.prefix_refl _), fun hok ↦ ?_⟩
  have hle : (TextStyle.default.text ([large] ++ [⟨some 7, ["b"]⟩])).size ≤ 1 :=
    (hfinish.mp hok).1 1 rfl
  rw [TextStyle.text_append, ByteArray.size_append] at hle
  omega

end TextSink
end Combinations
