import Combinations.Proofs.Text.Sink

/-!
# What a text run leaves behind

The device of a text run has in the end accepted the text of the run, or as much of it as there was
room for, and the result of the run says which (`enumerateToText_delivers_text`).  How the text is
divided into pieces, what of it is pending when the device fills up and whether that happens during a
visit or at the end has no part in the statement.
-/

set_option autoImplicit false

namespace Combinations

variable {config : Config} {items : Items} {extent : Extent}

/-- **A text run delivers its text as far as the device has room for it.**  Let `all` be the list of
all combinations of the configuration, by length and then lexicographically, and `text` the lines of
those that the window selects, each with its number in `all` if numbers are shown.

* If the device can accept `text`, it has accepted exactly that in the end, and was flushed once.  The
  code is then 0, unless the flush fails, which is reported.
* If it can accept `n` bytes and `text` has more, it has accepted the first `n` of them and was not
  flushed, and the first write that it refused is reported.
* A code other than 0 is never returned. -/
theorem enumerateToText_delivers_text {all : List (List Nat)} (hitems : items.size < itemLimit)
    (hextent : config.extent items.size = .ok extent) (hall : config.Lists items.size extent all)
    (capacity : Option Nat) (flushFails : Bool) :
    let records := config.window.slice (all.mapIdx fun ordinal indices ↦
      (⟨if config.showNumbers then some (min (ordinal + 1) maxOrdinal) else none,
        items.pick indices⟩ : Record))
    let text := (String.join (records.map config.style.render)).toUTF8
    let report := enumerateToText config items (.new capacity flushFails)
    ((∀ n ∈ capacity, text.size ≤ n) →
        report.state.accepted = text ∧ report.state.flushes = 1 ∧
          report.result =
            if flushFails then .error (.io Fault.flushFailed.message) else .ok 0) ∧
      (∀ n ∈ capacity, n < text.size →
        report.state.accepted = text.extract 0 n ∧ report.state.flushes = 0 ∧
          report.result = .error (.io (Fault.closed 1).message)) ∧
      ∀ code, report.result = .ok code → code = 0 := by
  intro records text report
  have htext : (Device.new capacity flushFails).accepted ++ config.text items extent = text := by
    rw [Config.text, Config.records_eq hall]
    exact ByteArray.empty_append
  have hfits : (∀ n ∈ capacity, text.size ≤ n) →
      report.state.accepted = text ∧ report.state.flushes = 1 ∧
        report.result =
          if flushFails then .error (.io Fault.flushFailed.message) else .ok 0 := by
    intro hroom
    have hholds : (Device.new capacity flushFails).Holds text.size := hroom
    rw [← htext] at hholds ⊢
    obtain ⟨hstate, hresult⟩ := enumerateToText_of_holds hitems hextent hholds
    refine ⟨?_, ?_, hresult⟩ <;> rw [hstate]
    rfl
  have hlacks : ∀ n ∈ capacity, n < text.size →
      report.state.accepted = text.extract 0 n ∧ report.state.flushes = 0 ∧
        report.result = .error (.io (Fault.closed 1).message) := by
    intro n hn hlt
    rw [← htext] at hlt ⊢
    obtain ⟨hstate, hresult⟩ :=
      enumerateToText_of_lt hitems hextent hn (fun _ _ ↦ Nat.zero_le _) hlt
    refine ⟨?_, ?_, hresult⟩ <;> rw [hstate]
    rfl
  refine ⟨hfits, hlacks, fun code hcode ↦ ?_⟩
  rcases (Device.new capacity flushFails).holds_or_lt text.size with hholds | ⟨n, hn, hlt⟩
  · rw [(hfits hholds).2.2] at hcode
    split at hcode <;> cases hcode
    rfl
  · rw [(hlacks n hn hlt).2.2] at hcode
    cases hcode

/-- Three lines, into a device that fills up within the first, and into one that cannot be flushed. -/
theorem enumerateToText_delivers_text_of_three :
    let config : Config :=
      { Config.default with
        showNumbers := true, style := ⟨"+", some "[", some "]", false⟩, sizes := ⟨1, some 2, by simp⟩ }
    let items := Items.ofList ["a", "b"]
    items.size < itemLimit ∧ config.extent items.size = .ok ⟨1, 2⟩ ∧
      config.Lists items.size ⟨1, 2⟩ [[0], [1], [0, 1]] ∧
      (enumerateToText config items (.new (some 4) false)).state.accepted = "1 [a".toUTF8 ∧
      (enumerateToText config items (.new (some 4) false)).state.flushes = 0 ∧
      (enumerateToText config items (.new (some 4) false)).result = .error (.io "closed #1") ∧
      (enumerateToText config items (.new none true)).state.accepted =
        "1 [a]\n2 [b]\n3 [a+b]\n".toUTF8 ∧
      (enumerateToText config items (.new none true)).state.flushes = 1 ∧
      (enumerateToText config items (.new none true)).result = .error (.io "flush failed") := by
  intro config items
  have hitems : items.size < itemLimit := by decide
  have hextent : config.extent items.size = .ok ⟨1, 2⟩ := rfl
  have hall : config.Lists items.size ⟨1, 2⟩ [[0], [1], [0, 1]] :=
    config.lists_listing items.size ⟨1, 2⟩
  obtain ⟨-, hlacks, -⟩ := enumerateToText_delivers_text hitems hextent hall (some 4) false
  obtain ⟨hfront, hflushes, hresult⟩ := hlacks 4 rfl (by decide +kernel)
  obtain ⟨hfits, -, -⟩ := enumerateToText_delivers_text hitems hextent hall none true
  obtain ⟨hwhole, hflushes', hresult'⟩ := hfits fun n hn ↦ by cases hn
  refine ⟨hitems, hextent, hall, ?_, hflushes, hresult, ?_, hflushes', hresult'⟩
  · rw [hfront]
    decide +kernel
  · rw [hwhole]
    decide +kernel

end Combinations
