import Combinations.Proofs.Enumerate
import Combinations.Proofs.Text.Buffer
import Combinations.Text.Sink

/-!
# The lines of a text sink

A text sink that is called with records is in one of the two situations of its buffer, with the lines
of all the records that it was ever called with as the bytes that were written.  It is
`TextSink.Sound` as long as it has written every line, and `TextSink.Spoiled` for good from the
first call on that it could not answer with 0.

`TextStyle.text` is the text that records make up, and so the text of a run that is not stopped.
-/

set_option autoImplicit false

namespace Combinations

/-- The lines of records, one after the other. -/
def TextStyle.text (style : TextStyle) (records : List Record) : ByteArray :=
  (String.join (records.map style.render)).toUTF8

namespace TextStyle

@[simp] theorem text_nil (style : TextStyle) : style.text [] = .empty := by
  rw [text, List.map_nil, String.join_nil, String.toUTF8_eq_toByteArray, String.toByteArray_empty]

theorem text_cons (style : TextStyle) (record : Record) (rest : List Record) :
    style.text (record :: rest) = (style.render record).toUTF8 ++ style.text rest := by
  rw [text, List.map_cons, String.join_cons]
  rfl

theorem text_append (style : TextStyle) (front back : List Record) :
    style.text (front ++ back) = style.text front ++ style.text back := by
  rw [text, List.map_append, String.join_append]
  rfl

end TextStyle

namespace TextSink

/-- The sink has written `bytes`, in `style`, without a failure. -/
structure Sound (text : TextSink) (style : TextStyle) (origin : Device) (bytes : ByteArray) :
    Prop where
  style_eq : text.style = style
  fault_eq : text.fault = none
  sound : text.out.Sound origin bytes

/-- The sink was to write `bytes`, in `style`, and failed when its device was full with `n` of
them. -/
structure Spoiled (text : TextSink) (style : TextStyle) (origin : Device) (n : Nat)
    (bytes : ByteArray) : Prop where
  style_eq : text.style = style
  exists_fault : ∃ fault, text.fault = some fault
  full : text.out.Full origin n bytes

variable {text : TextSink} {style : TextStyle} {origin : Device} {n : Nat} {bytes : ByteArray}

theorem sound_new (style : TextStyle) (h : origin.Holds origin.accepted.size) :
    (new style origin).Sound style origin origin.accepted :=
  ⟨rfl, rfl, Buffered.sound_new h⟩

theorem Spoiled.append (h : text.Spoiled style origin n bytes) (more : ByteArray) :
    text.Spoiled style origin n (bytes ++ more) :=
  ⟨h.style_eq, h.exists_fault, h.full.append more⟩

/-! ## Visits -/

/-- A visit writes the line of its record, or fails with the device that has just filled up. -/
theorem Sound.visit (h : text.Sound style origin bytes) (record : Record) :
    ((text.visit record).code = 0 ∧
        (text.visit record).state.Sound style origin (bytes ++ (style.render record).toUTF8)) ∨
      ((text.visit record).code = writeFailed ∧
        (text.visit record).state.fault = some (.closed (origin.refusals + 1)) ∧
        ∃ n, (text.visit record).state.Spoiled style origin n
          (bytes ++ (style.render record).toUTF8)) := by
  have hwritten := h.sound.writeAll (text.style.pieces record)
  rw [TextStyle.join_pieces, h.style_eq] at hwritten
  rw [TextSink.visit, h.style_eq]
  rcases hout : text.out.writeAll ((style.pieces record).map String.toUTF8) with ⟨out, fault⟩
  rw [hout] at hwritten
  cases hwritten with
  | sound hsound => exact .inl ⟨rfl, rfl, h.fault_eq, hsound⟩
  | full hfull => exact .inr ⟨rfl, rfl, _, rfl, ⟨_, rfl⟩, hfull⟩

/-- A failed visit stops a run. -/
theorem code_ne_zero {record : Record} (h : (text.visit record).code = writeFailed) :
    (sink.visit text record).code ≠ 0 := by
  rw [show (sink.visit text record).code = writeFailed from h]
  decide

/-- Nothing that is visited later changes what the device has accepted. -/
theorem Spoiled.visit (h : text.Spoiled style origin n bytes) (record : Record) :
    (text.visit record).state.Spoiled style origin n bytes := by
  have hwritten := h.full.writeAll ((text.style.pieces record).map String.toUTF8)
  rw [TextSink.visit]
  rcases hout : text.out.writeAll ((text.style.pieces record).map String.toUTF8) with
    ⟨out, _ | fault⟩ <;> rw [hout] at hwritten
  · exact ⟨h.style_eq, h.exists_fault, hwritten⟩
  · exact ⟨h.style_eq, ⟨fault, rfl⟩, hwritten⟩

theorem Spoiled.visitAll (h : text.Spoiled style origin n bytes) (records : List Record) :
    (sink.visitAll text records).1.Spoiled style origin n bytes := by
  induction records generalizing text with
  | nil => exact h
  | cons record rest ih => exact ih (h.visit record)

/-- **After any calls, a sink that was sound is sound or spoiled**, and the codes of the answers tell
which. -/
theorem Sound.visitAll (h : text.Sound style origin bytes) (records : List Record) :
    ((∀ code ∈ (sink.visitAll text records).2, code = 0) ∧
        (sink.visitAll text records).1.Sound style origin (bytes ++ style.text records)) ∨
      ((∃ code ∈ (sink.visitAll text records).2, code ≠ 0) ∧
        ∃ n, (sink.visitAll text records).1.Spoiled style origin n
          (bytes ++ style.text records)) := by
  induction records generalizing text bytes with
  | nil =>
    rw [TextStyle.text_nil, ByteArray.append_empty]
    exact .inl ⟨by simp, h⟩
  | cons record rest ih =>
    rw [Sink.visitAll_cons, TextStyle.text_cons, ← ByteArray.append_assoc]
    rcases h.visit record with ⟨hcode, hnext⟩ | ⟨hcode, -, n, hspoiled⟩
    · rcases ih hnext with ⟨hcodes, hlast⟩ | ⟨⟨code, hmem, hne⟩, hlast⟩
      · exact .inl ⟨List.forall_mem_cons.mpr ⟨hcode, hcodes⟩, hlast⟩
      · exact .inr ⟨⟨code, List.mem_cons_of_mem _ hmem, hne⟩, hlast⟩
    · exact .inr ⟨⟨_, List.mem_cons_self, code_ne_zero hcode⟩, n, (hspoiled.visitAll rest).append _⟩

/-- **A text sink is fed all records, or up to its first failure.**  Of the lines of all records, even
of those that it was not called with any more, its device has then accepted what it has room for. -/
theorem Sound.feed (h : text.Sound style origin bytes) (records : List Record) :
    ((sink.feed text records).code = 0 ∧
        (sink.feed text records).state.Sound style origin (bytes ++ style.text records)) ∨
      ((sink.feed text records).code = writeFailed ∧
        (sink.feed text records).state.fault = some (.closed (origin.refusals + 1)) ∧
        ∃ n, (sink.feed text records).state.Spoiled style origin n
          (bytes ++ style.text records)) := by
  induction records generalizing text bytes with
  | nil =>
    rw [TextStyle.text_nil, ByteArray.append_empty]
    exact .inl ⟨rfl, h⟩
  | cons record rest ih =>
    rw [TextStyle.text_cons, ← ByteArray.append_assoc]
    rcases h.visit record with ⟨hcode, hnext⟩ | ⟨hcode, hfault, n, hspoiled⟩
    · rw [Sink.feed_cons_of_go (show (sink.visit text record).code = 0 from hcode)]
      exact ih hnext
    · rw [Sink.feed_cons_of_stop (code_ne_zero hcode)]
      exact .inr ⟨hcode, hfault, n, hspoiled.append _⟩

/-! ## The end -/

/-- If there is room for all bytes, they are handed on and the device is flushed. -/
theorem Sound.finish_of_holds (h : text.Sound style origin bytes)
    (hfits : origin.Holds bytes.size) :
    text.finish = ({ origin with accepted := bytes, flushes := origin.flushes + 1 },
      if origin.flushFails then .error (.io Fault.flushFailed.message) else .ok ()) := by
  rw [finish, h.fault_eq]
  simp only [Buffered.flush, h.sound.spill_of_holds hfits, Device.flush]
  cases origin.flushFails <;> rfl

/-- If there is not, the device fills up, and it is not flushed. -/
theorem Sound.finish_of_lt (h : text.Sound style origin bytes) (hcapacity : origin.capacity = some n)
    (hlt : n < bytes.size) :
    text.finish =
      ({ origin with accepted := bytes.extract 0 n, refusals := origin.refusals + 1 },
        .error (.io (Fault.closed (origin.refusals + 1)).message)) := by
  obtain ⟨rest, hspill, -⟩ := h.sound.spill_of_lt hcapacity hlt
  rw [finish, h.fault_eq]
  simp only [Buffered.flush, hspill]

theorem finish_of_fault {fault : Fault} (h : text.fault = some fault) :
    text.finish = (text.out.device, .error (.io fault.message)) := by
  rw [finish, h]

end TextSink

/-! ## Runs -/

variable {config : Config} {items : Items} {extent : Extent}

/-- The lines of the records that a run feeds its sink. -/
def Config.text (config : Config) (items : Items) (extent : Extent) : ByteArray :=
  config.style.text (config.records items extent)

/-- What a text run comes to, by what feeding its sink comes to. -/
theorem enumerateToText_eq (hitems : items.size < itemLimit)
    (hextent : config.extent items.size = .ok extent) (device : Device) :
    let fed := TextSink.sink.feed (.new config.style device) (config.records items extent)
    (enumerateToText config items device).state = fed.state.finish.1 ∧
      (enumerateToText config items device).result = fed.state.finish.2.map fun _ ↦ fed.code := by
  intro fed
  obtain ⟨hstate, statistics, hresult, -⟩ :=
    enumerate_eq_feed TextSink.sink (.new config.style device) hitems hextent
  rw [enumerateToText, hresult]
  simp only
  rw [hstate, Outcome.code_ofCode]
  exact ⟨rfl, rfl⟩

/-- **A text run whose text fits writes it and flushes the device.** -/
theorem enumerateToText_of_holds {device : Device} (hitems : items.size < itemLimit)
    (hextent : config.extent items.size = .ok extent)
    (hfits : device.Holds (device.accepted ++ config.text items extent).size) :
    (enumerateToText config items device).state =
        { device with
          accepted := device.accepted ++ config.text items extent
          flushes := device.flushes + 1 } ∧
      (enumerateToText config items device).result =
        if device.flushFails then .error (.io Fault.flushFailed.message) else .ok 0 := by
  have hholds : device.Holds device.accepted.size := by
    intro n hn
    have := hfits n hn
    rw [ByteArray.size_append] at this
    omega
  obtain ⟨hstate, hresult⟩ := enumerateToText_eq hitems hextent device
  rcases (TextSink.sound_new config.style hholds).feed (config.records items extent) with
    ⟨hcode, hsound⟩ | ⟨-, -, n, hspoiled⟩
  · rw [hsound.finish_of_holds hfits] at hstate hresult
    refine ⟨hstate, ?_⟩
    rw [hresult, hcode]
    cases device.flushFails <;> rfl
  · exact absurd hfits (Device.not_holds hspoiled.full.capacity_eq hspoiled.full.lt_size)

/-- **A text run whose text does not fit fills up the device and reports that.** -/
theorem enumerateToText_of_lt {device : Device} {n : Nat} (hitems : items.size < itemLimit)
    (hextent : config.extent items.size = .ok extent) (hcapacity : device.capacity = some n)
    (hholds : device.Holds device.accepted.size)
    (hlt : n < (device.accepted ++ config.text items extent).size) :
    (enumerateToText config items device).state =
        { device with
          accepted := (device.accepted ++ config.text items extent).extract 0 n
          refusals := (enumerateToText config items device).state.refusals } ∧
      (enumerateToText config items device).result =
        .error (.io (Fault.closed (device.refusals + 1)).message) := by
  obtain ⟨hstate, hresult⟩ := enumerateToText_eq hitems hextent device
  rcases (TextSink.sound_new config.style hholds).feed (config.records items extent) with
    ⟨-, hsound⟩ | ⟨-, hfault, m, hspoiled⟩
  · rw [hsound.finish_of_lt hcapacity hlt] at hstate hresult
    rw [hstate, hresult]
    exact ⟨rfl, rfl⟩
  · obtain rfl := Option.some.inj (hspoiled.full.capacity_eq.symm.trans hcapacity)
    rw [TextSink.finish_of_fault hfault] at hstate hresult
    rw [hstate, hresult]
    exact ⟨hspoiled.full.device_eq, rfl⟩

/-- A device without a bound accepts the lines of the records that the window of the run selects. -/
theorem accepted_enumerateToText (hitems : items.size < itemLimit)
    (hextent : config.extent items.size = .ok extent) (flushFails : Bool) :
    (enumerateToText config items (.new none flushFails)).state.accepted =
      config.text items extent := by
  have hfits : (Device.new none flushFails).Holds
      ((Device.new none flushFails).accepted ++ config.text items extent).size :=
    fun n hn ↦ by cases hn
  rw [(enumerateToText_of_holds hitems hextent hfits).1]
  exact ByteArray.empty_append

end Combinations
