import Combinations.Proofs.Text.Bytes
import Combinations.Proofs.Text.Sink
import Combinations.Proofs.Uses

/-!
# Which failure a text sink reports

A text sink that is used again and again may fail in several of its visits, with visits between them
that succeed because their lines still fit into the buffer.  It remembers one failure, and each visit
that fails puts its own in that place.  So what `TextSink.finish` reports is the latest failure, and it
is the earliest only if there was no other (`TextSink.finish_reports_latest`).

A visit ends with the first write that its device refuses, so it is refused at most once (`Tally`).
The device numbers its refusals, and therefore the failures of the visits are numbered through, and
the one that is reported says how many there were.
-/

set_option autoImplicit false

namespace Combinations

/-! ## Refusals -/

/-- An operation with the failure `fault` has taken a device from `before` refusals to `after`: there
was none if it did not fail, and otherwise one, which is the failure. -/
def Tally (before after : Nat) : (fault : Option Fault) → Prop
  | none => after = before
  | some fault => after = before + 1 ∧ fault = .closed (before + 1)

theorem Device.tally_write (device : Device) (bytes : ByteArray) :
    Tally device.refusals (device.write bytes).1.refusals (device.write bytes).2.2 := by
  rw [write]
  simp only
  split
  · exact ⟨rfl, rfl⟩
  · rfl

namespace Buffered

variable (out : Buffered) (piece : ByteArray)

theorem tally_spill : Tally out.device.refusals out.spill.1.device.refusals out.spill.2 :=
  out.device.tally_write out.pending

theorem tally_take :
    Tally out.device.refusals (out.take piece).1.device.refusals (out.take piece).2 := by
  rw [take]
  split
  · rfl
  · exact out.device.tally_write piece

theorem tally_write :
    Tally out.device.refusals (out.write piece).1.device.refusals (out.write piece).2 := by
  rw [write]
  split
  · exact out.tally_take piece
  · have hspill := out.tally_spill
    rcases hout : out.spill with ⟨spilt, _ | fault⟩ <;> rw [hout] at hspill
    · -- the spill was not refused, so what is refused is the piece
      have htake := spilt.tally_take piece
      rwa [show spilt.device.refusals = out.device.refusals from hspill] at htake
    · exact hspill

/-- **Pieces that are written up to the first failure are refused at most once.** -/
theorem tally_writeAll (pieces : List ByteArray) :
    Tally out.device.refusals (out.writeAll pieces).1.device.refusals (out.writeAll pieces).2 := by
  induction pieces generalizing out with
  | nil => rfl
  | cons piece rest ih =>
    have hwrite := out.tally_write piece
    rw [writeAll]
    rcases hout : out.write piece with ⟨next, _ | fault⟩ <;> rw [hout] at hwrite
    · have hrest := ih next
      rwa [show next.device.refusals = out.device.refusals from hwrite] at hrest
    · exact hwrite

/-! ### Full devices -/

variable {out piece} {n : Nat}

/-- A piece as large as the buffer is not held back, so a device that is full refuses it. -/
theorem take_ne_none_of_full (hcapacity : out.device.capacity = some n)
    (hfull : out.device.accepted.size = n) (hlarge : capacity ≤ piece.size) :
    (out.take piece).2 ≠ none := by
  obtain ⟨refusals, fault, hwrite, hempty⟩ := Device.write_of_full hcapacity hfull piece
  rw [take, if_neg (Nat.not_lt.mpr hlarge), hwrite]
  intro hnone
  rw [hempty hnone] at hlarge
  exact absurd hlarge (by decide)

theorem write_ne_none_of_full (hcapacity : out.device.capacity = some n)
    (hfull : out.device.accepted.size = n) (hlarge : capacity ≤ piece.size) :
    (out.write piece).2 ≠ none := by
  rw [write]
  split
  · exact take_ne_none_of_full hcapacity hfull hlarge
  · -- what is pending may be refused before it
    obtain ⟨refusals, fault, hwrite, -⟩ := Device.write_of_full hcapacity hfull out.pending
    rw [spill, hwrite]
    cases fault with
    | none => exact take_ne_none_of_full hcapacity hfull hlarge
    | some fault => exact Option.some_ne_none fault

end Buffered

namespace TextSink

/-! ## Failures of visits -/

/-- What a visit of a record fails with, if it fails. -/
def failure? (text : TextSink) (record : Record) : Option Fault :=
  (text.out.writeAll ((text.style.pieces record).map String.toUTF8)).2

/-- What the visits of records fail with, in order, whatever the sink answers in between. -/
def failures (text : TextSink) : List Record → List Fault
  | [] => []
  | record :: rest => (text.failure? record).toList ++ (text.visit record).state.failures rest

variable (text : TextSink) (record : Record)

/-- A visit that fails is answered with a code other than 0. -/
theorem code_visit :
    (text.visit record).code = if (text.failure? record).isSome then writeFailed else 0 := by
  rw [visit, failure?]
  rcases text.out.writeAll ((text.style.pieces record).map String.toUTF8) with ⟨out, _ | fault⟩ <;> rfl

/-- **A visit that fails replaces the failure that is remembered.** -/
theorem fault_visit : (text.visit record).state.fault = (text.failure? record).or text.fault := by
  rw [visit, failure?]
  rcases text.out.writeAll ((text.style.pieces record).map String.toUTF8) with ⟨out, _ | fault⟩ <;> rfl

theorem tally_visit :
    Tally text.out.device.refusals (text.visit record).state.out.device.refusals
      (text.failure? record) := by
  have hwritten := text.out.tally_writeAll ((text.style.pieces record).map String.toUTF8)
  rw [visit, failure?]
  rcases hout : text.out.writeAll ((text.style.pieces record).map String.toUTF8) with
    ⟨out, _ | fault⟩ <;> rw [hout] at hwritten <;> exact hwritten

/-- The failure that is remembered in the end is the latest, or the one from before if there is
none. -/
theorem fault_visitAll (records : List Record) :
    (sink.visitAll text records).1.fault = (text.failures records).getLast?.or text.fault := by
  induction records generalizing text with
  | nil => rfl
  | cons record rest ih =>
    rw [Sink.visitAll_cons, failures, List.getLast?_append, Option.or_assoc]
    refine (ih (text.visit record).state).trans ?_
    rw [fault_visit]
    cases text.failure? record <;> rfl

/-- There are as many failures as answers with a code other than 0. -/
theorem length_failures (records : List Record) :
    (text.failures records).length = (sink.visitAll text records).2.countP (· ≠ 0) := by
  induction records generalizing text with
  | nil => rfl
  | cons record rest ih =>
    have hrest := ih (text.visit record).state
    have hcode := text.code_visit record
    rw [Sink.visitAll_cons, failures, List.length_append, List.countP_cons, hrest,
      show (sink.visit text record).code = (text.visit record).code from rfl, hcode]
    cases text.failure? record <;> simp [sink, writeFailed, Nat.add_comm]

/-- **The failures are numbered through**, from the refusals that the device has counted before. -/
theorem failures_eq (records : List Record) :
    text.failures records =
      (List.range' (text.out.device.refusals + 1) (text.failures records).length).map .closed := by
  induction records generalizing text with
  | nil => rfl
  | cons record rest ih =>
    have hrest := ih (text.visit record).state
    have htally := text.tally_visit record
    rw [failures]
    cases hfailure : text.failure? record with
    | none =>
      rw [hfailure] at htally
      rw [show (text.visit record).state.out.device.refusals = _ from htally] at hrest
      exact hrest
    | some fault =>
      rw [hfailure] at htally
      obtain ⟨hafter, rfl⟩ := htally
      rw [hafter] at hrest
      rw [Option.toList_some, List.singleton_append, List.length_cons, List.range'_succ,
        List.map_cons, ← hrest]

/-! ## The failure that is reported -/

theorem message_closed_inj {a b : Nat} :
    (Fault.closed a).message = (Fault.closed b).message ↔ a = b :=
  (String.append_right_inj _).trans repr_inj

/-- **Finishing reports the latest failure.**  A sink is used in any way, `calls` are the records that
it is called with on the whole, and `failures` are the failures of the visits that failed, in order.

* They are the refusals of the device, one for each visit that was not answered with 0.
* If there is any, finishing reports the latest.
* That is the earliest if and only if there is one failure only. -/
theorem finish_reports_latest (style : TextStyle) (capacity : Option Nat) (flushFails : Bool)
    (uses : List Use) :
    let start := new style (.new capacity flushFails)
    let calls := (sink.traced.useAll (start, []) uses).2
    let codes := (sink.visitAll start calls).2
    let failures := start.failures calls
    let text := sink.useAll start uses
    text = (sink.visitAll start calls).1 ∧
      failures = (List.range' 1 (codes.countP (· ≠ 0))).map .closed ∧
      (∀ latest ∈ failures.getLast?, text.finish.2 = .error (.io latest.message)) ∧
      ∀ earliest ∈ failures.head?,
        (text.finish.2 = .error (.io earliest.message) ↔ failures.length = 1) := by
  intro start calls codes failures text
  obtain ⟨made, htraced, hmade⟩ := sink.exists_calls_useAll start [] uses
  have htext : text = (sink.visitAll start calls).1 := by
    rw [show calls = made from congrArg Prod.snd htraced, hmade]
  have hnumbered : failures = (List.range' 1 failures.length).map .closed :=
    start.failures_eq calls
  have hfault : text.fault = failures.getLast? := by
    rw [htext, fault_visitAll]
    exact Option.or_none
  have hlatest : ∀ latest ∈ failures.getLast?, text.finish.2 = .error (.io latest.message) := by
    intro latest hmem
    rw [finish_of_fault (hfault.trans hmem)]
  refine ⟨htext, ?_, hlatest, ?_⟩
  · rw [← start.length_failures calls]
    exact hnumbered
  · intro earliest hearliest
    -- the earliest failure has the number 1, and the latest the number of all failures
    obtain ⟨others, hothers⟩ := List.head?_eq_some_iff.mp hearliest
    obtain ⟨m, hm⟩ : ∃ m, failures.length = m + 1 := ⟨others.length, congrArg List.length hothers⟩
    rw [hm] at hnumbered
    have hone : earliest = .closed 1 := by
      rw [hnumbered, List.range'_succ, List.map_cons, List.head?_cons] at hearliest
      exact (Option.some.inj hearliest).symm
    have hlast : failures.getLast? = some (.closed (m + 1)) := by
      rw [hnumbered, List.range'_concat, List.map_append, Nat.one_mul, Nat.add_comm 1]
      exact List.getLast?_concat
    rw [hlatest _ hlast, hone, hm, Except.error.injEq, Error.io.injEq, message_closed_inj]

/-! ## Two visits that fail -/

/-- A visit fails if the device is full and the line begins with a piece as large as the buffer. -/
theorem isSome_failure?_of_full {text : TextSink} {record : Record} {n : Nat} {piece : String}
    {rest : List String} (hcapacity : text.out.device.capacity = some n)
    (hfull : text.out.device.accepted.size = n) (hpieces : text.style.pieces record = piece :: rest)
    (hlarge : Buffered.capacity ≤ piece.utf8ByteSize) : (text.failure? record).isSome := by
  have hwrite : (text.out.write piece.toUTF8).2 ≠ none := by
    refine Buffered.write_ne_none_of_full hcapacity hfull ?_
    rwa [String.toUTF8_eq_toByteArray, String.size_toByteArray]
  rw [failure?, hpieces, List.map_cons, Buffered.writeAll]
  rcases hout : text.out.write piece.toUTF8 with ⟨out, _ | fault⟩ <;> rw [hout] at hwrite
  · exact absurd rfl hwrite
  · rfl

/-- A device that accepts nothing refuses two large items, one after the other. -/
theorem failures_of_large {item : String} (hlarge : Buffered.capacity ≤ item.utf8ByteSize) :
    (new .default (.new (some 0) false)).failures [⟨none, [item]⟩, ⟨none, [item]⟩] =
      [.closed 1, .closed 2] := by
  have hstart : (new .default (.new (some 0) false)).Sound .default (.new (some 0) false) .empty :=
    sound_new _ fun _ _ ↦ Nat.zero_le _
  have hfirst : ((new .default (.new (some 0) false)).failure? ⟨none, [item]⟩).isSome :=
    isSome_failure?_of_full rfl rfl rfl hlarge
  have hsecond : (((new .default (.new (some 0) false)).visit ⟨none, [item]⟩).state.failure?
      ⟨none, [item]⟩).isSome := by
    rcases hstart.visit ⟨none, [item]⟩ with ⟨hcode, -⟩ | ⟨-, -, n, hspoiled⟩
    · rw [code_visit, if_pos hfirst] at hcode
      exact absurd hcode (by decide)
    · have hpieces : ((new .default (.new (some 0) false)).visit
          ⟨none, [item]⟩).state.style.pieces ⟨none, [item]⟩ = [item, "\n"] := by
        rw [hspoiled.style_eq]
        rfl
      refine isSome_failure?_of_full ?_ hspoiled.full.size_accepted hpieces hlarge
      rw [hspoiled.full.device_eq, hspoiled.full.capacity_eq]
  obtain ⟨first, hfirst⟩ := Option.isSome_iff_exists.mp hfirst
  obtain ⟨second, hsecond⟩ := Option.isSome_iff_exists.mp hsecond
  have hlength : ((new .default (.new (some 0) false)).failures
      [⟨none, [item]⟩, ⟨none, [item]⟩]).length = 2 := by
    rw [failures, failures, failures, hfirst, hsecond]
    rfl
  rw [failures_eq, hlength]
  rfl

theorem utf8ByteSize_replicate (n : Nat) :
    (String.ofList (List.replicate n 'a')).utf8ByteSize = n := by
  induction n with
  | zero => rfl
  | succ n ih =>
    rw [List.replicate_succ, String.ofList_cons, String.utf8ByteSize_append, ih, Nat.add_comm]
    rfl

/-- Both visits of an item that is as large as the buffer are refused, and what is reported is the
second refusal. -/
theorem finish_reports_latest_of_two :
    let start := new .default (.new (some 0) false)
    let line : Record := ⟨none, [String.ofList (List.replicate 8192 'a')]⟩
    let calls := (sink.traced.useAll (start, []) [.visit line, .visit line]).2
    let text := sink.useAll start [.visit line, .visit line]
    calls = [line, line] ∧ (start.failures calls).getLast? = some (.closed 2) ∧
      text.finish.2 = .error (.io "closed #2") ∧ (start.failures calls).head? = some (.closed 1) ∧
      (text.finish.2 = .error (.io "closed #1") ↔ (start.failures calls).length = 1) := by
  intro start line calls text
  have hfailures : start.failures calls = [.closed 1, .closed 2] :=
    failures_of_large (utf8ByteSize_replicate 8192).ge
  obtain ⟨-, -, hlatest, hearliest⟩ :=
    finish_reports_latest .default (some 0) false [.visit line, .visit line]
  have hlast : (start.failures calls).getLast? = some (.closed 2) := by rw [hfailures]; rfl
  have hhead : (start.failures calls).head? = some (.closed 1) := by rw [hfailures]; rfl
  exact ⟨rfl, hlast, hlatest _ hlast, hhead, hearliest _ hhead⟩

/-- The earliest failure is lost: the device refuses both visits, and it is not the first refusal that
is reported. -/
theorem finish_ne_earliest :
    let start := new .default (.new (some 0) false)
    let line : Record := ⟨none, [String.ofList (List.replicate 8192 'a')]⟩
    let text := sink.useAll start [.visit line, .visit line]
    start.failures [line, line] = [.closed 1, .closed 2] ∧
      text.finish.2 ≠ .error (.io (Fault.closed 1).message) := by
  intro start line text
  have hfailures : start.failures [line, line] = [.closed 1, .closed 2] :=
    failures_of_large (utf8ByteSize_replicate 8192).ge
  have huses : text = (sink.visitAll start [line, line]).1 :=
    sink.useAll_map_visit start [line, line]
  have hfault : text.fault = some (.closed 2) := by
    rw [huses, fault_visitAll, hfailures]
    rfl
  refine ⟨hfailures, ?_⟩
  rw [finish_of_fault hfault, Ne, Except.error.injEq, Error.io.injEq, message_closed_inj]
  decide

end TextSink
end Combinations
