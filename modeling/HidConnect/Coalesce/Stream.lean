import HidConnect.Coalesce
import Mathlib.Data.List.Forall2

/-! The writer as a stream of messages: those on the wire, then those still buffered. -/
namespace HidConnect
open Fallible

namespace CoalescingWriter

/-- A writer whose bytes are whole messages: `sent` on the wire and `held` in the buffer. A
critical message is never held, and a direct writer holds nothing. -/
structure Carries (direct : Bool) (w : CoalescingWriter) (sent held : List ControlMessage) :
    Prop where
  mode : w.direct = direct
  wire : w.transport.wire = encodeAll sent
  pending : w.pending = encodeAll held
  sentOk : ∀ msg ∈ sent, msg.Serializes
  heldOk : ∀ msg ∈ held, msg.Serializes ∧ msg.isCritical = false
  unbuffered : direct = true → held = []
  allOrNothing : w.transport.AllOrNothing
  flushOk : w.transport.FlushOk

/-- What a call that is to emit `msgs` did. A first part of them joined the stream, all of them
if the call returned `Ok`; when they serialize and the transport never fails it does, with the
counters moved by `count` messages and by the bytes that were written. -/
structure Effect (direct : Bool) (w : CoalescingWriter) (sent held msgs : List ControlMessage)
    (count : Nat) (ok : Bool) (w' : CoalescingWriter) : Prop where
  stream : ∃ landed sent' held', Carries direct w' sent' held' ∧
    sent' ++ held' = sent ++ held ++ landed ∧ landed <+: msgs ∧ (ok = true → landed = msgs)
  onWrite : w'.transport.onWrite = w.transport.onWrite
  onFlush : w'.transport.onFlush = w.transport.onFlush
  total : w.transport.NeverFails → (∀ msg ∈ msgs, msg.Serializes) → ok = true
  tally : w.transport.NeverFails → (∀ msg ∈ msgs, msg.Serializes) →
    w'.pushed = w.pushed + count ∧
    w'.written + w.transport.wire.length = w.written + w'.transport.wire.length

def Emits {α : Type} (direct : Bool) (msgs : List ControlMessage) (count : Nat)
    (m : Coalescing α) : Prop :=
  ∀ w sent held, Carries direct w sent held →
    Effect direct w sent held msgs count (m.run w).1.isOk (m.run w).2

theorem Effect.trans {d ok : Bool} {w w₁ w₂ : CoalescingWriter}
    {sent held sent₁ held₁ xs ys : List ControlMessage} {a b : Nat}
    (first : Effect d w sent held xs a true w₁) (joined : sent₁ ++ held₁ = sent ++ held ++ xs)
    (second : Effect d w₁ sent₁ held₁ ys b ok w₂) :
    Effect d w sent held (xs ++ ys) (a + b) ok w₂ := by
  obtain ⟨landed, sent₂, held₂, carries₂, joined₂, part₂, all₂⟩ := second.stream
  have never (h : w.transport.NeverFails) : w₁.transport.NeverFails := by
    unfold Transport.NeverFails Transport.FlushOk at h ⊢
    rwa [first.onWrite, first.onFlush]
  refine ⟨⟨xs ++ landed, sent₂, held₂, carries₂, ?_, ?_, ?_⟩, ?_, ?_, ?_, ?_⟩
  · rw [joined₂, joined, List.append_assoc (sent ++ held)]
  · exact (List.prefix_append_right_inj xs).mpr part₂
  · exact fun ok => by rw [all₂ ok]
  · exact second.onWrite.trans first.onWrite
  · exact second.onFlush.trans first.onFlush
  · exact fun h all => second.total (never h) fun m hm => all m (List.mem_append_right _ hm)
  · intro h all
    have t₁ := first.tally h fun m hm => all m (List.mem_append_left _ hm)
    have t₂ := second.tally (never h) fun m hm => all m (List.mem_append_right _ hm)
    omega

/-- A call that stopped early emitted a first part of what it was to emit. -/
theorem Effect.stopped {d : Bool} {w w₁ : CoalescingWriter}
    {sent held xs : List ControlMessage} {a : Nat} (first : Effect d w sent held xs a false w₁)
    (ys : List ControlMessage) (b : Nat) : Effect d w sent held (xs ++ ys) b false w₁ := by
  obtain ⟨landed, sent₁, held₁, carries₁, joined₁, part₁, _⟩ := first.stream
  have stuck (h : w.transport.NeverFails) (all : ∀ msg ∈ xs ++ ys, msg.Serializes) : False :=
    nomatch first.total h fun m hm => all m (List.mem_append_left _ hm)
  exact ⟨⟨landed, sent₁, held₁, carries₁, joined₁, part₁.trans (List.prefix_append xs ys),
    fun ok => nomatch ok⟩, first.onWrite, first.onFlush, fun h all => (stuck h all).elim,
    fun h all => (stuck h all).elim⟩

theorem Effect.bind {α β : Type} {d : Bool} {w : CoalescingWriter}
    {sent held xs ys : List ControlMessage} {a b : Nat} {m : Coalescing α}
    {f : α → Coalescing β} (first : Effect d w sent held xs a (m.run w).1.isOk (m.run w).2)
    (hf : ∀ v, Emits d ys b (f v)) :
    Effect d w sent held (xs ++ ys) (a + b) ((m >>= f).run w).1.isOk ((m >>= f).run w).2 := by
  cases hr : m.run w with
  | mk r t =>
  rw [hr] at first
  cases r with
  | ok v =>
    rw [Method.run_bind_ok hr]
    obtain ⟨landed, sent₁, held₁, carries₁, joined₁, _, all₁⟩ := first.stream
    obtain rfl := all₁ rfl
    exact first.trans joined₁ (hf v t sent₁ held₁ carries₁)
  | err e =>
    rw [Method.run_bind_err hr]
    exact first.stopped ys _
  | panic =>
    rw [Method.run_bind_panic hr]
    exact first.stopped ys _

theorem Emits.bind {α β : Type} {d : Bool} {xs ys : List ControlMessage} {a b : Nat}
    {m : Coalescing α} {f : α → Coalescing β} (hm : Emits d xs a m)
    (hf : ∀ v, Emits d ys b (f v)) : Emits d (xs ++ ys) (a + b) (m >>= f) :=
  fun w sent held carries => (hm w sent held carries).bind hf

/-- A call that leaves the stream alone. -/
def Silent {α : Type} (count : Nat) (m : Coalescing α) : Prop :=
  ∀ w, (m.run w).1.isOk = true ∧ (m.run w).2.transport = w.transport ∧
    (m.run w).2.pending = w.pending ∧ (m.run w).2.direct = w.direct ∧
    (m.run w).2.pushed = w.pushed + count ∧ (m.run w).2.written = w.written

theorem Silent.emits {α : Type} {count : Nat} {m : Coalescing α} (h : Silent count m) (d : Bool) :
    Emits d [] count m := by
  intro w sent held carries
  obtain ⟨ok, transport, pending, direct, pushed, written⟩ := h w
  refine ⟨⟨[], sent, held, ?_, (List.append_nil _).symm, List.prefix_rfl, fun _ => rfl⟩,
    by rw [transport], by rw [transport], fun _ _ => ok,
    fun _ _ => ⟨pushed, by rw [written, transport]⟩⟩
  exact ⟨direct.trans carries.mode, by rw [transport, carries.wire], by rw [pending, carries.pending],
    carries.sentOk, carries.heldOk, carries.unbuffered, by rw [transport]; exact carries.allOrNothing,
    by rw [transport]; exact carries.flushOk⟩

theorem silent_pure {α : Type} (a : α) : Silent 0 (pure a) := fun _ => ⟨rfl, rfl, rfl, rfl, rfl, rfl⟩
theorem silent_read : Silent 0 .read := fun _ => ⟨rfl, rfl, rfl, rfl, rfl, rfl⟩
theorem silent_elapsed : Silent 0 elapsed := fun _ => ⟨rfl, rfl, rfl, rfl, rfl, rfl⟩
theorem silent_stampFlush : Silent 0 stampFlush := fun _ => ⟨rfl, rfl, rfl, rfl, rfl, rfl⟩
theorem silent_countPushed (n : Nat) : Silent n (countPushed n) :=
  fun _ => ⟨rfl, rfl, rfl, rfl, rfl, rfl⟩

end CoalescingWriter

/- Every encoder of an input message writes the bytes of `ControlMessage.serialize`. -/

def gamepadMessage (id : UInt16) (data : Payload) : ControlMessage :=
  .uhidInput { id, size := 15, data }

/-- The message that a size and a slice of data stand for. -/
def uhidInputMessage (id size : UInt16) (data : List UInt8) : ControlMessage :=
  .uhidInput { id, size, data := padReport data }

theorem serialize_uhidInput (i : UhidInput) (fits : i.size.toNat ≤ hidMaxSize) :
    ControlMessage.serialize (.uhidInput i) =
      .ok (uhidInputParts i.id i.size.toNat i.data.toList).flatten := by
  have small : ¬i.size.toNat > hidMaxSize := by omega
  have payload : (ControlMessage.serializePayload (.uhidInput i)).run [] =
      (.ok (), be16 i.id ++ (be16 i.size ++ i.data.toList.take i.size.toNat)) := by
    simp [ControlMessage.serializePayload, serializeUhidInput, small, writeU16Be, extendFromSlice,
      be16]
  have short : (be16 i.id ++ (be16 i.size ++ i.data.toList.take i.size.toNat)).length <
      controlMsgMaxSize := by
    have taken := List.length_take_le i.size.toNat i.data.toList
    have fits' : i.size.toNat ≤ 15 := fits
    simp only [be16, List.length_append, Bytes.length_toBe, controlMsgMaxSize]
    omega
  rw [ControlMessage.serialize_payload payload short]
  simp [uhidInputParts, inputHeader, ControlMessage.msgType]

theorem serialize_uhidInput_long (i : UhidInput) (long : i.size.toNat > hidMaxSize) :
    ControlMessage.serialize (.uhidInput i) =
      .err (.controlMessageTooLarge (i.size.toNat + 5) hidMsgBudget) := by
  simp [ControlMessage.serialize, ControlMessage.serializeInto, ControlMessage.serializeTagged,
    ControlMessage.serializePayload, serializeUhidInput, Method.rollback, Method.run_bind,
    pushByte, writeU16Be, extendFromSlice, long]

theorem flatten_gamepadInputParts (id : UInt16) (data : Payload) :
    (gamepadInputParts id data).flatten = (gamepadMessage id data).bytes := by
  have fifteen : data.toList.length = 15 := data.length_toList
  have whole : data.toList.take 15 = data.toList := List.take_of_length_le (by omega)
  have ok := serialize_uhidInput { id, size := 15, data } (Nat.le_refl 15)
  rw [gamepadMessage, ControlMessage.bytes, ok]
  simp [gamepadInputParts, uhidInputParts, gamepadReportSize, whole]

theorem flatten_gamepadFieldsParts (id : UInt16) (frame : GamepadFrameRaw) :
    (gamepadFieldsParts id frame).flatten = (gamepadInputParts id frame.pack).flatten := by
  have length : (leBytes (axisRescale frame.leftX) ++ leBytes (axisRescale frame.leftY) ++
      leBytes (axisRescale frame.rightX) ++ leBytes (axisRescale frame.rightY) ++
      leBytes (triggerRescale frame.leftTrigger) ++ leBytes (triggerRescale frame.rightTrigger) ++
      leBytes frame.buttons.toUInt16 ++ [dpadHatValue frame.buttons]).length = hidMaxSize := by
    simp only [leBytes, List.length_append, Bytes.length_toLe, List.length_singleton]
  have packed := toList_padReport length
  rw [gamepadInputParts, GamepadFrameRaw.pack, packed]
  simp only [gamepadFieldsParts, List.flatten_append, List.flatten_cons, List.flatten_nil,
    List.append_assoc, List.append_nil]

theorem appends_extendAll (parts : List (List UInt8)) :
    Appends (extendAll parts) (.ok ()) parts.flatten := by
  induction parts with
  | nil => exact appends_pure ()
  | cons part parts ih => exact (appends_extend part).bind ih

theorem copyAll_take {parts : List (List UInt8)} {n k : Nat} (exact' : parts.flatten.length = k)
    (room : k ≤ n) : (Bytes.copyAll 0 parts (zeros n)).take k = parts.flatten := by
  have blank : Bytes.StartsWith (zeros n) [] n := ⟨List.length_replicate, rfl⟩
  have filled := blank.copyAll parts (by simpa [exact'] using room)
  have front := filled.2
  simp only [List.nil_append, List.length_nil, exact'] at front
  exact front

theorem copyAll_whole {parts : List (List UInt8)} {n : Nat} (exact' : parts.flatten.length = n) :
    Bytes.copyAll 0 parts (zeros n) = parts.flatten := by
  have blank : Bytes.StartsWith (zeros n) [] n := ⟨List.length_replicate, rfl⟩
  have filled := blank.copyAll parts (by simp [exact'])
  have length := filled.1
  simp only [List.length_nil] at length
  rw [← copyAll_take exact' (Nat.le_refl n), List.take_of_length_le (Nat.le_of_eq length)]

theorem length_gamepadInputParts (id : UInt16) (data : Payload) :
    (gamepadInputParts id data).flatten.length = gamepadReportSize + 5 := by
  have fifteen : data.toList.length = 15 := data.length_toList
  simp [gamepadInputParts, inputHeader, be16, gamepadReportSize, fifteen]

theorem length_uhidInputParts (id : UInt16) {size : Nat} {data : List UInt8}
    (enough : size ≤ data.length) : (uhidInputParts id size data).flatten.length = 5 + size := by
  simp [uhidInputParts, inputHeader, be16, enough]
  omega

theorem encodeGamepadInput_eq (id : UInt16) (data : Payload) :
    encodeGamepadInputToArray id data = (gamepadMessage id data).bytes := by
  rw [← flatten_gamepadInputParts]
  exact copyAll_whole (length_gamepadInputParts id data)

theorem encodeGamepadInputFields_eq (id : UInt16) (frame : GamepadFrameRaw) :
    encodeGamepadInputFieldsToArray id frame = (gamepadMessage id frame.pack).bytes := by
  rw [← flatten_gamepadInputParts, ← flatten_gamepadFieldsParts]
  refine copyAll_whole ?_
  rw [flatten_gamepadFieldsParts, length_gamepadInputParts]

theorem gamepadMessage_serializes (id : UInt16) (data : Payload) :
    (gamepadMessage id data).Serializes := by
  have ok := serialize_uhidInput { id, size := 15, data } (Nat.le_refl 15)
  rw [gamepadMessage, ControlMessage.Serializes, ok]
  rfl

def FitsInput (size : Nat) (data : List UInt8) : Prop := size ≤ hidMaxSize ∧ size ≤ data.length

instance (size : Nat) (data : List UInt8) : Decidable (FitsInput size data) :=
  inferInstanceAs (Decidable (_ ∧ _))

theorem fitsInput_whole {data : List UInt8} (short : data.length ≤ hidMaxSize) :
    FitsInput data.length.toUInt16.toNat data := by
  have bound : hidMaxSize < 2 ^ 16 := by decide
  have same : data.length.toUInt16.toNat = data.length :=
    Nat.mod_eq_of_lt (Nat.lt_of_le_of_lt short bound)
  rw [same]
  exact ⟨short, Nat.le_refl _⟩

theorem FitsInput.not_rejected {size : Nat} {data : List UInt8} (h : FitsInput size data) :
    ¬(size > hidMaxSize ∨ size > data.length) := by
  obtain ⟨small, enough⟩ := h
  omega

theorem rejected_of_not_fits {size : Nat} {data : List UInt8} (h : ¬FitsInput size data) :
    size > hidMaxSize ∨ size > data.length := by
  unfold FitsInput at h
  omega

theorem serialize_uhidInputMessage (id size : UInt16) {data : List UInt8}
    (fits : FitsInput size.toNat data) :
    (uhidInputMessage id size data).serialize =
      .ok (uhidInputParts id size.toNat data).flatten := by
  rw [uhidInputMessage, serialize_uhidInput _ fits.1]
  simp only [uhidInputParts, padReport_take fits.1 fits.2]

theorem encodeUhidInput_ok (id size : UInt16) {data : List UInt8} (fits : FitsInput size.toNat data) :
    ∃ raw, encodeUhidInputToArray id size.toNat data = .ok (raw, 5 + size.toNat) ∧
      raw.take (5 + size.toNat) = (uhidInputParts id size.toNat data).flatten := by
  refine ⟨_, by rw [encodeUhidInputToArray, if_neg fits.not_rejected], ?_⟩
  refine copyAll_take (length_uhidInputParts id fits.2) ?_
  have small := fits.1
  omega

namespace CoalescingWriter

theorem emits_onPending {m : Writer Unit} {msgs : List ControlMessage}
    (appends : Appends m (.ok ()) (encodeAll msgs))
    (ok : ∀ msg ∈ msgs, msg.Serializes ∧ msg.isCritical = false) :
    Emits false msgs 0 (onPending m) := by
  intro w sent held carries
  have run : (onPending m).run w = (.ok (), { w with pending := w.pending ++ encodeAll msgs }) := by
    simp only [onPending, Method.run_zoom, appends w.pending]
  rw [run]
  refine ⟨⟨msgs, sent, held ++ msgs, ?_, (List.append_assoc ..).symm, List.prefix_rfl, fun _ => rfl⟩,
    rfl, rfl, fun _ _ => rfl, fun _ _ => ⟨rfl, rfl⟩⟩
  refine ⟨carries.mode, carries.wire, ?_, carries.sentOk, ?_, fun h => by contradiction,
    carries.allOrNothing, carries.flushOk⟩
  · simp only [carries.pending, encodeAll_append]
  · intro msg hm
    rcases List.mem_append.mp hm with hm | hm
    · exact carries.heldOk msg hm
    · exact ok msg hm

theorem effect_writeThrough {d : Bool} {msgs : List ControlMessage}
    (ok : ∀ msg ∈ msgs, msg.Serializes) {w : CoalescingWriter} {sent : List ControlMessage}
    (carries : Carries d w sent []) :
    Effect d w sent [] msgs 0 ((writeThrough (encodeAll msgs)).run w).1.isOk
      ((writeThrough (encodeAll msgs)).run w).2 := by
  cases hw : w.transport.onWrite w.transport.writes with
  | ok =>
    have flush := carries.flushOk w.transport.flushes
    simp [writeThrough, onTransport, Method.run_bind, Transport.deliver, Transport.writeAll,
      Transport.flush, hw, flush, countFlush]
    refine ⟨⟨msgs, sent ++ msgs, [], ?_, by simp, List.prefix_rfl, fun _ => rfl⟩, rfl, rfl,
      fun _ _ => rfl, fun _ _ => ?_⟩
    · refine ⟨carries.mode, ?_, carries.pending, ?_, carries.heldOk, carries.unbuffered,
        carries.allOrNothing, carries.flushOk⟩
      · simp only [carries.wire, encodeAll_append]
      · intro msg hm
        rcases List.mem_append.mp hm with hm | hm
        · exact carries.sentOk msg hm
        · exact ok msg hm
    · simp only [List.length_append]
      omega
  | failed landed e =>
    obtain rfl := carries.allOrNothing _ _ _ hw
    simp [writeThrough, onTransport, Method.run_bind, Transport.deliver, Transport.writeAll, hw]
    refine ⟨⟨[], sent, [], ?_, by simp, List.nil_prefix, fun h => by contradiction⟩, rfl, rfl,
      fun h _ => ?_, fun h _ => ?_⟩
    · exact ⟨carries.mode, carries.wire, carries.pending, carries.sentOk, carries.heldOk,
        carries.unbuffered, carries.allOrNothing, carries.flushOk⟩
    · rw [h.1] at hw
      contradiction
    · rw [h.1] at hw
      contradiction

/-- A flush moves what is held onto the wire, or fails and leaves it where it is. -/
theorem flushNow_effect {d : Bool} {w : CoalescingWriter} {sent held : List ControlMessage}
    (carries : Carries d w sent held) :
    Effect d w sent held [] 0 (flushNow.run w).1.isOk (flushNow.run w).2 ∧
      ((flushNow.run w).1.isOk = true → Carries d (flushNow.run w).2 (sent ++ held) []) := by
  have all : ∀ msg ∈ sent ++ held, msg.Serializes := by
    intro msg hm
    rcases List.mem_append.mp hm with hm | hm
    · exact carries.sentOk msg hm
    · exact (carries.heldOk msg hm).1
  have none' : ∀ msg ∈ ([] : List ControlMessage), msg.Serializes ∧ msg.isCritical = false :=
    List.forall_mem_nil _
  have wire := carries.wire
  have pending := carries.pending
  have done : ∀ w', w'.direct = w.direct → w'.pending = [] →
      w'.transport.wire = w.transport.wire ++ w.pending →
      w'.transport.onWrite = w.transport.onWrite → w'.transport.onFlush = w.transport.onFlush →
      Carries d w' (sent ++ held) [] := by
    intro w' mode cleared wire' onWrite onFlush
    refine ⟨mode.trans carries.mode, by rw [wire', encodeAll_append, wire, pending], cleared, all,
      none', fun _ => rfl, ?_, ?_⟩
    · rw [Transport.AllOrNothing, onWrite]
      exact carries.allOrNothing
    · rw [Transport.FlushOk, onFlush]
      exact carries.flushOk
  by_cases empty : w.pending = []
  · simp [flushNow, Method.run_bind, empty, stampFlush, now]
    have whole : w.transport.wire = w.transport.wire ++ w.pending := by simp [empty]
    exact ⟨⟨⟨[], sent ++ held, [], done _ rfl rfl whole rfl rfl, by simp, List.prefix_rfl,
      fun _ => rfl⟩, rfl, rfl, fun _ _ => rfl, fun _ _ => ⟨rfl, rfl⟩⟩, done _ rfl rfl whole rfl rfl⟩
  · cases hw : w.transport.onWrite w.transport.writes with
    | ok =>
      have flush := carries.flushOk w.transport.flushes
      simp [flushNow, onTransport, Method.run_bind, Transport.deliver, Transport.writeAll,
        Transport.flush, hw, flush, empty, stampFlush, now, countFlush]
      refine ⟨⟨⟨[], sent ++ held, [], done _ rfl rfl rfl rfl rfl, by simp, List.prefix_rfl,
        fun _ => rfl⟩, rfl, rfl, fun _ _ => rfl, fun _ _ => ⟨rfl, ?_⟩⟩, done _ rfl rfl rfl rfl rfl⟩
      simp only [List.length_append]
      omega
    | failed landed e =>
      obtain rfl := carries.allOrNothing _ _ _ hw
      simp [flushNow, onTransport, Method.run_bind, Transport.deliver, Transport.writeAll, hw, empty]
      refine ⟨⟨[], sent, held, ?_, by simp, List.nil_prefix, fun h => by contradiction⟩, rfl, rfl,
        fun h _ => ?_, fun h _ => ?_⟩
      · exact ⟨carries.mode, wire, pending, carries.sentOk, carries.heldOk, carries.unbuffered,
          carries.allOrNothing, carries.flushOk⟩
      · rw [h.1] at hw
        contradiction
      · rw [h.1] at hw
        contradiction

theorem emits_flushNow (d : Bool) : Emits d [] 0 flushNow :=
  fun _ _ _ carries => (flushNow_effect carries).1

theorem Emits.ite {α : Type} {d : Bool} {msgs : List ControlMessage} {n : Nat} {p : Prop}
    [Decidable p] {a b : Coalescing α} (ha : Emits d msgs n a) (hb : Emits d msgs n b) :
    Emits d msgs n (if p then a else b) := by
  split
  · exact ha
  · exact hb

theorem Emits.after {α β : Type} {d : Bool} {msgs : List ControlMessage} {n : Nat}
    {m : Coalescing α} {f : α → Coalescing β} (hm : Silent 0 m) (hf : ∀ v, Emits d msgs n (f v)) :
    Emits d msgs n (m >>= f) := by
  have both := (hm.emits d).bind hf
  rwa [Nat.zero_add] at both

theorem Emits.counted {α : Type} {d : Bool} {msgs : List ControlMessage} {n : Nat}
    {f : Unit → Coalescing α} (hf : ∀ v, Emits d msgs 0 (f v)) :
    Emits d msgs n (countPushed n >>= f) :=
  ((silent_countPushed n).emits d).bind hf

theorem Emits.then {α β : Type} {d : Bool} {msgs : List ControlMessage} {n : Nat}
    {m : Coalescing α} {f : α → Coalescing β} (hm : Emits d msgs n m)
    (hf : ∀ v, Emits d [] 0 (f v)) : Emits d msgs n (m >>= f) := by
  have both := hm.bind hf
  rwa [List.append_nil] at both

theorem Emits.discard {α : Type} {d : Bool} {msgs : List ControlMessage} {n : Nat}
    {m : Coalescing α} (hm : Emits d msgs n m) : Emits d msgs n (.discard m) := by
  intro w sent held carries
  rw [Method.run_discard, Outcome.isOk_map]
  exact hm w sent held carries

theorem emits_pure {α : Type} (d : Bool) (a : α) : Emits d [] 0 (pure a : Coalescing α) :=
  (silent_pure a).emits d

theorem emits_flushIfWindow (d : Bool) (otherwise : FlushReason) :
    Emits d [] 0 (flushIfWindow otherwise) :=
  ((silent_elapsed.emits d).then fun _ => (silent_read.emits d).then fun _ =>
    Emits.ite ((emits_flushNow d).then fun _ => emits_pure d _) (emits_pure d _))

theorem emits_flushIfDue (d : Bool) : Emits d [] 0 flushIfDue :=
  (silent_read.emits d).then fun _ =>
    Emits.ite ((emits_flushNow d).then fun _ => emits_pure d _) (emits_flushIfWindow d _)

theorem emits_writeThrough {msgs : List ControlMessage} (ok : ∀ msg ∈ msgs, msg.Serializes) :
    Emits true msgs 0 (writeThrough (encodeAll msgs)) := by
  intro w sent held carries
  obtain rfl := carries.unbuffered rfl
  exact effect_writeThrough ok carries

theorem emits_writeDirect {msgs : List ControlMessage} (ok : ∀ msg ∈ msgs, msg.Serializes) :
    Emits true msgs 0 (writeDirect (encodeAll msgs)) :=
  (emits_writeThrough ok).then fun _ => silent_stampFlush.emits true

/-- The mode is read once at the start of every push. -/
theorem emits_read {α : Type} {d : Bool} {msgs : List ControlMessage} {n : Nat}
    {f : CoalescingWriter → Coalescing α} (h : ∀ w, w.direct = d → Emits d msgs n (f w)) :
    Emits d msgs n (.read >>= f) :=
  fun w _ _ carries => h w carries.mode w _ _ carries

theorem emits_gamepadToBuf (id : UInt16) (data : Payload) :
    Emits false [gamepadMessage id data] 0 (onPending (pushGamepadInputToBuf id data)) := by
  refine emits_onPending ?_ fun msg hm => ?_
  · rw [encodeAll_singleton, ← flatten_gamepadInputParts]
    exact appends_extendAll _
  · obtain rfl := List.mem_singleton.mp hm
    exact ⟨gamepadMessage_serializes id data, rfl⟩

theorem emits_frameToBuf (id : UInt16) (frame : GamepadFrameRaw) :
    Emits false [gamepadMessage id frame.pack] 0
      (onPending (pushGamepadInputFieldsToBuf id frame)) := by
  refine emits_onPending ?_ fun msg hm => ?_
  · rw [encodeAll_singleton, ← flatten_gamepadInputParts, ← flatten_gamepadFieldsParts]
    exact appends_extendAll _
  · obtain rfl := List.mem_singleton.mp hm
    exact ⟨gamepadMessage_serializes id frame.pack, rfl⟩

theorem emits_one_direct {msg : ControlMessage} (ok : msg.Serializes) {bytes : List UInt8}
    (h : bytes = msg.bytes) : Emits true [msg] 0 (writeDirect bytes) := by
  have one := emits_writeDirect (by simpa using ok : ∀ m ∈ [msg], m.Serializes)
  rwa [encodeAll_singleton, ← h] at one

theorem emits_pushGamepadInput (d : Bool) (id : UInt16) (data : Payload) :
    Emits d [gamepadMessage id data] 1 (pushGamepadInput id data) := by
  refine emits_read fun w mode => Emits.counted fun _ => ?_
  cases d with
  | true =>
    simp only [mode, if_true]
    exact (emits_one_direct (gamepadMessage_serializes id data) (encodeGamepadInput_eq id data)).then
      fun _ => emits_pure true _
  | false =>
    simp only [mode, Bool.false_eq_true, if_false]
    exact (emits_gamepadToBuf id data).then fun _ => emits_flushIfDue false

theorem emits_pushGamepadInputFields (d : Bool) (id : UInt16) (frame : GamepadFrameRaw) :
    Emits d [gamepadMessage id frame.pack] 1 (pushGamepadInputFields id frame) := by
  refine emits_read fun w mode => Emits.counted fun _ => ?_
  cases d with
  | true =>
    simp only [mode, if_true]
    exact (emits_one_direct (gamepadMessage_serializes id frame.pack)
      (encodeGamepadInputFields_eq id frame)).then fun _ => emits_pure true _
  | false =>
    simp only [mode, Bool.false_eq_true, if_false]
    exact (emits_frameToBuf id frame).then fun _ => emits_flushIfDue false

theorem emits_refused {α : Type} {d : Bool} {msgs : List ControlMessage} {n : Nat}
    {m : Coalescing α} (h : ∀ w, (m.run w).1.isOk = false ∧ (m.run w).2.transport = w.transport ∧
      (m.run w).2.pending = w.pending ∧ (m.run w).2.direct = w.direct)
    (bad : ¬∀ msg ∈ msgs, msg.Serializes) : Emits d msgs n m := by
  intro w sent held carries
  obtain ⟨fails, transport, pending, direct⟩ := h w
  refine ⟨⟨[], sent, held, ?_, (List.append_nil _).symm, List.nil_prefix, fun ok => ?_⟩,
    by rw [transport], by rw [transport], fun _ all => (bad all).elim, fun _ all => (bad all).elim⟩
  · exact ⟨direct.trans carries.mode, by rw [transport, carries.wire],
      by rw [pending, carries.pending], carries.sentOk, carries.heldOk, carries.unbuffered,
      by rw [transport]; exact carries.allOrNothing, by rw [transport]; exact carries.flushOk⟩
  · rw [fails] at ok
    contradiction

theorem emits_uhidToBuf {id size : UInt16} {data : List UInt8} {msg : ControlMessage}
    (fits : FitsInput size.toNat data)
    (h : msg.serialize = .ok (uhidInputParts id size.toNat data).flatten)
    (calm : msg.isCritical = false) :
    Emits false [msg] 0 (onPending (pushUhidInputToBuf id size.toNat data)) := by
  have bytes : msg.bytes = (uhidInputParts id size.toNat data).flatten := by
    rw [ControlMessage.bytes, h]
  refine emits_onPending ?_ fun m hm => ?_
  · rw [encodeAll_singleton, bytes, pushUhidInputToBuf, if_neg fits.not_rejected]
    exact appends_extendAll _
  · obtain rfl := List.mem_singleton.mp hm
    exact ⟨by rw [ControlMessage.Serializes, h]; rfl, calm⟩

theorem emits_uhidDirect {id size : UInt16} {data : List UInt8} {msg : ControlMessage}
    {reason : FlushReason} (fits : FitsInput size.toNat data)
    (h : msg.serialize = .ok (uhidInputParts id size.toNat data).flatten) :
    Emits true [msg] 0 (do
      let (raw, serializedLen) ← Method.lift (encodeUhidInputToArray id size.toNat data)
      writeDirect (raw.take serializedLen)
      pure reason : Coalescing FlushReason) := by
  obtain ⟨raw, encoded, front⟩ := encodeUhidInput_ok id size fits
  rw [encoded]
  have bytes : raw.take (5 + size.toNat) = msg.bytes := by rw [front, ControlMessage.bytes, h]
  have ok : msg.Serializes := by
    rw [ControlMessage.Serializes, h]
    rfl
  exact (emits_one_direct ok bytes).then fun _ => emits_pure true _

theorem emits_pushUhidInput (d : Bool) (id size : UInt16) {data : List UInt8}
    (fits : FitsInput size.toNat data) :
    Emits d [uhidInputMessage id size data] 1 (pushUhidInput id size data) := by
  have h := serialize_uhidInputMessage id size fits
  refine emits_read fun w mode => Emits.counted fun _ => ?_
  cases d with
  | true =>
    simp only [mode, if_true]
    exact emits_uhidDirect fits h
  | false =>
    simp only [mode, Bool.false_eq_true, if_false]
    exact (emits_uhidToBuf fits h rfl).then fun _ => emits_flushIfDue false

/- Messages that go through the scratch buffer. -/

theorem pushMessageToScratch_ok {msg : ControlMessage} (ok : msg.Serializes)
    (w : CoalescingWriter) :
    (pushMessageToScratch msg).run w = (.ok (), { w with scratch := msg.bytes }) := by
  have run := ControlMessage.serializeInto_ok ok.eq []
  simp [pushMessageToScratch, onScratch, Method.run_bind, run]

theorem run_bind_fails {α β : Type} {m : Coalescing α} {f : α → Coalescing β}
    {w : CoalescingWriter} (h : (m.run w).1.isOk = false) :
    ((m >>= f).run w).1.isOk = false ∧ ((m >>= f).run w).2 = (m.run w).2 := by
  cases hr : m.run w with
  | mk r t =>
  rw [hr] at h
  cases r with
  | ok a => contradiction
  | err e => exact ⟨by rw [Method.run_bind_err hr]; rfl, by rw [Method.run_bind_err hr]⟩
  | panic => exact ⟨by rw [Method.run_bind_panic hr]; rfl, by rw [Method.run_bind_panic hr]⟩

theorem pushMessageToScratch_fails {msg : ControlMessage} (bad : ¬msg.Serializes)
    (w : CoalescingWriter) :
    ((pushMessageToScratch msg).run w).1.isOk = false ∧
      ∃ scratch, ((pushMessageToScratch msg).run w).2 = { w with scratch } := by
  have fails : ((msg.serializeInto).run []).1.isOk = false := by
    have run := msg.serializeInto_run []
    cases hs : msg.serialize with
    | ok bs =>
      have ok : msg.Serializes := by
        rw [ControlMessage.Serializes, hs]
        rfl
      exact (bad ok).elim
    | err e =>
      rw [hs] at run
      rw [run]
      rfl
    | panic => rw [ControlMessage.serializeInto_panic hs, Outcome.isOk_panic]
  have inner : ((onScratch msg.serializeInto).run { w with scratch := [] }).1.isOk = false := fails
  obtain ⟨fails', state⟩ := run_bind_fails (f := fun _ => pure ()) inner
  exact ⟨fails', _, state⟩

theorem emits_unserialized {α : Type} {d : Bool} {msg : ControlMessage} {n : Nat}
    {f : Unit → Coalescing α} (bad : ¬msg.Serializes) :
    Emits d [msg] n (pushMessageToScratch msg >>= f) := by
  refine emits_refused (fun w => ?_) fun all => bad (all msg (List.mem_singleton.mpr rfl))
  obtain ⟨fails, scratch, state⟩ := pushMessageToScratch_fails bad w
  obtain ⟨fails', state'⟩ := run_bind_fails (f := f) fails
  rw [state', state]
  exact ⟨fails', rfl, rfl, rfl⟩

theorem Carries.scratch {d : Bool} {w : CoalescingWriter} {sent held : List ControlMessage}
    (h : Carries d w sent held) (scratch : List UInt8) :
    Carries d { w with scratch } sent held :=
  ⟨h.mode, h.wire, h.pending, h.sentOk, h.heldOk, h.unbuffered, h.allOrNothing, h.flushOk⟩

theorem effect_writeScratch {d : Bool} (msg : ControlMessage) {stamp : Coalescing Unit}
    (silent : Silent 0 stamp) {w : CoalescingWriter} {sent : List ControlMessage}
    (carries : Carries d w sent []) :
    Effect d w sent [] [msg] 0 ((writeScratch msg stamp).run w).1.isOk
      ((writeScratch msg stamp).run w).2 := by
  by_cases ok : msg.Serializes
  · have run : (writeScratch msg stamp).run w =
        (writeThrough msg.bytes >>= fun _ => stamp).run { w with scratch := [] } := by
      rw [writeScratch, Method.run_bind_ok (pushMessageToScratch_ok ok w)]
      rfl
    have one : ∀ m ∈ [msg], m.Serializes := by simpa using ok
    have written := (effect_writeThrough one (carries.scratch [])).bind fun _ => silent.emits d
    rw [encodeAll_singleton, List.append_nil] at written
    rw [run]
    exact ⟨written.stream, written.onWrite, written.onFlush, written.total, written.tally⟩
  · exact emits_unserialized ok w sent [] carries

theorem not_serializes_of_misfit {i : UhidInput} (h : ¬FitsInput i.size.toNat i.data.toList) :
    ¬(ControlMessage.uhidInput i).Serializes := by
  have fifteen : i.data.toList.length = 15 := i.data.length_toList
  have long : i.size.toNat > hidMaxSize := by
    rcases rejected_of_not_fits h with big | big
    · exact big
    · exact lt_of_eq_of_lt fifteen.symm big
  rw [ControlMessage.Serializes, serialize_uhidInput_long i long]
  simp

theorem emits_misfit {i : UhidInput} (h : ¬FitsInput i.size.toNat i.data.toList) :
    Emits false [.uhidInput i] 0
      (onPending (pushUhidInputToBuf i.id i.size.toNat i.data.toList)) := by
  refine emits_refused (fun w => ?_) fun all =>
    not_serializes_of_misfit h (all _ (List.mem_singleton.mpr rfl))
  have refuse : pushUhidInputToBuf i.id i.size.toNat i.data.toList =
      .fail (tooLarge i.size.toNat) := if_pos (rejected_of_not_fits h)
  rw [refuse]
  exact ⟨rfl, rfl, rfl, rfl⟩

/-- An input has its own encoder; every other message takes the common one. -/
theorem input_or_plain (msg : ControlMessage) :
    (∃ i, msg = .uhidInput i) ∨ ∀ i, msg ≠ .uhidInput i := by
  by_cases input : ∃ i, msg = .uhidInput i
  · exact .inl input
  · exact .inr (not_exists.mp input)

theorem bufferMessage_plain {msg : ControlMessage} (plain : ∀ i, msg ≠ .uhidInput i) :
    bufferMessage msg = (do
      pushMessageToScratch msg
      let scratch := (← .read).scratch
      onPending (extendFromSlice scratch)) := by
  cases msg with
  | uhidInput i => exact (plain i rfl).elim
  | _ => rfl

theorem emits_bufferMessage {msg : ControlMessage} (calm : msg.isCritical = false) :
    Emits false [msg] 0 (bufferMessage msg) := by
  rcases input_or_plain msg with ⟨i, rfl⟩ | plain
  · by_cases fits : FitsInput i.size.toNat i.data.toList
    · exact emits_uhidToBuf fits (serialize_uhidInput i fits.1) rfl
    · exact emits_misfit fits
  · rw [bufferMessage_plain plain]
    by_cases ok : msg.Serializes
    · intro w sent held carries
      rw [Method.run_bind_ok (pushMessageToScratch_ok ok w)]
      have appends : Appends (extendFromSlice msg.bytes) (.ok ()) (encodeAll [msg]) := by
        rw [encodeAll_singleton]
        exact appends_extend _
      have one := emits_onPending appends (by simpa using ⟨ok, calm⟩)
        _ sent held (carries.scratch msg.bytes)
      exact ⟨one.stream, one.onWrite, one.onFlush, one.total, one.tally⟩
    · exact emits_unserialized ok

/-- A critical message flushes the buffer first, so that it keeps its place in the stream. -/
theorem emits_critical (d : Bool) (msg : ControlMessage) :
    Emits d [msg] 0 (do
      let _ ← flushNow
      writeScratch msg (pure ())
      pure .critical : Coalescing FlushReason) := by
  intro w sent held carries
  obtain ⟨flushed, done⟩ := flushNow_effect carries
  cases hr : flushNow.run w with
  | mk r t =>
  rw [hr] at flushed done
  cases r with
  | ok n =>
    rw [Method.run_bind_ok hr]
    have written := (effect_writeScratch msg (silent_pure ()) (done rfl)).bind
      fun _ => emits_pure d FlushReason.critical
    exact flushed.trans (by simp) written
  | err e =>
    rw [Method.run_bind_err hr]
    exact flushed.stopped [msg] 0
  | panic =>
    rw [Method.run_bind_panic hr]
    exact flushed.stopped [msg] 0

def SamePending (w w' : CoalescingWriter) : Prop := w'.pending = w.pending

instance : IsPreorder CoalescingWriter SamePending where
  refl _ := rfl
  trans _ _ _ h h' := Eq.trans h' h

theorem keeps_writeScratch_pending (msg : ControlMessage) :
    Method.Keeps SamePending (writeScratch msg (pure ())) := by
  have transport {α : Type} (m : Method Error Transport α) :
      Method.Keeps SamePending (onTransport m) := fun _ => rfl
  have scratch {α : Type} (m : Writer α) : Method.Keeps SamePending (onScratch m) := fun _ => rfl
  have edit (f : CoalescingWriter → CoalescingWriter) (h : ∀ w, SamePending w (f w)) :
      Method.Keeps SamePending (Method.update f : Coalescing Unit) := h
  have serialized : Method.Keeps SamePending (pushMessageToScratch msg) :=
    Method.Keeps.bind (edit _ fun _ => rfl) fun _ => (scratch _).bind fun _ => Method.keeps_pure ()
  have written (bytes : List UInt8) : Method.Keeps SamePending (writeThrough bytes) :=
    (transport _).bind fun _ => edit _ fun _ => rfl
  exact serialized.bind fun _ => Method.keeps_read.bind fun _ =>
    Method.Keeps.bind (edit _ fun _ => rfl) fun _ => (written _).bind fun _ => Method.keeps_pure ()

/-- A direct writer sends every message but an input through the scratch buffer. -/
theorem pushDirect_plain {msg : ControlMessage} (plain : ∀ i, msg ≠ .uhidInput i) :
    pushDirect msg = (do
      countPushed 1
      writeScratch msg stampFlush
      pure (if msg.isCritical then .critical else .window)) := by
  cases msg with
  | uhidInput i => exact (plain i rfl).elim
  | _ => rfl

theorem emits_pushDirect (msg : ControlMessage) : Emits true [msg] 1 (pushDirect msg) := by
  rcases input_or_plain msg with ⟨i, rfl⟩ | plain
  · refine Emits.counted fun _ => ?_
    by_cases fits : FitsInput i.size.toNat i.data.toList
    · exact emits_uhidDirect fits (serialize_uhidInput i fits.1)
    · have refuse : encodeUhidInputToArray i.id i.size.toNat i.data.toList =
          .err (tooLarge i.size.toNat) := if_pos (rejected_of_not_fits fits)
      dsimp only
      rw [refuse]
      exact emits_refused (fun _ => ⟨rfl, rfl, rfl, rfl⟩) fun all =>
        not_serializes_of_misfit fits (all _ (List.mem_singleton.mpr rfl))
  · rw [pushDirect_plain plain]
    refine Emits.counted fun _ => ?_
    intro w sent held carries
    obtain rfl := carries.unbuffered rfl
    exact (effect_writeScratch msg silent_stampFlush carries).bind fun _ => emits_pure true _

theorem emits_push (d : Bool) (msg : ControlMessage) : Emits d [msg] 1 (push msg) := by
  refine emits_read fun w mode => ?_
  cases d with
  | true =>
    simp only [mode, if_true]
    exact emits_pushDirect msg
  | false =>
    simp only [mode, Bool.false_eq_true, if_false]
    refine Emits.counted fun _ => ?_
    cases calm : msg.isCritical with
    | true =>
      simp only [if_true]
      exact emits_critical false msg
    | false =>
      simp only [Bool.false_eq_true, if_false]
      exact (emits_bufferMessage calm).then fun _ => emits_flushIfDue false

theorem push_critical_clears {d : Bool} {msg : ControlMessage} (critical : msg.isCritical = true)
    {w : CoalescingWriter} {sent held : List ControlMessage} (carries : Carries d w sent held)
    (ok : ((push msg).run w).1.isOk = true) : ((push msg).run w).2.pending = [] := by
  cases d with
  | true =>
    obtain ⟨_, sent', held', carries', _⟩ := (emits_push true msg w sent held carries).stream
    rw [carries'.pending, carries'.unbuffered rfl, encodeAll_nil]
  | false =>
    let counted : CoalescingWriter := { w with pushed := w.pushed + 1 }
    have run : (push msg).run w = (do
        let _ ← flushNow
        writeScratch msg (pure ())
        pure .critical : Coalescing FlushReason).run counted := by
      rw [push, Method.run_read_bind]
      simp only [carries.mode, Bool.false_eq_true, if_false, critical, if_true]
      rfl
    have carries' : Carries false counted sent held :=
      ⟨carries.mode, carries.wire, carries.pending, carries.sentOk, carries.heldOk,
        carries.unbuffered, carries.allOrNothing, carries.flushOk⟩
    obtain ⟨_, done⟩ := flushNow_effect carries'
    rw [run] at ok ⊢
    cases hr : flushNow.run counted with
    | mk r t =>
    rw [hr] at done
    cases r with
    | ok n =>
      rw [Method.run_bind_ok hr]
      have kept := ((keeps_writeScratch_pending msg).bind fun _ =>
        Method.keeps_pure FlushReason.critical) t
      rw [show _ = t.pending from kept, (done rfl).pending, encodeAll_nil]
    | err e =>
      rw [Method.run_bind_err hr] at ok
      contradiction
    | panic =>
      rw [Method.run_bind_panic hr] at ok
      contradiction

/- Batches. -/

def Frames (frames : List (List (List UInt8))) (msgs : List ControlMessage) : Prop :=
  List.Forall₂ (fun frame msg => frame.flatten = msg.bytes ∧ msg.Serializes ∧
    msg.isCritical = false ∧ frame.flatten.length = gamepadReportSize + 5) frames msgs

theorem frames_gamepad (id : UInt16) (data : List Payload) :
    Frames (data.map (gamepadInputParts id)) (data.map (gamepadMessage id)) := by
  induction data with
  | nil => exact .nil
  | cons payload rest ih =>
    exact .cons ⟨flatten_gamepadInputParts id payload, gamepadMessage_serializes id payload, rfl,
      length_gamepadInputParts id payload⟩ ih

theorem frames_fields (id : UInt16) (frames : List GamepadFrameRaw) :
    Frames (frames.map (gamepadFieldsParts id)) (frames.map fun f => gamepadMessage id f.pack) := by
  induction frames with
  | nil => exact .nil
  | cons frame rest ih =>
    refine .cons ⟨?_, gamepadMessage_serializes id frame.pack, rfl, ?_⟩ ih
    · rw [flatten_gamepadFieldsParts, flatten_gamepadInputParts]
    · rw [flatten_gamepadFieldsParts, length_gamepadInputParts]

theorem emits_frame {frame : List (List UInt8)} {msg : ControlMessage}
    (bytes : frame.flatten = msg.bytes) (ok : msg.Serializes) (calm : msg.isCritical = false) :
    Emits false [msg] 0 (onPending (extendAll frame)) := by
  refine emits_onPending ?_ (by simpa using ⟨ok, calm⟩)
  rw [encodeAll_singleton, ← bytes]
  exact appends_extendAll frame

theorem emits_forEach {frames : List (List (List UInt8))} {msgs : List ControlMessage}
    (h : Frames frames msgs) :
    Emits false msgs 0 (.forEach frames fun frame => onPending (extendAll frame)) := by
  induction h with
  | nil => exact emits_pure false ()
  | @cons frame msg frames msgs head tail ih =>
    obtain ⟨bytes, ok, calm, _⟩ := head
    exact (emits_frame bytes ok calm).bind fun _ => ih

theorem emits_pushLimited {frames : List (List (List UInt8))} {msgs : List ControlMessage}
    (h : Frames frames msgs) (reason : FlushReason) :
    Emits false msgs 0 (pushLimited frames reason) := by
  induction h generalizing reason with
  | nil => exact emits_pure false reason
  | @cons frame msg frames msgs head tail ih =>
    obtain ⟨bytes, ok, calm, _⟩ := head
    have rest (w : CoalescingWriter) : Emits false msgs 0 (if w.pending.length ≥ w.hardLimit then do
          let _ ← flushNow
          pushLimited frames .full
        else pushLimited frames reason) :=
      Emits.ite ((emits_flushNow false).bind fun _ => ih .full) (ih reason)
    exact (emits_frame bytes ok calm).bind fun _ => Emits.after silent_read rest

theorem frames_chunksFuel {frames : List (List (List UInt8))} {msgs : List ControlMessage}
    (h : Frames frames msgs) (n fuel : Nat) :
    List.Forall₂ Frames (Bytes.chunksFuel n fuel frames) (Bytes.chunksFuel n fuel msgs) := by
  induction fuel generalizing frames msgs with
  | zero => exact .nil
  | succ fuel ih =>
    cases h with
    | nil => exact .nil
    | cons head tail =>
      exact .cons (List.forall₂_take n (.cons head tail)) (ih (List.forall₂_drop n (.cons head tail)))

theorem frames_chunks {frames : List (List (List UInt8))} {msgs : List ControlMessage}
    (h : Frames frames msgs) (n : Nat) :
    List.Forall₂ Frames (Bytes.chunks n frames) (Bytes.chunks n msgs) := by
  have same : frames.length = msgs.length := h.length_eq
  rw [Bytes.chunks, Bytes.chunks, same]
  exact frames_chunksFuel h n _

theorem encodeChunk_front {chunk : List (List (List UInt8))} {msgs : List ControlMessage}
    (h : Frames chunk msgs) {raw front : List UInt8} {size : Nat}
    (start : Bytes.StartsWith raw front size)
    (room : front.length + chunk.length * (gamepadReportSize + 5) ≤ size) :
    Bytes.StartsWith (encodeChunk front.length chunk raw) (front ++ encodeAll msgs) size := by
  induction h generalizing raw front with
  | nil => simpa [encodeChunk] using start
  | @cons frame msg frames msgs head tail ih =>
    obtain ⟨bytes, _, _, length⟩ := head
    simp only [List.length_cons, Nat.succ_mul] at room
    have first := start.copyAll frame (by omega)
    have length' : (front ++ frame.flatten).length = front.length + (gamepadReportSize + 5) := by
      rw [List.length_append, length]
    have next := ih first (by omega)
    rw [length'] at next
    simpa [encodeChunk, encodeAll, bytes] using next

theorem length_encodeAll {chunk : List (List (List UInt8))} {msgs : List ControlMessage}
    (h : Frames chunk msgs) :
    (encodeAll msgs).length = chunk.length * (gamepadReportSize + 5) := by
  induction h with
  | nil => rfl
  | @cons frame msg frames msgs head tail ih =>
    obtain ⟨bytes, _, _, length⟩ := head
    simp only [encodeAll, List.flatMap_cons, List.length_append, ← bytes, length,
      List.length_cons, Nat.succ_mul] at ih ⊢
    omega

theorem writeAll_cases {group : List ControlMessage} (serializes : ∀ msg ∈ group, msg.Serializes)
    {w : CoalescingWriter} {sent : List ControlMessage} (carries : Carries true w sent []) :
    (∃ w', (onTransport (Transport.writeAll (encodeAll group))).run w = (.ok (), w') ∧
      Carries true w' (sent ++ group) [] ∧
      w'.transport.wire.length = w.transport.wire.length + (encodeAll group).length ∧
      w'.transport.onWrite = w.transport.onWrite ∧ w'.transport.onFlush = w.transport.onFlush ∧
      w'.pushed = w.pushed ∧ w'.written = w.written) ∨
    (∃ e w', (onTransport (Transport.writeAll (encodeAll group))).run w = (.err e, w') ∧
      Carries true w' sent [] ∧ w'.transport.onWrite = w.transport.onWrite ∧
      w'.transport.onFlush = w.transport.onFlush ∧ ¬w.transport.NeverFails) := by
  cases hw : w.transport.onWrite w.transport.writes with
  | ok =>
    refine .inl ⟨{ w with transport := { w.transport with
      wire := w.transport.wire ++ encodeAll group, writes := w.transport.writes + 1 } }, ?_, ?_,
      List.length_append, rfl, rfl, rfl, rfl⟩
    · simp only [onTransport, Method.run_zoom, Transport.writeAll, hw]
    · refine ⟨carries.mode, ?_, carries.pending, ?_, carries.heldOk, carries.unbuffered,
        carries.allOrNothing, carries.flushOk⟩
      · simp only [carries.wire, encodeAll_append]
      · intro msg hm
        rcases List.mem_append.mp hm with hm | hm
        · exact carries.sentOk msg hm
        · exact serializes msg hm
  | failed landed e =>
    obtain rfl := carries.allOrNothing _ _ _ hw
    refine .inr ⟨e, { w with transport := { w.transport with
      wire := w.transport.wire ++ [], writes := w.transport.writes + 1 } }, ?_, ?_, rfl, rfl,
      fun never => ?_⟩
    · simp only [onTransport, Method.run_zoom, Transport.writeAll, hw, List.take_zero]
    · refine ⟨carries.mode, ?_, carries.pending, carries.sentOk, carries.heldOk,
        carries.unbuffered, carries.allOrNothing, carries.flushOk⟩
      simp only [List.append_nil, carries.wire]
    · rw [never.1] at hw
      contradiction

/-- The chunks go out one write at a time; a failed write leaves the chunks before it. -/
theorem writeChunks_cases {chunks : List (List (List (List UInt8)))}
    {groups : List (List ControlMessage)} (h : List.Forall₂ Frames chunks groups)
    (short : ∀ chunk ∈ chunks, chunk.length ≤ directGamepadBatchFrames) {raw : List UInt8}
    (size : raw.length = directGamepadBatchBytes) (serialized : Nat) {w : CoalescingWriter}
    {sent : List ControlMessage} (carries : Carries true w sent []) :
    (∃ n w', (writeChunks chunks raw serialized).run w = (.ok n, w') ∧
      Carries true w' (sent ++ groups.flatten) [] ∧
      n + w.transport.wire.length = serialized + w'.transport.wire.length ∧
      w'.transport.onWrite = w.transport.onWrite ∧ w'.transport.onFlush = w.transport.onFlush ∧
      w'.pushed = w.pushed ∧ w'.written = w.written) ∨
    (∃ e w' k, (writeChunks chunks raw serialized).run w = (.err e, w') ∧ k < groups.length ∧
      Carries true w' (sent ++ (groups.take k).flatten) [] ∧
      w'.transport.onWrite = w.transport.onWrite ∧ w'.transport.onFlush = w.transport.onFlush ∧
      ¬w.transport.NeverFails) := by
  induction h generalizing raw serialized w sent with
  | nil => exact .inl ⟨serialized, w, rfl, by simpa using carries, rfl, rfl, rfl, rfl, rfl⟩
  | @cons chunk group chunks groups head tail ih =>
    have few : chunk.length ≤ 32 := short chunk (List.mem_cons_self ..)
    have start : Bytes.StartsWith raw [] directGamepadBatchBytes := ⟨size, rfl⟩
    have encoded := encodeChunk_front head start (by
      simp only [List.length_nil, directGamepadBatchBytes, directGamepadBatchFrames,
        gamepadReportSize]
      omega)
    have bytes : (encodeChunk 0 chunk raw).take (chunk.length * (gamepadReportSize + 5)) =
        encodeAll group := by
      rw [← length_encodeAll head]
      exact encoded.2
    have serializes : ∀ msg ∈ group, msg.Serializes := by
      intro msg hm
      obtain ⟨i, hi, rfl⟩ := List.getElem_of_mem hm
      exact ((List.forall₂_iff_get.mp head).2 i (by rw [head.length_eq]; exact hi) hi).2.1
    have unfold' : (writeChunks (chunk :: chunks) raw serialized).run w =
        (onTransport (Transport.writeAll (encodeAll group)) >>= fun _ =>
          writeChunks chunks (encodeChunk 0 chunk raw)
            (serialized + chunk.length * (gamepadReportSize + 5))).run w := by
      rw [writeChunks, bytes]
    rw [unfold']
    rcases writeAll_cases serializes carries with
      ⟨w₁, wrote, carries₁, longer, onWrite, onFlush, pushed, written⟩ |
      ⟨e, w₁, failed, carries₁, onWrite, onFlush, fails⟩
    · have fewer : ∀ c ∈ chunks, c.length ≤ directGamepadBatchFrames :=
        fun c hc => short c (List.mem_cons_of_mem _ hc)
      rw [Method.run_bind_ok wrote]
      rcases ih fewer encoded.1 (serialized + chunk.length * (gamepadReportSize + 5)) carries₁ with
        ⟨n, w', run, carries', total, onWrite', onFlush', pushed', written'⟩ |
        ⟨e, w', k, run, early, carries', onWrite', onFlush', fails⟩
      · refine .inl ⟨n, w', run, ?_, ?_, onWrite'.trans onWrite, onFlush'.trans onFlush,
          pushed'.trans pushed, written'.trans written⟩
        · simpa [List.append_assoc] using carries'
        · rw [longer, length_encodeAll head] at total
          omega
      · refine .inr ⟨e, w', k + 1, run, Nat.succ_lt_succ early, ?_, onWrite'.trans onWrite,
          onFlush'.trans onFlush, ?_⟩
        · simpa [List.append_assoc] using carries'
        · unfold Transport.NeverFails Transport.FlushOk at fails ⊢
          rwa [onWrite, onFlush] at fails
    · rw [Method.run_bind_err failed]
      exact .inr ⟨e, w₁, 0, rfl, Nat.succ_pos _, by simpa using carries₁, onWrite, onFlush, fails⟩

theorem flatten_take_prefix {α : Type} (groups : List (List α)) (k : Nat) :
    (groups.take k).flatten <+: groups.flatten := by
  refine ⟨(groups.drop k).flatten, ?_⟩
  rw [← List.flatten_append, List.take_append_drop]

theorem emits_chunks {frames : List (List (List UInt8))} {msgs : List ControlMessage}
    (h : Frames frames msgs) :
    Emits true msgs 0 (do
      let serialized ← writeChunks (Bytes.chunks directGamepadBatchFrames frames)
        (zeros directGamepadBatchBytes) 0
      onTransport Transport.flush
      countFlush serialized
      stampFlush
      pure .window : Coalescing FlushReason) := by
  intro w sent held carries
  obtain rfl := carries.unbuffered rfl
  have whole : (Bytes.chunks directGamepadBatchFrames msgs).flatten = msgs :=
    Bytes.flatten_chunks (by decide) msgs
  have blank : (zeros directGamepadBatchBytes).length = directGamepadBatchBytes :=
    List.length_replicate
  rcases writeChunks_cases (frames_chunks h directGamepadBatchFrames)
    (fun _ hc => Bytes.length_of_mem_chunks hc) blank 0 carries with
    ⟨n, w', run, carries', total, onWrite, onFlush, pushed, written⟩ |
    ⟨e, w', k, run, _, carries', onWrite, onFlush, fails⟩
  · rw [Method.run_bind_ok run]
    have flush := carries'.flushOk w'.transport.flushes
    simp [onTransport, Method.run_bind, Transport.flush, flush, countFlush, stampFlush, now]
    rw [whole] at carries'
    refine ⟨⟨msgs, sent ++ msgs, [], ?_, by simp, List.prefix_rfl, fun _ => rfl⟩, onWrite, onFlush,
      fun _ _ => rfl, fun _ _ => ⟨pushed, ?_⟩⟩
    · exact ⟨carries'.mode, carries'.wire, carries'.pending, carries'.sentOk, carries'.heldOk,
        carries'.unbuffered, carries'.allOrNothing, carries'.flushOk⟩
    · simp only [written]
      omega
  · rw [Method.run_bind_err run]
    have part := flatten_take_prefix (Bytes.chunks directGamepadBatchFrames msgs) k
    rw [whole] at part
    exact ⟨⟨_, _, [], carries', by simp, part, by simp⟩, onWrite, onFlush,
      fun never _ => (fails never).elim, fun never _ => (fails never).elim⟩

theorem emits_pushBatch (d : Bool) {frames : List (List (List UInt8))} {msgs : List ControlMessage}
    (h : Frames frames msgs) : Emits d msgs msgs.length (pushBatch frames) := by
  have same : frames.length = msgs.length := h.length_eq
  refine emits_read fun w mode => ?_
  rw [same]
  refine Emits.counted fun _ => ?_
  cases d with
  | true =>
    simp only [mode, if_true]
    exact emits_chunks h
  | false =>
    simp only [mode, Bool.false_eq_true, if_false]
    refine Emits.after silent_read fun _ => Emits.ite ?_ ?_
    · exact (emits_forEach h).then fun _ => emits_flushIfWindow false _
    · exact (emits_pushLimited h .pending).then fun _ => emits_flushIfWindow false _

theorem emits_pushGamepadInputBatch (d : Bool) (id : UInt16) (data : List Payload) :
    Emits d (data.map (gamepadMessage id)) data.length (pushGamepadInputBatch id data) := by
  match data with
  | [] => exact emits_pure d _
  | [payload] => exact emits_pushGamepadInput d id payload
  | a :: b :: rest =>
    have batch := emits_pushBatch d (frames_gamepad id (a :: b :: rest))
    rwa [List.length_map] at batch

theorem emits_pushGamepadInputBatchFromFields (d : Bool) (id : UInt16)
    (frames : List GamepadFrameRaw) :
    Emits d (frames.map fun f => gamepadMessage id f.pack) frames.length
      (pushGamepadInputBatchFromFields id frames) := by
  match frames with
  | [] => exact emits_pure d _
  | [frame] => exact emits_pushGamepadInputFields d id frame
  | a :: b :: rest =>
    have batch := emits_pushBatch d (frames_fields id (a :: b :: rest))
    rwa [List.length_map] at batch

end CoalescingWriter

end HidConnect
