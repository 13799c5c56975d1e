import HidConnect.Coalesce.Landing
import HidConnect.Library.Run

/-! Pushes and flushes over a transport whose writes and flushes fail one by one: a flush that is
refused after its write was taken leaves bytes pending that are on the wire already. -/
namespace HidConnect
open Fallible

namespace Transport

/-- A delivery is refused its write, or the bytes are on the wire whatever the flush answers. -/
theorem deliver_fate {t : Transport} (allOrNothing : t.AllOrNothing) (buf : List UInt8) :
    (t.onWrite t.writes ≠ .ok ∧ ((deliver buf).run t).1.isOk = false ∧
      ((deliver buf).run t).2 = { t with writes := t.writes + 1 }) ∨
    t.onWrite t.writes = .ok ∧ ((deliver buf).run t).2 = t.wrote buf := by
  cases hw : t.onWrite t.writes with
  | ok =>
    refine .inr ⟨rfl, ?_⟩
    cases hf : t.onFlush t.flushes with
    | none => simp [deliver, Method.run_bind, writeAll, flush, hw, hf, wrote]
    | some e => simp [deliver, Method.run_bind, writeAll, flush, hw, hf, wrote]
  | failed landed e =>
    refine .inl ⟨by simp, ?_, ?_⟩
    · simp [deliver, Method.run_bind, writeAll, hw]
    · simp [deliver, Method.run_bind, writeAll, hw, allOrNothing _ _ _ hw]

end Transport

namespace CoalescingWriter

/-- The parts of a writer that a call leaves as they are. -/
def SameMode (w w' : CoalescingWriter) : Prop :=
  w'.direct = w.direct ∧ w'.transport.onWrite = w.transport.onWrite

theorem flushNow_fate {w : CoalescingWriter} (allOrNothing : w.transport.AllOrNothing) :
    SameMode w (flushNow.run w).2 ∧
    ((w.pending = [] ∨ w.transport.onWrite w.transport.writes ≠ .ok) ∧
        ((flushNow.run w).1.isOk = true → w.pending = []) ∧
        (flushNow.run w).2.pending = w.pending ∧
        (flushNow.run w).2.transport.wire = w.transport.wire ∧
        (flushNow.run w).2.transport.flushes = w.transport.flushes ∨
      w.transport.onWrite w.transport.writes = .ok ∧
        (flushNow.run w).2.transport = w.transport.wrote w.pending ∧
        ((flushNow.run w).2.pending = [] ∨
          (flushNow.run w).1.isOk = false ∧ (flushNow.run w).2.pending = w.pending)) := by
  by_cases empty : w.pending = []
  · rw [flushNow_empty empty]
    exact ⟨⟨rfl, rfl⟩, .inl ⟨.inl empty, fun _ => empty, rfl, rfl, rfl⟩⟩
  · rcases hd : (Transport.deliver w.pending).run w.transport with ⟨r, t⟩
    have fate := Transport.deliver_fate allOrNothing w.pending
    rw [hd] at fate
    have run : (onTransport (Transport.deliver w.pending)).run w = (r, { w with transport := t }) := by
      rw [onTransport, Method.run_zoom, hd]
    have fails (h : r.isOk = false) : (flushNow.run w).1.isOk = false ∧
        (flushNow.run w).2 = { w with transport := t } := by
      rw [flushNow, Method.run_read_bind]
      simp only [empty, if_false]
      cases r with
      | ok a => contradiction
      | err e => rw [Method.run_bind_err run]; exact ⟨rfl, rfl⟩
      | panic => rw [Method.run_bind_panic run]; exact ⟨rfl, rfl⟩
    rcases fate with ⟨refused, stopped, rfl⟩ | ⟨taken, rfl⟩
    · obtain ⟨fail, state⟩ := fails stopped
      rw [fail, state]
      exact ⟨⟨rfl, rfl⟩, .inl ⟨.inr refused, by simp, rfl, rfl, rfl⟩⟩
    · cases hr : r.isOk with
      | false =>
        obtain ⟨fail, state⟩ := fails hr
        rw [fail, state]
        exact ⟨⟨rfl, rfl⟩, .inr ⟨taken, rfl, .inr ⟨rfl, rfl⟩⟩⟩
      | true =>
        obtain ⟨u, rfl⟩ := Outcome.isOk_iff.mp hr
        rw [flushNow, Method.run_read_bind]
        simp only [empty, if_false]
        rw [Method.run_bind_ok run]
        exact ⟨⟨rfl, rfl⟩, .inr ⟨taken, rfl, .inl rfl⟩⟩

structure Put (msg : ControlMessage) (w : CoalescingWriter) (ok : Bool) (w' : CoalescingWriter) :
    Prop where
  mode : SameMode w w'
  pending : w'.pending = w.pending
  wire : ok = false ∧ w'.transport.wire = w.transport.wire ∨
    msg.Serializes ∧ w'.transport.wire = w.transport.wire ++ msg.bytes

theorem put_lost {msg : ControlMessage} {w w' : CoalescingWriter} (mode : SameMode w w')
    (pending : w'.pending = w.pending) (wire : w'.transport.wire = w.transport.wire) :
    Put msg w false w' :=
  ⟨mode, pending, .inl ⟨rfl, wire⟩⟩

theorem Put.then {α β : Type} {msg : ControlMessage} {m : Coalescing α} {f : α → Coalescing β}
    {w : CoalescingWriter} (h : Put msg w (m.run w).1.isOk (m.run w).2)
    (silent : ∀ a, Silent 0 (f a)) :
    Put msg w ((m >>= f).run w).1.isOk ((m >>= f).run w).2 := by
  rcases hr : m.run w with ⟨r, t⟩
  rw [hr] at h
  cases r with
  | ok a =>
    rw [Method.run_bind_ok hr]
    obtain ⟨ok, transport, pending, direct, -, -⟩ := silent a t
    rw [ok]
    refine ⟨⟨direct.trans h.mode.1, ?_⟩, pending.trans h.pending, ?_⟩
    · rw [transport, h.mode.2]
    · rw [transport]
      exact h.wire
  | err e => rwa [Method.run_bind_err hr]
  | panic => rwa [Method.run_bind_panic hr]

theorem put_writeThrough {msg : ControlMessage} (ok : msg.Serializes) {w : CoalescingWriter}
    (allOrNothing : w.transport.AllOrNothing) :
    Put msg w ((writeThrough msg.bytes).run w).1.isOk ((writeThrough msg.bytes).run w).2 := by
  have fate := Transport.deliver_fate allOrNothing msg.bytes
  rcases hd : (Transport.deliver msg.bytes).run w.transport with ⟨r, t⟩
  rw [hd] at fate
  have run : (onTransport (Transport.deliver msg.bytes)).run w = (r, { w with transport := t }) := by
    rw [onTransport, Method.run_zoom, hd]
  have wire : r.isOk = false ∧ t.wire = w.transport.wire ∧ t.onWrite = w.transport.onWrite ∨
      t.wire = w.transport.wire ++ msg.bytes ∧ t.onWrite = w.transport.onWrite := by
    rcases fate with ⟨-, stopped, rfl⟩ | ⟨-, rfl⟩
    · exact .inl ⟨stopped, rfl, rfl⟩
    · exact .inr ⟨rfl, rfl⟩
  rw [writeThrough]
  cases r with
  | ok a =>
    rw [Method.run_bind_ok run]
    rcases wire with ⟨stopped, -⟩ | ⟨wire, answers⟩
    · contradiction
    · exact ⟨⟨rfl, answers⟩, rfl, .inr ⟨ok, wire⟩⟩
  | err e =>
    rw [Method.run_bind_err run]
    rcases wire with ⟨-, wire, answers⟩ | ⟨wire, answers⟩
    · exact ⟨⟨rfl, answers⟩, rfl, .inl ⟨rfl, wire⟩⟩
    · exact ⟨⟨rfl, answers⟩, rfl, .inr ⟨ok, wire⟩⟩
  | panic =>
    rw [Method.run_bind_panic run]
    rcases wire with ⟨-, wire, answers⟩ | ⟨wire, answers⟩
    · exact ⟨⟨rfl, answers⟩, rfl, .inl ⟨rfl, wire⟩⟩
    · exact ⟨⟨rfl, answers⟩, rfl, .inr ⟨ok, wire⟩⟩

theorem put_writeScratch (msg : ControlMessage) {stamp : Coalescing Unit}
    (silent : Silent 0 stamp) {w : CoalescingWriter} (allOrNothing : w.transport.AllOrNothing) :
    Put msg w ((writeScratch msg stamp).run w).1.isOk ((writeScratch msg stamp).run w).2 := by
  by_cases ok : msg.Serializes
  · rw [writeScratch_run ok]
    have put := put_writeThrough (w := { w with scratch := [] }) ok allOrNothing
    have done := put.then fun _ => silent
    exact ⟨done.mode, done.pending, done.wire⟩
  · obtain ⟨fails, scratch, state⟩ := pushMessageToScratch_fails ok w
    rw [writeScratch]
    obtain ⟨fails', state'⟩ := run_bind_fails (f := fun _ => do
      let serialized := (← Method.read).scratch
      Method.update fun w => { w with scratch := [] }
      writeThrough serialized
      stamp) fails
    rw [fails', state', state]
    exact put_lost ⟨rfl, rfl⟩ rfl rfl

theorem push_direct_put (msg : ControlMessage) {w : CoalescingWriter} (mode : w.direct = true)
    (allOrNothing : w.transport.AllOrNothing) :
    Put msg w ((push msg).run w).1.isOk ((push msg).run w).2 := by
  rcases input_or_plain msg with ⟨i, rfl⟩ | plain
  · rw [push_direct_input_run i mode]
    by_cases fits : FitsInput i.size.toNat i.data.toList
    · have written := serialize_uhidInput i fits.1
      have bytes : (ControlMessage.uhidInput i).bytes =
          (uhidInputParts i.id i.size.toNat i.data.toList).flatten := by
        rw [ControlMessage.bytes, written]
      have ok : (ControlMessage.uhidInput i).Serializes := by
        rw [ControlMessage.Serializes, written]
        rfl
      obtain ⟨raw, encoded, front⟩ := encodeUhidInput_ok i.id i.size fits
      rw [encoded]
      have put := put_writeThrough (w := { w with pushed := w.pushed + 1 }) ok allOrNothing
      have done := (put.then fun _ => silent_stampFlush).then
        fun _ => silent_pure FlushReason.window
      rw [bytes, ← front] at done
      exact ⟨done.mode, done.pending, done.wire⟩
    · have refuse : encodeUhidInputToArray i.id i.size.toNat i.data.toList =
          .err (tooLarge i.size.toNat) := if_pos (rejected_of_not_fits fits)
      rw [refuse]
      exact put_lost ⟨rfl, rfl⟩ rfl rfl
  · rw [push_direct_run plain mode]
    have put := put_writeScratch (w := { w with pushed := w.pushed + 1 }) msg silent_stampFlush
      allOrNothing
    have done := put.then fun _ => silent_pure (if msg.isCritical then FlushReason.critical else .window)
    exact ⟨done.mode, done.pending, done.wire⟩

theorem bufferMessage_ok {msg : ControlMessage} (ok : msg.Serializes) (w : CoalescingWriter) :
    ∃ scratch, (bufferMessage msg).run w =
      (.ok (), { w with scratch, pending := w.pending ++ msg.bytes }) := by
  rcases input_or_plain msg with ⟨i, rfl⟩ | plain
  · by_cases fits : FitsInput i.size.toNat i.data.toList
    · have bytes : (ControlMessage.uhidInput i).bytes =
          (uhidInputParts i.id i.size.toNat i.data.toList).flatten := by
        rw [ControlMessage.bytes, serialize_uhidInput i fits.1]
      refine ⟨w.scratch, ?_⟩
      rw [bytes, bufferMessage, pushUhidInputToBuf, if_neg fits.not_rejected]
      exact extendAll_run _ w
    · exact (not_serializes_of_misfit fits ok).elim
  · rw [bufferMessage_plain plain, Method.run_bind_ok (pushMessageToScratch_ok ok w)]
    exact ⟨msg.bytes, rfl⟩

theorem bufferMessage_fails {msg : ControlMessage} (bad : ¬msg.Serializes) (w : CoalescingWriter) :
    ((bufferMessage msg).run w).1.isOk = false ∧
      ∃ scratch, ((bufferMessage msg).run w).2 = { w with scratch } := by
  rcases input_or_plain msg with ⟨i, rfl⟩ | plain
  · by_cases fits : FitsInput i.size.toNat i.data.toList
    · have written := serialize_uhidInput i fits.1
      refine (bad ?_).elim
      rw [ControlMessage.Serializes, written]
      rfl
    · rw [bufferMessage, pushUhidInputToBuf, if_pos (rejected_of_not_fits fits)]
      exact ⟨rfl, w.scratch, rfl⟩
  · obtain ⟨fails, scratch, state⟩ := pushMessageToScratch_fails bad w
    rw [bufferMessage_plain plain]
    obtain ⟨fails', state'⟩ := run_bind_fails (f := fun _ => do
      let scratch := (← Method.read).scratch
      onPending (extendFromSlice scratch)) fails
    exact ⟨fails', scratch, state'.trans state⟩

theorem push_buffered_run {msg : ControlMessage} (calm : msg.isCritical = false)
    {w : CoalescingWriter} (mode : w.direct = false) :
    (push msg).run w =
      (bufferMessage msg >>= fun _ => flushIfDue).run { w with pushed := w.pushed + 1 } := by
  conv_lhs =>
    rw [push, Method.run_read_bind]
    simp only [mode, Bool.false_eq_true, if_false, calm]
  rfl

/-- What the source checks after a message was buffered. -/
def Due (w : CoalescingWriter) : Prop :=
  w.hardLimit ≤ w.pending.length ∨ w.window ≤ w.clock w.ticks - w.lastFlush

theorem flushIfDue_run {w : CoalescingWriter} (full : w.pending ≠ []) :
    (¬w.Due ∧ (flushIfDue.run w).1.isOk = true ∧
      (flushIfDue.run w).2 = { w with ticks := w.ticks + 1 }) ∨
    w.Due ∧ ∃ ticks reason, flushIfDue.run w =
      (flushNow >>= fun _ => pure reason : Coalescing FlushReason).run { w with ticks } := by
  rw [flushIfDue, Method.run_read_bind]
  by_cases limit : w.hardLimit ≤ w.pending.length
  · simp only [ge_iff_le, limit, if_true]
    exact .inr ⟨.inl limit, w.ticks, .full, rfl⟩
  · simp only [ge_iff_le, limit, if_false]
    have timed : elapsed.run w =
        (.ok (w.clock w.ticks - w.lastFlush), { w with ticks := w.ticks + 1 }) := rfl
    rw [flushIfWindow, Method.run_bind_ok timed, Method.run_read_bind]
    by_cases window : w.window ≤ w.clock w.ticks - w.lastFlush
    · simp only [ge_iff_le, window, true_and, ne_eq, full, not_false_eq_true, if_true]
      exact .inr ⟨.inr window, w.ticks + 1, .window, rfl⟩
    · simp only [ge_iff_le, window, false_and, if_false]
      exact .inl ⟨not_or.mpr ⟨limit, window⟩, rfl, rfl⟩

end CoalescingWriter

/-- A push that was made, and whether it returned `Ok`. -/
structure PushCall where
  msg : ControlMessage
  ok : Bool

def bytesOf (calls : List PushCall) : List UInt8 := encodeAll (calls.map (·.msg))

@[simp] theorem bytesOf_append (xs ys : List PushCall) :
    bytesOf (xs ++ ys) = bytesOf xs ++ bytesOf ys := by
  rw [bytesOf, List.map_append, encodeAll_append, bytesOf, bytesOf]

/-- On the wire are the messages of `sent` and `again`, each once and in the order of the pushes;
those of `again` and `rest` are pending. No push that returned `Ok` is left out. -/
structure Explains (pushes : List PushCall) (w : CoalescingWriter)
    (sent again rest : List PushCall) : Prop where
  order : (sent ++ again ++ rest).Sublist pushes
  noneLost : (pushes.filter (·.ok)).Sublist (sent ++ again ++ rest)
  real : ∀ call ∈ sent ++ again ++ rest, call.msg.Serializes
  wire : w.transport.wire = bytesOf (sent ++ again)
  pending : w.pending = bytesOf (again ++ rest)

/-- Nothing is lost, and nothing is sent twice or out of order. -/
def Delivered (pushes : List PushCall) (w : CoalescingWriter) : Prop :=
  ∃ sent again rest, Explains pushes w sent again rest

inductive WriterCall where
  | push (msg : ControlMessage)
  | flushNow

/-- A writer with the pushes made so far. It is `stale` when what it flushes next is, from its
start, on the wire already. -/
structure Ledger where
  writer : CoalescingWriter
  pushes : List PushCall
  stale : Bool

namespace Ledger

def start (writer : CoalescingWriter) : Ledger := { writer, pushes := [], stale := false }

/-- Bytes that stay pending over a flush of the transport were written before it. -/
def settle (l : Ledger) (writer : CoalescingWriter) (pushes : List PushCall) : Ledger :=
  { writer, pushes
    stale := writer.pending ≠ [] &&
      (l.stale || writer.transport.flushes ≠ l.writer.transport.flushes) }

def step (l : Ledger) : WriterCall → Ledger
  | .push msg =>
    let (r, writer) := (CoalescingWriter.push msg).run l.writer
    l.settle writer (l.pushes ++ [{ msg, ok := r.isOk }])
  | .flushNow => l.settle (CoalescingWriter.flushNow.run l.writer).2 l.pushes

/-- The call writes what is pending before it. -/
def Flushes (w : CoalescingWriter) : WriterCall → Prop
  | .flushNow => True
  | .push msg => msg.isCritical = true ∨
      msg.Serializes ∧ CoalescingWriter.Due { w with pending := w.pending ++ msg.bytes }

def Safe (l : Ledger) (call : WriterCall) : Prop :=
  l.stale = true → Flushes l.writer call →
    l.writer.transport.onWrite l.writer.transport.writes ≠ .ok

/-- The pushes explain the writer; unless it is stale nothing is both on the wire and pending. -/
def Held (l : Ledger) : Prop :=
  ∃ sent again rest, Explains l.pushes l.writer sent again rest ∧ (l.stale = false → again = [])

end Ledger

namespace Explains
variable {pushes sent again rest : List PushCall} {w w' : CoalescingWriter}

theorem emptied (h : Explains pushes w sent again rest) (empty : w.pending = []) :
    Explains pushes w (sent ++ again ++ rest) [] [] := by
  have none := h.pending
  rw [empty, bytesOf_append] at none
  have restNil : bytesOf rest = [] := (List.append_eq_nil_iff.mp none.symm).2
  refine ⟨by simpa using h.order, by simpa using h.noneLost, by simpa using h.real, ?_, empty⟩
  rw [h.wire, List.append_nil, bytesOf_append (sent ++ again), restNil, List.append_nil]

theorem same (h : Explains pushes w sent again rest) (transport : w'.transport = w.transport)
    (pending : w'.pending = w.pending) : Explains pushes w' sent again rest :=
  ⟨h.order, h.noneLost, h.real, by rw [transport, h.wire], by rw [pending, h.pending]⟩

theorem skip (h : Explains pushes w sent again rest) (msg : ControlMessage) :
    Explains (pushes ++ [⟨msg, false⟩]) w sent again rest := by
  refine ⟨h.order.trans (List.sublist_append_left ..), ?_, h.real, h.wire, h.pending⟩
  rw [List.filter_append]
  simpa using h.noneLost

theorem buffered (h : Explains pushes w sent again rest) {msg : ControlMessage}
    (real : msg.Serializes) (ok : Bool) (transport : w'.transport = w.transport)
    (pending : w'.pending = w.pending ++ msg.bytes) :
    Explains (pushes ++ [⟨msg, ok⟩]) w' sent again (rest ++ [⟨msg, ok⟩]) := by
  have joined : sent ++ again ++ (rest ++ [⟨msg, ok⟩]) = sent ++ again ++ rest ++ [⟨msg, ok⟩] :=
    (List.append_assoc ..).symm
  refine ⟨?_, ?_, ?_, by rw [transport, h.wire], ?_⟩
  · rw [joined]
    exact h.order.append (List.Sublist.refl _)
  · rw [joined, List.filter_append]
    exact h.noneLost.append List.filter_sublist
  · rw [joined]
    intro call hm
    rcases List.mem_append.mp hm with hm | hm
    · exact h.real call hm
    · obtain rfl := List.mem_singleton.mp hm
      exact real
  · rw [pending, h.pending, ← List.append_assoc, bytesOf_append (again ++ rest)]
    simp [bytesOf]

theorem put (h : Explains pushes w sent [] []) {msg : ControlMessage} {ok : Bool}
    (put : CoalescingWriter.Put msg w ok w') :
    ∃ sent', Explains (pushes ++ [⟨msg, ok⟩]) w' sent' [] [] := by
  rcases put.wire with ⟨rfl, wire⟩ | ⟨real, wire⟩
  · obtain ⟨order, noneLost, all, _, _⟩ := h.skip msg
    exact ⟨sent, order, noneLost, all, by rw [wire, h.wire], by rw [put.pending, h.pending]⟩
  · have joined : Explains (pushes ++ [⟨msg, ok⟩]) { w with pending := w.pending ++ msg.bytes } sent []
        ([] ++ [⟨msg, ok⟩]) := h.buffered real ok rfl rfl
    obtain ⟨order, noneLost, all, _, _⟩ := joined
    simp only [List.append_nil, List.nil_append] at order noneLost all
    refine ⟨sent ++ [⟨msg, ok⟩], ?_, ?_, ?_, ?_, by rw [put.pending, h.pending]⟩
    · simpa using order
    · simpa using noneLost
    · simpa using all
    · rw [wire, h.wire]
      simp [bytesOf]

end Explains

namespace Ledger

theorem held_flush {l : Ledger} (h : l.Held) (allOrNothing : l.writer.transport.AllOrNothing)
    (safe : l.stale = true → l.writer.transport.onWrite l.writer.transport.writes ≠ .ok) :
    (l.settle (CoalescingWriter.flushNow.run l.writer).2 l.pushes).Held := by
  obtain ⟨sent, again, rest, explains, fresh⟩ := h
  obtain ⟨-, ⟨-, -, pending, wire, flushes⟩ | ⟨taken, transport, left⟩⟩ :=
    CoalescingWriter.flushNow_fate allOrNothing
  · have moved : Explains l.pushes (CoalescingWriter.flushNow.run l.writer).2 sent again rest :=
      ⟨explains.order, explains.noneLost, explains.real, wire.trans explains.wire,
        pending.trans explains.pending⟩
    by_cases empty : l.writer.pending = []
    · exact ⟨_, [], [], moved.emptied (pending.trans empty), fun _ => rfl⟩
    · refine ⟨sent, again, rest, moved, fun still => fresh ?_⟩
      simpa [settle, pending, empty, flushes] using still
  · obtain rfl : again = [] := by
      cases stale : l.stale with
      | false => exact fresh stale
      | true => exact (safe stale taken).elim
    have order := explains.order
    have noneLost := explains.noneLost
    have real := explains.real
    simp only [List.append_nil] at order noneLost real
    have onWire : (CoalescingWriter.flushNow.run l.writer).2.transport.wire =
        bytesOf (sent ++ rest) := by
      rw [transport, Transport.wrote, explains.wire, explains.pending]
      simp
    rcases left with cleared | ⟨-, same⟩
    · have moved : Explains l.pushes (CoalescingWriter.flushNow.run l.writer).2
          (sent ++ rest) [] [] :=
        ⟨by simpa using order, by simpa using noneLost, by simpa using real,
          by simpa using onWire, cleared⟩
      exact ⟨_, [], [], moved, fun _ => rfl⟩
    · have moved : Explains l.pushes (CoalescingWriter.flushNow.run l.writer).2 sent rest [] :=
        ⟨by simpa using order, by simpa using noneLost, by simpa using real, onWire,
          by rw [same, explains.pending]; simp⟩
      by_cases empty : l.writer.pending = []
      · exact ⟨_, [], [], moved.emptied (same.trans empty), fun _ => rfl⟩
      · refine ⟨sent, rest, [], moved, fun still => ?_⟩
        simp [settle, same, empty, transport, Transport.wrote] at still

/-- What every safe call keeps. -/
structure Sound (l : Ledger) : Prop where
  allOrNothing : l.writer.transport.AllOrNothing
  unbuffered : l.writer.direct = true → l.writer.pending = []
  held : l.Held

theorem sound_of_mode {l : Ledger} {w' : CoalescingWriter} {pushes : List PushCall}
    (h : l.Sound) (mode : CoalescingWriter.SameMode l.writer w')
    (unbuffered : l.writer.direct = true → w'.pending = []) (held : (l.settle w' pushes).Held) :
    (l.settle w' pushes).Sound := by
  refine ⟨?_, fun direct => unbuffered (mode.1.symm.trans direct), held⟩
  rw [settle, Transport.AllOrNothing, mode.2]
  exact h.allOrNothing

theorem held_put {l : Ledger} {w w' : CoalescingWriter} {msg : ControlMessage} {ok : Bool}
    {sent : List PushCall} (h : Explains l.pushes w sent [] [])
    (put : CoalescingWriter.Put msg w ok w') :
    (l.settle w' (l.pushes ++ [⟨msg, ok⟩])).Held := by
  obtain ⟨sent', explains⟩ := h.put put
  exact ⟨sent', [], [], explains, fun _ => rfl⟩

/-- The flush first, and the message behind it if the flush succeeded. -/
theorem sound_critical {l : Ledger} {msg : ControlMessage} (h : l.Sound)
    (critical : msg.isCritical = true) (direct : l.writer.direct = false)
    (safe : l.stale = true → l.writer.transport.onWrite l.writer.transport.writes ≠ .ok) :
    (l.settle ((CoalescingWriter.push msg).run l.writer).2
      (l.pushes ++ [⟨msg, ((CoalescingWriter.push msg).run l.writer).1.isOk⟩])).Sound := by
  let counted : CoalescingWriter := { l.writer with pushed := l.writer.pushed + 1 }
  let began : Ledger := { l with writer := counted }
  have start : began.Held := by
    obtain ⟨sent, again, rest, explains, fresh⟩ := h.held
    exact ⟨sent, again, rest, explains.same rfl rfl, fresh⟩
  have flushed := held_flush start h.allOrNothing safe
  obtain ⟨mode, fate⟩ := CoalescingWriter.flushNow_fate (w := counted) h.allOrNothing
  have cleared : (CoalescingWriter.flushNow.run counted).1.isOk = true →
      (CoalescingWriter.flushNow.run counted).2.pending = [] := by
    intro ok
    rcases fate with ⟨-, empty, pending, -⟩ | ⟨-, -, cleared | ⟨fails, -⟩⟩
    · exact pending.trans (empty ok)
    · exact cleared
    · rw [ok] at fails
      contradiction
  have other {P : Prop} : l.writer.direct = true → P := fun on => by
    rw [direct] at on
    contradiction
  rw [CoalescingWriter.push_coalesced_run critical direct]
  obtain ⟨sent, again, rest, explains, fresh⟩ := flushed
  cases ok : (CoalescingWriter.flushNow.run counted).1.isOk with
  | false =>
    obtain ⟨fails, state⟩ := CoalescingWriter.run_bind_fails (f := fun _ => do
      CoalescingWriter.writeScratch msg (pure ())
      pure FlushReason.critical) ok
    rw [fails, state]
    exact sound_of_mode h mode other ⟨sent, again, rest, explains.skip msg, fresh⟩
  | true =>
    obtain ⟨n, result⟩ := Outcome.isOk_iff.mp ok
    have run : CoalescingWriter.flushNow.run counted =
        (.ok n, (CoalescingWriter.flushNow.run counted).2) := Prod.ext result rfl
    rw [Method.run_bind_ok run]
    have whole := explains.emptied (cleared ok)
    have put := (CoalescingWriter.put_writeScratch msg (CoalescingWriter.silent_pure ()) (w :=
      (CoalescingWriter.flushNow.run counted).2) (by
        rw [Transport.AllOrNothing, mode.2]
        exact h.allOrNothing)).then fun _ => CoalescingWriter.silent_pure FlushReason.critical
    refine sound_of_mode h ⟨put.mode.1.trans mode.1, put.mode.2.trans mode.2⟩ other
      (held_put (l := l) whole put)

theorem sound_buffered {l : Ledger} {msg : ControlMessage} (h : l.Sound)
    (calm : msg.isCritical = false) (direct : l.writer.direct = false)
    (safe : l.stale = true → msg.Serializes →
      CoalescingWriter.Due { l.writer with pending := l.writer.pending ++ msg.bytes } →
        l.writer.transport.onWrite l.writer.transport.writes ≠ .ok) :
    (l.settle ((CoalescingWriter.push msg).run l.writer).2
      (l.pushes ++ [⟨msg, ((CoalescingWriter.push msg).run l.writer).1.isOk⟩])).Sound := by
  let counted : CoalescingWriter := { l.writer with pushed := l.writer.pushed + 1 }
  have other {P : Prop} : l.writer.direct = true → P := fun on => by
    rw [direct] at on
    contradiction
  obtain ⟨sent, again, rest, explains, fresh⟩ := h.held
  rw [CoalescingWriter.push_buffered_run calm direct]
  by_cases real : msg.Serializes
  · obtain ⟨scratch, buffered⟩ := CoalescingWriter.bufferMessage_ok real counted
    let joined : CoalescingWriter :=
      { counted with scratch, pending := l.writer.pending ++ msg.bytes }
    have full : joined.pending ≠ [] :=
      List.append_ne_nil_of_right_ne_nil _ (CoalescingWriter.bytes_ne_nil real)
    have explains' (ok : Bool) (ticks : Nat) : Explains (l.pushes ++ [⟨msg, ok⟩])
        { joined with ticks } sent again (rest ++ [⟨msg, ok⟩]) :=
      explains.buffered real ok rfl rfl
    rw [Method.run_bind_ok buffered]
    rcases CoalescingWriter.flushIfDue_run (w := joined) full with
      ⟨-, ok, state⟩ | ⟨due, ticks, reason, run⟩
    · rw [ok, state]
      refine sound_of_mode h ⟨rfl, rfl⟩ other
        ⟨_, _, _, explains' true (joined.ticks + 1), fun still => fresh ?_⟩
      simpa [settle, full, joined, counted] using still
    · rw [run, Method.run_bind_pure, Outcome.isOk_map]
      obtain ⟨mode, -⟩ :=
        CoalescingWriter.flushNow_fate (w := { joined with ticks }) h.allOrNothing
      let began (ok : Bool) : Ledger :=
        { writer := { joined with ticks }, pushes := l.pushes ++ [⟨msg, ok⟩], stale := l.stale }
      have start (ok : Bool) : (began ok).Held :=
        ⟨sent, again, rest ++ [⟨msg, ok⟩], explains' ok ticks, fresh⟩
      exact sound_of_mode h mode other
        (held_flush (start _) h.allOrNothing fun stale => safe stale real due)
  · obtain ⟨fails, scratch, state⟩ := CoalescingWriter.bufferMessage_fails real counted
    obtain ⟨fails', state'⟩ := CoalescingWriter.run_bind_fails
      (f := fun _ => CoalescingWriter.flushIfDue) fails
    rw [fails', state', state]
    have moved : Explains (l.pushes ++ [⟨msg, false⟩]) { counted with scratch } sent again rest :=
      (explains.skip msg).same rfl rfl
    refine sound_of_mode h ⟨rfl, rfl⟩ other ?_
    by_cases empty : l.writer.pending = []
    · exact ⟨_, [], [], moved.emptied empty, fun _ => rfl⟩
    · refine ⟨sent, again, rest, moved, fun still => fresh ?_⟩
      simpa [settle, empty, counted] using still

theorem sound_step (l : Ledger) (call : WriterCall) (h : l.Sound) (safe : l.Safe call) :
    (l.step call).Sound := by
  cases call with
  | flushNow =>
    obtain ⟨mode, fate⟩ := CoalescingWriter.flushNow_fate h.allOrNothing
    refine sound_of_mode h mode (fun direct => ?_)
      (held_flush h.held h.allOrNothing fun stale => safe stale trivial)
    have empty := h.unbuffered direct
    rcases fate with ⟨-, -, pending, -⟩ | ⟨-, -, cleared | ⟨-, same⟩⟩
    · exact pending.trans empty
    · exact cleared
    · exact same.trans empty
  | push msg =>
    rw [step]
    cases direct : l.writer.direct with
    | true =>
      have put := CoalescingWriter.push_direct_put msg direct h.allOrNothing
      obtain ⟨sent, again, rest, explains, -⟩ := h.held
      have empty := h.unbuffered direct
      exact sound_of_mode h put.mode (fun _ => put.pending.trans empty)
        (held_put (explains.emptied empty) put)
    | false =>
      cases critical : msg.isCritical with
      | true => exact sound_critical h critical direct fun stale => safe stale (.inl critical)
      | false =>
        exact sound_buffered h critical direct fun stale real due => safe stale (.inr ⟨real, due⟩)

/-- A new writer over a transport with the given answers. -/
def opened (onWrite : Nat → WriteOutcome) (onFlush : Nat → Option Error) (window hardLimit : Nat)
    (clock : Nat → Nat) : Ledger :=
  start (.withLimits (.fresh onWrite onFlush) window hardLimit clock)

/-- Over writes that are all or nothing, pushes and flushes in any order that never write stale bytes
again lose no message and send none twice or out of order. -/
theorem retries_never_duplicate (onWrite : Nat → WriteOutcome) (onFlush : Nat → Option Error)
    (window hardLimit : Nat) (clock : Nat → Nat)
    (allOrNothing : (Transport.fresh onWrite onFlush).AllOrNothing) (calls : List WriterCall)
    (safe : Run.Along step Safe (opened onWrite onFlush window hardLimit clock) calls) :
    Delivered (Run.after step (opened onWrite onFlush window hardLimit clock) calls).pushes
      (Run.after step (opened onWrite onFlush window hardLimit clock) calls).writer := by
  have initial : (opened onWrite onFlush window hardLimit clock).Sound :=
    ⟨allOrNothing, fun _ => rfl, [], [], [], ⟨List.Sublist.refl _, List.Sublist.refl _, nofun, rfl, rfl⟩,
      fun _ => rfl⟩
  obtain ⟨sent, again, rest, explains, -⟩ := (Run.invariant Sound sound_step initial safe).held
  exact ⟨sent, again, rest, explains⟩

def oneReport : ControlMessage := uhidInputMessage 1 8 [0, 0, 4, 0, 0, 0, 0, 0]

/-- The first flush of the transport is refused; the bytes are then left alone. -/
theorem retries_never_duplicate_once :
    Delivered
      (Run.after step (opened (fun _ => .ok) (fun i => if i = 0 then some .bufferFullCritical else none)
        1000 4096 fun _ => 0) [.push oneReport, .flushNow]).pushes
      (Run.after step (opened (fun _ => .ok) (fun i => if i = 0 then some .bufferFullCritical else none)
        1000 4096 fun _ => 0) [.push oneReport, .flushNow]).writer :=
  retries_never_duplicate _ _ _ _ _ (fun _ _ _ h => WriteOutcome.noConfusion h) _
    ⟨nofun, fun stale => absurd stale (by decide +kernel), trivial⟩

/-- The first flush of the transport is refused and the flush is tried again. -/
theorem retried_flush_duplicates :
    ¬Delivered
      (Run.after step (opened (fun _ => .ok) (fun i => if i = 0 then some .bufferFullCritical else none)
        1000 4096 fun _ => 0) [.push oneReport, .flushNow, .flushNow]).pushes
      (Run.after step (opened (fun _ => .ok) (fun i => if i = 0 then some .bufferFullCritical else none)
        1000 4096 fun _ => 0) [.push oneReport, .flushNow, .flushNow]).writer := by
  rintro ⟨sent, again, rest, explains⟩
  have order := (List.sublist_append_left (sent ++ again) rest).trans explains.order
  rcases List.sublist_singleton.mp order with none | one
  · have wire := explains.wire
    rw [none] at wire
    revert wire
    decide +kernel
  · have wire := explains.wire
    rw [one] at wire
    revert wire
    decide +kernel

end Ledger

end HidConnect
