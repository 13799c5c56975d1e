import HidConnect.Coalesce.Failures

/-! A direct writer: a push is one delivery. -/
namespace HidConnect
open Fallible

namespace CoalescingWriter

/-- A call that is one delivery of these bytes. -/
structure Delivers (bytes : List UInt8) (w : CoalescingWriter) (ok : Bool) (w' : CoalescingWriter) :
    Prop where
  ok : ok = ((Transport.deliver bytes).run w.transport).1.isOk
  transport : w'.transport = ((Transport.deliver bytes).run w.transport).2
  direct : w'.direct = w.direct
  pending : w'.pending = w.pending

theorem delivers_writeThrough (bytes : List UInt8) (w : CoalescingWriter) :
    Delivers bytes w ((writeThrough bytes).run w).1.isOk ((writeThrough bytes).run w).2 := by
  rcases hd : (Transport.deliver bytes).run w.transport with ⟨r, t⟩
  have run : (onTransport (Transport.deliver bytes)).run w = (r, { w with transport := t }) := by
    rw [onTransport, Method.run_zoom, hd]
  rw [writeThrough]
  cases r with
  | ok a =>
    rw [Method.run_bind_ok run]
    constructor <;> simp [hd, countFlush]
  | err e =>
    rw [Method.run_bind_err run]
    constructor <;> simp [hd]
  | panic =>
    rw [Method.run_bind_panic run]
    constructor <;> simp [hd]

theorem Delivers.then {α β : Type} {bytes : List UInt8} {m : Coalescing α} {f : α → Coalescing β}
    {w : CoalescingWriter} (h : Delivers bytes w (m.run w).1.isOk (m.run w).2)
    (silent : ∀ a, Silent 0 (f a)) :
    Delivers bytes w ((m >>= f).run w).1.isOk ((m >>= f).run w).2 := by
  rcases hr : m.run w with ⟨r, t⟩
  rw [hr] at h
  cases r with
  | ok a =>
    obtain ⟨ok, transport, pending, direct, -⟩ := silent a t
    rw [Method.run_bind_ok hr, ok]
    exact ⟨h.ok, transport.trans h.transport, direct.trans h.direct, pending.trans h.pending⟩
  | err e => rwa [Method.run_bind_err hr]
  | panic => rwa [Method.run_bind_panic hr]

theorem push_direct_delivers {msg : ControlMessage} (ok : msg.Serializes) {w : CoalescingWriter}
    (mode : w.direct = true) :
    Delivers msg.bytes w ((push msg).run w).1.isOk ((push msg).run w).2 := by
  rcases input_or_plain msg with ⟨i, rfl⟩ | plain
  · by_cases fits : FitsInput i.size.toNat i.data.toList
    · have bytes : (ControlMessage.uhidInput i).bytes =
          (uhidInputParts i.id i.size.toNat i.data.toList).flatten := by
        rw [ControlMessage.bytes, serialize_uhidInput i fits.1]
      obtain ⟨raw, encoded, front⟩ := encodeUhidInput_ok i.id i.size fits
      rw [bytes, ← front, push_direct_input_run i mode, encoded]
      have written := delivers_writeThrough (raw.take (5 + i.size.toNat))
        { w with pushed := w.pushed + 1 }
      have done := (written.then fun _ => silent_stampFlush).then
        fun _ => silent_pure FlushReason.window
      exact ⟨done.ok, done.transport, done.direct, done.pending⟩
    · exact (not_serializes_of_misfit fits ok).elim
  · rw [push_direct_run plain mode, Method.run_bind, writeScratch_run ok, ← Method.run_bind]
    have written := delivers_writeThrough msg.bytes { w with pushed := w.pushed + 1, scratch := [] }
    have done := (written.then fun _ => silent_stampFlush).then
      fun _ => silent_pure (if msg.isCritical then FlushReason.critical else .window)
    exact ⟨done.ok, done.transport, done.direct, done.pending⟩

end CoalescingWriter

theorem Transport.deliver_isOk {t : Transport} {bytes : List UInt8} :
    ((deliver bytes).run t).1.isOk = true ↔ t.Accepts 1 := by
  by_cases h : t.Accepts 1
  · simp [deliver_accepted bytes h, h]
  · obtain ⟨e, t', run, -⟩ := deliver_refused bytes h
    simp [run, h]

theorem Transport.deliver_plan {t : Transport} (allOrNothing : t.AllOrNothing) (bytes : List UInt8) :
    ((deliver bytes).run t).2.onWrite = t.onWrite ∧
      ((deliver bytes).run t).2.writes = t.writes + 1 := by
  rcases deliver_fate allOrNothing bytes with ⟨-, -, same⟩ | ⟨-, wrote⟩
  · rw [same]
    exact ⟨rfl, rfl⟩
  · rw [wrote]
    exact ⟨rfl, rfl⟩

end HidConnect
