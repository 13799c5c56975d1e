import HidConnect.Coalesce.Staged
import HidConnect.Coalesce.Direct
import HidConnect.Library.Errors

/-! What a writer fails with, and what it has taken in: the bytes that it has written, and those that it
has staged behind them. -/
namespace HidConnect
open Fallible

/- What a writer fails with. -/

def Error.IsTransport (e : Error) : Prop := ∃ message, e = .transport message

/-- The transport of an injector is a `std::io::Write`, whose errors become transport errors. -/
structure Transport.OfWrite (t : Transport) : Prop where
  write : ∀ i landed e, t.onWrite i = .failed landed e → e.IsTransport
  flush : ∀ i e, t.onFlush i = some e → e.IsTransport

theorem Transport.steady_ofWrite : steady.OfWrite := by
  constructor
  · intro i landed e failed
    cases failed
  · intro i e failed
    cases failed

theorem Transport.failsWithin_deliver (buf : List UInt8) :
    Method.FailsWithin OfWrite Error.IsTransport (deliver buf) := by
  have write : Method.FailsWithin OfWrite Error.IsTransport (writeAll buf) := by
    intro t good
    unfold writeAll
    dsimp only
    split
    · exact ⟨fun e same => (by cases same), good.write, good.flush⟩
    · rename_i landed e failed
      refine ⟨fun e' same => ?_, good.write, good.flush⟩
      cases same
      exact good.write _ _ _ failed
  refine write.bind fun _ t good => ?_
  unfold flush
  dsimp only
  split
  · exact ⟨fun e same => (by cases same), good.write, good.flush⟩
  · rename_i e failed
    refine ⟨fun e' same => ?_, good.write, good.flush⟩
    cases same
    exact good.flush _ _ failed

namespace CoalescingWriter

def OfWrite (w : CoalescingWriter) : Prop := w.transport.OfWrite

/-- The calls of a writer whose errors are those of its transport. -/
def OnlyTransport {α : Type} (m : Coalescing α) : Prop := Method.FailsWithin OfWrite Error.IsTransport m

theorem onlyTransport_deliver (buf : List UInt8) : OnlyTransport (onTransport (Transport.deliver buf)) :=
  (Transport.failsWithin_deliver buf).zoom (fun _ good => good) fun _ _ good => good

theorem onlyTransport_update {f : CoalescingWriter → CoalescingWriter}
    (same : ∀ w, (f w).transport = w.transport) : OnlyTransport (Method.update f) := by
  refine Method.failsWithin_update fun w good => ?_
  rw [OfWrite, same]
  exact good

theorem onlyTransport_silent {α : Type} {n : Nat} {m : Coalescing α} (h : Silent n m) :
    OnlyTransport m := by
  refine Method.failsWithin_ok (fun w good => ?_) fun w => (h w).1
  rw [OfWrite, (h w).2.1]
  exact good

theorem onlyTransport_flushNow : OnlyTransport flushNow := by
  refine Method.failsWithin_read.bind fun w => Method.FailsWithin.ite ?_ ?_
  · exact (onlyTransport_silent silent_stampFlush).bind fun _ => Method.failsWithin_pure _
  · exact (onlyTransport_deliver _).bind fun _ => (onlyTransport_update fun _ => rfl).bind fun _ =>
      (onlyTransport_silent silent_stampFlush).bind fun _ =>
        (onlyTransport_update fun _ => rfl).bind fun _ => Method.failsWithin_pure _

theorem onlyTransport_flushIfDue : OnlyTransport flushIfDue := by
  have flushed (reason : FlushReason) : OnlyTransport (do
      let _ ← flushNow
      pure reason : Coalescing FlushReason) := onlyTransport_flushNow.bind fun _ => Method.failsWithin_pure _
  refine Method.failsWithin_read.bind fun w => Method.FailsWithin.ite (flushed _) ?_
  refine (onlyTransport_silent silent_elapsed).bind fun e => Method.failsWithin_read.bind fun w => ?_
  exact Method.FailsWithin.ite (flushed _) (Method.failsWithin_pure _)

theorem onlyTransport_writeDirect (bytes : List UInt8) : OnlyTransport (writeDirect bytes) := by
  refine Method.FailsWithin.bind ?_ fun _ => onlyTransport_silent silent_stampFlush
  exact (onlyTransport_deliver bytes).bind fun _ => onlyTransport_update fun _ => rfl

theorem onlyTransport_bufferInput {i : UhidInput} (fits : FitsInput i.size.toNat i.data.toList) :
    OnlyTransport (bufferMessage (.uhidInput i)) := by
  refine Method.failsWithin_ok (fun _ good => good) fun w => ?_
  rw [bufferMessage, pushUhidInputToBuf, if_neg fits.not_rejected, extendAll_run]
  rfl

theorem onlyTransport_pushInput {i : UhidInput} (fits : FitsInput i.size.toNat i.data.toList) :
    OnlyTransport (push (.uhidInput i)) := by
  have counted : OnlyTransport (countPushed 1) := onlyTransport_silent (silent_countPushed 1)
  refine Method.failsWithin_read.bind fun w => Method.FailsWithin.ite ?_ ?_
  · obtain ⟨raw, encoded, -⟩ := encodeUhidInput_ok i.id i.size fits
    refine counted.bind fun _ => Method.FailsWithin.bind ?_ fun encoded =>
      (onlyTransport_writeDirect _).bind fun _ => Method.failsWithin_pure _
    refine Method.failsWithin_ok (fun _ good => good) fun w => ?_
    rw [Method.run_lift, encoded]
    rfl
  · exact counted.bind fun _ => (onlyTransport_bufferInput fits).bind fun _ => onlyTransport_flushIfDue

/- How much a writer has taken in. -/

/-- What has been written, and what is staged behind it. -/
def taken (w : CoalescingWriter) : List UInt8 := w.transport.wire ++ w.pending

theorem push_taken {msg : ControlMessage} (ok : msg.Serializes) (w : CoalescingWriter) :
    w.taken.length ≤ ((push msg).run w).2.taken.length ∧
      (((push msg).run w).1.isOk = true →
        w.taken.length + msg.bytes.length ≤ ((push msg).run w).2.taken.length) := by
  unfold taken
  cases mode : w.direct with
  | true =>
    have sent := push_direct_delivers ok mode
    obtain ⟨out, wire⟩ := w.transport.deliver_extends msg.bytes
    rw [sent.pending, sent.transport, sent.ok]
    refine ⟨?_, fun accepted => ?_⟩
    · rw [wire]
      simp only [List.length_append]
      omega
    · rw [Transport.deliver_accepted _ (Transport.deliver_isOk.mp accepted)]
      simp only [Transport.wrote, List.length_append]
      omega
  | false =>
    have tidy : w.Tidy := fun on => absurd (mode.symm.trans on) Bool.false_ne_true
    obtain ⟨came, gone, queued, whole⟩ := stages_push msg w tidy
    obtain ⟨out, wire, part⟩ := queued.wire
    have lengths := congrArg List.length queued.queue
    have least := part.length_le
    simp only [List.length_append] at lengths
    rw [wire]
    simp only [List.length_append]
    refine ⟨by omega, fun done => ?_⟩
    rw [← whole done]
    omega

/-- Messages that a writer took: a direct one has written them, a coalescing one has written or staged
them behind what it held. -/
structure Puts (bytes : List UInt8) (w w' : CoalescingWriter) : Prop where
  direct : w'.direct = w.direct
  written : w.direct = true →
    w'.pending = w.pending ∧ w'.transport.wire = w.transport.wire ++ bytes
  staged : w.direct = false → w'.taken = w.taken ++ bytes

theorem puts_nothing (w : CoalescingWriter) : Puts [] w w := by
  constructor
  case direct => rfl
  case written => exact fun _ => ⟨rfl, (List.append_nil _).symm⟩
  case staged => exact fun _ => (List.append_nil _).symm

theorem Puts.trans {bytes bytes' : List UInt8} {w w₁ w₂ : CoalescingWriter} (first : Puts bytes w w₁)
    (second : Puts bytes' w₁ w₂) : Puts (bytes ++ bytes') w w₂ := by
  constructor
  case direct => exact second.direct.trans first.direct
  case written =>
    intro mode
    obtain ⟨pending, wire⟩ := first.written mode
    obtain ⟨pending', wire'⟩ := second.written (first.direct.trans mode)
    exact ⟨pending'.trans pending, by rw [wire', wire, List.append_assoc]⟩
  case staged =>
    intro mode
    rw [second.staged (first.direct.trans mode), first.staged mode, List.append_assoc]

theorem flushNow_taken {w : CoalescingWriter} (ok : (flushNow.run w).1.isOk = true) :
    (flushNow.run w).2.taken = w.taken ∧ (flushNow.run w).2.direct = w.direct := by
  obtain ⟨direct, out, wire, whole⟩ := w.flushNow_extends
  rcases w.flushNow_cases with ⟨-, empty, -⟩ | ⟨failed, -⟩
  · refine ⟨?_, direct⟩
    rw [taken, taken, empty, wire, whole ok, List.append_nil]
  · rw [ok] at failed
    cases failed

theorem flushIfDue_taken {w : CoalescingWriter} (full : w.pending ≠ [])
    (ok : (flushIfDue.run w).1.isOk = true) :
    (flushIfDue.run w).2.taken = w.taken ∧ (flushIfDue.run w).2.direct = w.direct := by
  rcases flushIfDue_run full with ⟨-, -, same⟩ | ⟨-, ticks, reason, run⟩
  · rw [same]
    exact ⟨rfl, rfl⟩
  · rw [run] at ok ⊢
    obtain ⟨answer, whole⟩ := Outcome.isOk_iff.mp ok
    obtain ⟨n, t, flushed, last⟩ := Method.of_run_bind_ok (Prod.ext whole rfl)
    cases last
    have kept := flushNow_taken (w := { w with ticks }) (by rw [flushed]; rfl)
    rw [flushed] at kept
    exact kept

theorem push_puts {msg : ControlMessage} (ok : msg.Serializes) (calm : msg.isCritical = false)
    {w : CoalescingWriter} (done : ((push msg).run w).1.isOk = true) :
    Puts msg.bytes w ((push msg).run w).2 := by
  cases mode : w.direct with
  | true =>
    have sent := push_direct_delivers ok mode
    rw [sent.ok] at done
    constructor
    case direct => exact sent.direct
    case written =>
      intro _
      rw [sent.transport, Transport.deliver_accepted _ (Transport.deliver_isOk.mp done)]
      exact ⟨sent.pending, rfl⟩
    case staged => exact fun off => absurd (off.symm.trans mode) Bool.false_ne_true
  | false =>
    obtain ⟨scratch, buffered⟩ := bufferMessage_ok ok { w with pushed := w.pushed + 1 }
    rw [push_buffered_run calm mode, Method.run_bind_ok buffered] at done ⊢
    have full : w.pending ++ msg.bytes ≠ [] := fun none =>
      bytes_ne_nil ok (List.append_eq_nil_iff.mp none).2
    obtain ⟨same, direct⟩ := flushIfDue_taken full done
    constructor
    case direct => exact direct
    case written => exact fun on => absurd (mode.symm.trans on) Bool.false_ne_true
    case staged =>
      intro _
      rw [same, taken, taken, List.append_assoc]

/-- Nothing joins what was staged, and what is new on the wire was staged first. -/
structure Unloads (w w' : CoalescingWriter) : Prop where
  pending : w'.pending = w.pending ∨ w'.pending = []
  wire : ∃ out, w'.transport.wire = w.transport.wire ++ out ∧ out <+: w.pending

theorem unloads_same (w : CoalescingWriter) : w.Unloads w :=
  ⟨.inl rfl, [], (List.append_nil _).symm, List.nil_prefix⟩

theorem unloads_flushNow (w : CoalescingWriter) : w.Unloads (flushNow.run w).2 := by
  by_cases empty : w.pending = []
  · rw [flushNow_empty empty]
    exact ⟨.inl rfl, [], (List.append_nil _).symm, List.nil_prefix⟩
  · obtain ⟨out, wire, front⟩ := w.transport.deliver_front w.pending
    rcases hd : (Transport.deliver w.pending).run w.transport with ⟨r, t⟩
    rw [hd] at wire
    have sent : (flushNow.run w).2.transport = t ∧
        ((flushNow.run w).2.pending = w.pending ∨ (flushNow.run w).2.pending = []) := by
      cases r <;> simp [flushNow, onTransport, Method.run_bind, hd, empty, stampFlush, now, countFlush]
    refine ⟨sent.2, out, ?_, front⟩
    rw [sent.1]
    exact wire

end CoalescingWriter

end HidConnect
