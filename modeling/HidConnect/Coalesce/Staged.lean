import HidConnect.Coalesce.Failures

/-! The writer as a queue of bytes, over a transport that may fail in any way: bytes are staged at the
back, and leave at the front when they have been written and flushed. -/
namespace HidConnect
open Fallible

namespace Transport

/-- What a delivery puts on the wire is a beginning of its bytes, whatever becomes of it. -/
theorem deliver_front (t : Transport) (buf : List UInt8) :
    ∃ out, ((deliver buf).run t).2.wire = t.wire ++ out ∧ out <+: buf := by
  cases hw : t.onWrite t.writes with
  | ok =>
    refine ⟨buf, ?_, List.prefix_rfl⟩
    cases hf : t.onFlush t.flushes with
    | none => simp [deliver, Method.run_bind, writeAll, flush, hw, hf]
    | some e => simp [deliver, Method.run_bind, writeAll, flush, hw, hf]
  | failed landed e =>
    exact ⟨buf.take landed, by simp [deliver, Method.run_bind, writeAll, hw], List.take_prefix _ _⟩

theorem deliver_extends (t : Transport) (buf : List UInt8) :
    ∃ out, ((deliver buf).run t).2.wire = t.wire ++ out := by
  obtain ⟨out, wire, -⟩ := t.deliver_front buf
  exact ⟨out, wire⟩

end Transport

namespace CoalescingWriter

/-- How many bytes have been staged: those that were flushed, and those that wait. -/
def staged (w : CoalescingWriter) : Nat := w.written + w.pending.length

/-- Nothing waits in a direct writer. -/
def Tidy (w : CoalescingWriter) : Prop := w.direct = true → w.pending = []

/-- What came into the queue, and what was flushed out of it. -/
structure Queued (w w' : CoalescingWriter) (came gone : List UInt8) : Prop where
  direct : w'.direct = w.direct
  tidy : w'.Tidy
  queue : w.pending ++ came = gone ++ w'.pending
  written : w'.written = w.written + gone.length
  wire : ∃ out, w'.transport.wire = w.transport.wire ++ out ∧ gone.Sublist out

namespace Queued
variable {w w₁ w₂ : CoalescingWriter} {came gone came' gone' : List UInt8}

theorem same (tidy : w.Tidy) (direct : w₁.direct = w.direct) (pending : w₁.pending = w.pending)
    (written : w₁.written = w.written) (wire : ∃ out, w₁.transport.wire = w.transport.wire ++ out) :
    Queued w w₁ [] [] := by
  obtain ⟨out, wire⟩ := wire
  constructor
  case direct => exact direct
  case tidy =>
    intro on
    rw [pending]
    exact tidy (direct.symm.trans on)
  case queue => rw [List.append_nil, List.nil_append, pending]
  case written => exact written
  case wire => exact ⟨out, wire, List.nil_sublist out⟩

theorem trans (first : Queued w w₁ came gone) (second : Queued w₁ w₂ came' gone') :
    Queued w w₂ (came ++ came') (gone ++ gone') := by
  obtain ⟨out, wire, part⟩ := first.wire
  obtain ⟨out', wire', part'⟩ := second.wire
  constructor
  case direct => exact second.direct.trans first.direct
  case tidy => exact second.tidy
  case queue =>
    calc w.pending ++ (came ++ came') = gone ++ (w₁.pending ++ came') := by
          rw [← List.append_assoc, first.queue, List.append_assoc]
      _ = gone ++ gone' ++ w₂.pending := by rw [second.queue, List.append_assoc]
  case written =>
    rw [second.written, first.written, List.length_append]
    omega
  case wire => exact ⟨out ++ out', by rw [wire', wire, List.append_assoc], part.append part'⟩

theorem staged (h : Queued w w₁ came gone) : w₁.staged = w.staged + came.length := by
  have lengths := congrArg List.length h.queue
  rw [List.length_append, List.length_append] at lengths
  have written := h.written
  unfold CoalescingWriter.staged
  omega

end Queued

/-- The bytes staged from `start` on and before `stop` have been written and flushed. They are numbered
in the order in which they were staged, which is the one in which they leave. -/
def Flushed (w : CoalescingWriter) (start stop : Nat) : Prop := ∀ n, start ≤ n → n < stop → n < w.written

theorem flushed_of_le {w : CoalescingWriter} {start stop : Nat} (h : stop ≤ w.written) :
    w.Flushed start stop :=
  fun _ _ early => Nat.lt_of_lt_of_le early h

/-- The call of a tidy writer is a call of the queue. -/
def Drains (w w' : CoalescingWriter) : Prop := w.Tidy → ∃ came gone, Queued w w' came gone

instance : IsPreorder CoalescingWriter Drains where
  refl w tidy := ⟨[], [], .same tidy rfl rfl rfl ⟨[], (List.append_nil _).symm⟩⟩
  trans _ _ _ first second tidy := by
    obtain ⟨came, gone, queued⟩ := first tidy
    obtain ⟨came', gone', queued'⟩ := second queued.tidy
    exact ⟨_, _, queued.trans queued'⟩

theorem Drains.staged_le {w w' : CoalescingWriter} (h : Drains w w') (tidy : w.Tidy) :
    w.staged ≤ w'.staged := by
  obtain ⟨came, gone, queued⟩ := h tidy
  rw [queued.staged]
  exact Nat.le_add_right _ _

theorem Drains.tidy {w w' : CoalescingWriter} (h : Drains w w') (tidy : w.Tidy) : w'.Tidy := by
  obtain ⟨came, gone, queued⟩ := h tidy
  exact queued.tidy

/-- A call that stages a message: all of it, if the call returned `Ok`. -/
def Stages (bytes : List UInt8) (w : CoalescingWriter) (ok : Bool) (w' : CoalescingWriter) : Prop :=
  w.Tidy → ∃ came gone, Queued w w' came gone ∧ (ok = true → came = bytes)

theorem Stages.drains {bytes : List UInt8} {w w' : CoalescingWriter} {ok : Bool}
    (h : Stages bytes w ok w') : Drains w w' := by
  intro tidy
  obtain ⟨came, gone, queued, -⟩ := h tidy
  exact ⟨came, gone, queued⟩

theorem Stages.then {α β : Type} {bytes : List UInt8} {m : Coalescing α} {f : α → Coalescing β}
    {w : CoalescingWriter} (h : Stages bytes w (m.run w).1.isOk (m.run w).2)
    (rest : ∀ a w, Stages [] w ((f a).run w).1.isOk ((f a).run w).2) :
    Stages bytes w ((m >>= f).run w).1.isOk ((m >>= f).run w).2 := by
  intro tidy
  obtain ⟨came, gone, queued, whole⟩ := h tidy
  rcases hr : m.run w with ⟨r, t⟩
  rw [hr] at queued whole
  cases r with
  | ok a =>
    obtain ⟨came', gone', queued', whole'⟩ := rest a t queued.tidy
    rw [Method.run_bind_ok hr]
    refine ⟨_, _, queued.trans queued', fun ok => ?_⟩
    rw [whole rfl, whole' ok, List.append_nil]
  | err e =>
    rw [Method.run_bind_err hr]
    exact ⟨came, gone, queued, whole⟩
  | panic =>
    rw [Method.run_bind_panic hr]
    exact ⟨came, gone, queued, whole⟩

theorem Silent.stages {α : Type} {n : Nat} {m : Coalescing α} (h : Silent n m) (w : CoalescingWriter) :
    Stages [] w (m.run w).1.isOk (m.run w).2 := by
  obtain ⟨-, transport, pending, direct, -, written⟩ := h w
  intro tidy
  refine ⟨[], [], .same tidy direct pending written ⟨[], ?_⟩, fun _ => rfl⟩
  rw [transport, List.append_nil]

/-- A flush takes all that waits, or nothing. -/
theorem flushNow_cases (w : CoalescingWriter) :
    (flushNow.run w).1.isOk = true ∧ (flushNow.run w).2.pending = [] ∧
        (flushNow.run w).2.written = w.staged ∨
      (flushNow.run w).1.isOk = false ∧ (flushNow.run w).2.pending = w.pending ∧
        (flushNow.run w).2.written = w.written := by
  by_cases empty : w.pending = []
  · rw [flushNow_empty empty, staged, empty]
    exact .inl ⟨rfl, rfl, rfl⟩
  · by_cases accepted : w.transport.Accepts 1
    · rw [flushNow_accepted empty accepted]
      exact .inl ⟨rfl, rfl, rfl⟩
    · obtain ⟨e, t, run, -⟩ := flushNow_refused empty accepted
      rw [run]
      exact .inr ⟨rfl, rfl, rfl⟩

theorem flushNow_extends (w : CoalescingWriter) :
    (flushNow.run w).2.direct = w.direct ∧
      ∃ out, (flushNow.run w).2.transport.wire = w.transport.wire ++ out ∧
        ((flushNow.run w).1.isOk = true → out = w.pending) := by
  by_cases empty : w.pending = []
  · rw [flushNow_empty empty, empty]
    exact ⟨rfl, [], (List.append_nil _).symm, fun _ => rfl⟩
  · by_cases accepted : w.transport.Accepts 1
    · rw [flushNow_accepted empty accepted]
      exact ⟨rfl, w.pending, rfl, fun _ => rfl⟩
    · obtain ⟨e, t, run, -⟩ := flushNow_refused empty accepted
      obtain ⟨e', t', refused, -⟩ := Transport.deliver_refused w.pending accepted
      obtain ⟨out, wire⟩ := w.transport.deliver_extends w.pending
      rw [refused] at wire
      have failed : flushNow.run w = (.err e', { w with transport := t' }) := by
        simp [flushNow, onTransport, Method.run_bind, refused, empty]
      rw [failed]
      exact ⟨rfl, out, wire, fun ok => absurd ok Bool.false_ne_true⟩

theorem stages_flushNow (w : CoalescingWriter) :
    Stages [] w (flushNow.run w).1.isOk (flushNow.run w).2 := by
  intro tidy
  obtain ⟨direct, out, wire, all⟩ := w.flushNow_extends
  rcases w.flushNow_cases with ⟨ok, empty, written⟩ | ⟨-, pending, written⟩
  · refine ⟨[], w.pending, ⟨direct, fun _ => empty, by rw [empty], written, out, wire, ?_⟩, fun _ => rfl⟩
    rw [all ok]
  · exact ⟨[], [], .same tidy direct pending written ⟨out, wire⟩, fun _ => rfl⟩

theorem stages_writeThrough {w : CoalescingWriter} (empty : w.pending = []) (bytes : List UInt8) :
    Stages bytes w ((writeThrough bytes).run w).1.isOk ((writeThrough bytes).run w).2 := by
  intro tidy
  obtain ⟨out, wire⟩ := w.transport.deliver_extends bytes
  by_cases accepted : w.transport.Accepts 1
  · rw [writeThrough_accepted bytes accepted]
    refine ⟨bytes, bytes, ⟨rfl, tidy, ?_, rfl, bytes, rfl, List.Sublist.refl _⟩, fun _ => rfl⟩
    rw [empty, List.append_nil, List.nil_append]
  · obtain ⟨e, t, refused, -⟩ := Transport.deliver_refused bytes accepted
    rw [refused] at wire
    have failed : (writeThrough bytes).run w = (.err e, { w with transport := t }) := by
      simp [writeThrough, onTransport, Method.run_bind, refused]
    rw [failed]
    exact ⟨[], [], .same tidy rfl rfl rfl ⟨out, wire⟩, fun ok => absurd ok Bool.false_ne_true⟩

theorem stages_flushIfWindow (otherwise : FlushReason) (w : CoalescingWriter) :
    Stages [] w ((flushIfWindow otherwise).run w).1.isOk ((flushIfWindow otherwise).run w).2 := by
  refine Stages.then (silent_elapsed.stages w) fun e w => ?_
  rw [Method.run_read_bind]
  split
  · exact (stages_flushNow w).then fun _ w => (silent_pure _).stages w
  · exact (silent_pure _).stages w

theorem stages_flushIfDue (w : CoalescingWriter) :
    Stages [] w (flushIfDue.run w).1.isOk (flushIfDue.run w).2 := by
  rw [flushIfDue, Method.run_read_bind]
  split
  · exact (stages_flushNow w).then fun _ w => (silent_pure _).stages w
  · exact stages_flushIfWindow _ w

theorem Stages.of_same {bytes : List UInt8} {w w₁ w' : CoalescingWriter} {ok : Bool}
    (h : Stages bytes w₁ ok w') (direct : w₁.direct = w.direct) (pending : w₁.pending = w.pending)
    (written : w₁.written = w.written) (transport : w₁.transport = w.transport) :
    Stages bytes w ok w' := by
  intro tidy
  have still : Queued w w₁ [] [] :=
    .same tidy direct pending written ⟨[], by rw [transport, List.append_nil]⟩
  obtain ⟨came, gone, queued, whole⟩ := h still.tidy
  exact ⟨_, _, still.trans queued, whole⟩

theorem stages_nothing {bytes : List UInt8} {w w' : CoalescingWriter} (direct : w'.direct = w.direct)
    (pending : w'.pending = w.pending) (written : w'.written = w.written)
    (transport : w'.transport = w.transport) : Stages bytes w false w' := by
  intro tidy
  refine ⟨[], [], .same tidy direct pending written ⟨[], ?_⟩, fun ok => absurd ok Bool.false_ne_true⟩
  rw [transport, List.append_nil]

theorem stages_pending {w : CoalescingWriter} (mode : w.direct = false) (bytes : List UInt8) :
    Stages bytes w true { w with pending := w.pending ++ bytes } := by
  intro tidy
  have tidy' : ({ w with pending := w.pending ++ bytes } : CoalescingWriter).Tidy := by
    intro on
    exact absurd (mode.symm.trans on) Bool.false_ne_true
  refine ⟨bytes, [], ?_, fun _ => rfl⟩
  exact ⟨rfl, tidy', rfl, rfl, [], (List.append_nil _).symm, List.Sublist.refl _⟩

theorem stages_writeScratch (msg : ControlMessage) {stamp : Coalescing Unit} (silent : Silent 0 stamp)
    {w : CoalescingWriter} (empty : w.pending = []) :
    Stages msg.bytes w ((writeScratch msg stamp).run w).1.isOk ((writeScratch msg stamp).run w).2 := by
  by_cases ok : msg.Serializes
  · rw [writeScratch_run ok]
    have written := stages_writeThrough (w := { w with scratch := [] }) empty msg.bytes
    exact (written.then fun _ w => silent.stages w).of_same rfl rfl rfl rfl
  · obtain ⟨fails, scratch, state⟩ := pushMessageToScratch_fails ok w
    rw [writeScratch]
    obtain ⟨fails', state'⟩ := run_bind_fails (f := fun _ => do
      let serialized := (← Method.read).scratch
      Method.update fun w => { w with scratch := [] }
      writeThrough serialized
      stamp) fails
    rw [fails', state', state]
    exact stages_nothing rfl rfl rfl rfl

/-- A direct writer writes the report at once. -/
def writeInput (id : UInt16) (size : Nat) (data : List UInt8) : Coalescing FlushReason := do
  let (raw, serializedLen) ← .lift (encodeUhidInputToArray id size data)
  writeDirect (raw.take serializedLen)
  pure .window

theorem stages_writeInput {w : CoalescingWriter} (empty : w.pending = []) {id : UInt16} {size : Nat}
    {data bytes : List UInt8}
    (whole : FitsInput size data → bytes = (uhidInputParts id size data).flatten) :
    Stages bytes w ((writeInput id size data).run w).1.isOk ((writeInput id size data).run w).2 := by
  by_cases fits : FitsInput size data
  · have encoded : encodeUhidInputToArray id size data =
        .ok (Bytes.copyAll 0 (uhidInputParts id size data) (zeros (hidMaxSize + 5)), 5 + size) :=
      if_neg fits.not_rejected
    have front := copyAll_take (length_uhidInputParts id fits.2)
      (Nat.add_comm 5 size ▸ Nat.add_le_add_right fits.1 5)
    have run : writeInput id size data = (do
        writeDirect bytes
        pure .window : Coalescing FlushReason) := by
      rw [writeInput, encoded, whole fits, ← front]
      rfl
    rw [run]
    exact ((stages_writeThrough empty bytes).then fun _ w => silent_stampFlush.stages w).then
      fun _ w => (silent_pure _).stages w
  · have refused : encodeUhidInputToArray id size data = .err (tooLarge size) :=
      if_pos (rejected_of_not_fits fits)
    rw [writeInput, refused]
    exact stages_nothing rfl rfl rfl rfl

theorem bytes_uhidInput {i : UhidInput} (fits : FitsInput i.size.toNat i.data.toList) :
    (ControlMessage.uhidInput i).bytes = (uhidInputParts i.id i.size.toNat i.data.toList).flatten := by
  rw [ControlMessage.bytes, serialize_uhidInput i fits.1]

theorem stages_bufferMessage (msg : ControlMessage) {w : CoalescingWriter} (mode : w.direct = false) :
    Stages msg.bytes w ((bufferMessage msg).run w).1.isOk ((bufferMessage msg).run w).2 := by
  by_cases real : msg.Serializes
  · obtain ⟨scratch, run⟩ := bufferMessage_ok real w
    rw [run]
    exact (stages_pending (w := { w with scratch }) mode msg.bytes).of_same rfl rfl rfl rfl
  · obtain ⟨fails, scratch, state⟩ := bufferMessage_fails real w
    rw [fails, state]
    exact stages_nothing rfl rfl rfl rfl

theorem stages_critical (msg : ControlMessage) (w : CoalescingWriter) :
    let m : Coalescing FlushReason := do
      let _ ← flushNow
      writeScratch msg (pure ())
      pure .critical
    Stages msg.bytes w (m.run w).1.isOk (m.run w).2 := by
  intro m tidy
  obtain ⟨came, gone, queued, none⟩ := stages_flushNow w tidy
  rcases w.flushNow_cases with ⟨ok, empty, -⟩ | ⟨fails, -⟩
  · obtain ⟨n, result⟩ := Outcome.isOk_iff.mp ok
    have run : flushNow.run w = (.ok n, (flushNow.run w).2) := Prod.ext result rfl
    have written := (stages_writeScratch msg (silent_pure ()) empty).then
      fun _ w => (silent_pure FlushReason.critical).stages w
    obtain ⟨came', gone', queued', whole⟩ := written queued.tidy
    rw [Method.run_bind_ok run]
    refine ⟨_, _, queued.trans queued', fun done => ?_⟩
    rw [none ok, List.nil_append, whole done]
  · obtain ⟨fails', state⟩ := run_bind_fails (f := fun _ => do
      writeScratch msg (pure ())
      pure FlushReason.critical) fails
    rw [fails', state]
    exact ⟨came, gone, queued, fun done => absurd done Bool.false_ne_true⟩

theorem stages_push (msg : ControlMessage) (w : CoalescingWriter) :
    Stages msg.bytes w ((push msg).run w).1.isOk ((push msg).run w).2 := by
  let counted : CoalescingWriter := { w with pushed := w.pushed + 1 }
  suffices staged : Stages msg.bytes counted ((push msg).run w).1.isOk ((push msg).run w).2 from
    staged.of_same rfl rfl rfl rfl
  cases mode : w.direct with
  | true =>
    intro tidy
    have empty : counted.pending = [] := tidy mode
    rcases input_or_plain msg with ⟨i, rfl⟩ | plain
    · rw [push_direct_input_run i mode]
      exact stages_writeInput empty bytes_uhidInput tidy
    · rw [push_direct_run plain mode]
      have reason := silent_pure (if msg.isCritical then FlushReason.critical else .window)
      exact (stages_writeScratch msg silent_stampFlush empty).then (fun _ w => reason.stages w) tidy
  | false =>
    cases critical : msg.isCritical with
    | true =>
      rw [push_coalesced_run critical mode]
      exact stages_critical msg counted
    | false =>
      rw [push_buffered_run critical mode]
      exact (stages_bufferMessage msg (w := counted) mode).then fun _ w => stages_flushIfDue w

theorem stages_pushUhidInput (id size : UInt16) (data : List UInt8) (w : CoalescingWriter) :
    Stages (uhidInputParts id size.toNat data).flatten w ((pushUhidInput id size data).run w).1.isOk
      ((pushUhidInput id size data).run w).2 := by
  let counted : CoalescingWriter := { w with pushed := w.pushed + 1 }
  suffices staged : Stages (uhidInputParts id size.toNat data).flatten counted
      ((pushUhidInput id size data).run w).1.isOk ((pushUhidInput id size data).run w).2 from
    staged.of_same rfl rfl rfl rfl
  cases mode : w.direct with
  | true =>
    have run : (pushUhidInput id size data).run w = (writeInput id size.toNat data).run counted := by
      rw [pushUhidInput, Method.run_read_bind, mode, if_pos rfl]
      rfl
    intro tidy
    rw [run]
    exact stages_writeInput (tidy mode) (fun _ => rfl) tidy
  | false =>
    have run : (pushUhidInput id size data).run w =
        (onPending (pushUhidInputToBuf id size.toNat data) >>= fun _ => flushIfDue).run counted := by
      rw [pushUhidInput, Method.run_read_bind, mode, if_neg Bool.false_ne_true]
      rfl
    rw [run]
    refine Stages.then ?_ fun _ w => stages_flushIfDue w
    unfold pushUhidInputToBuf
    split
    · exact stages_nothing rfl rfl rfl rfl
    · rw [extendAll_run]
      exact stages_pending (w := counted) mode _

end CoalescingWriter

end HidConnect
