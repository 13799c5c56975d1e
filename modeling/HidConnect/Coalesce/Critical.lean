import HidConnect.Coalesce.Stream

/-! When a critical message goes out: the write of what is pending and its own write must both be
accepted. -/
namespace HidConnect
open Fallible

namespace CoalescingWriter

/-- The writes that are due before a critical message: one if something is pending. -/
def due (w : CoalescingWriter) : Nat := if w.pending = [] then 0 else 1

theorem writeThrough_accepted {w : CoalescingWriter} (bytes : List UInt8)
    (h : w.transport.Accepts 1) :
    (writeThrough bytes).run w = (.ok (), { w with
      transport := w.transport.wrote bytes, written := w.written + bytes.length
      flushes := w.flushes + 1 }) := by
  simp [writeThrough, onTransport, Method.run_bind, Transport.deliver_accepted bytes h, countFlush]

theorem writeThrough_refused {w : CoalescingWriter} (bytes : List UInt8)
    (h : ¬w.transport.Accepts 1) :
    ∃ e t, (writeThrough bytes).run w = (.err e, { w with transport := t }) ∧
      t.onWrite = w.transport.onWrite ∧ t.onFlush = w.transport.onFlush ∧
      (w.transport.AllOrNothing → w.transport.FlushOk →
        t = { w.transport with writes := w.transport.writes + 1 }) := by
  obtain ⟨e, t, run, rest⟩ := Transport.deliver_refused bytes h
  exact ⟨e, t, by simp [writeThrough, onTransport, Method.run_bind, run], rest⟩

theorem flushNow_empty {w : CoalescingWriter} (h : w.pending = []) :
    flushNow.run w =
      (.ok 0, { w with lastFlush := w.clock w.ticks, ticks := w.ticks + 1 }) := by
  simp [flushNow, Method.run_bind, h, stampFlush, now]

theorem flushNow_accepted {w : CoalescingWriter} (full : w.pending ≠ [])
    (h : w.transport.Accepts 1) :
    flushNow.run w = (.ok w.pending.length, { w with
      transport := w.transport.wrote w.pending, pending := [], lastFlush := w.clock w.ticks
      ticks := w.ticks + 1, written := w.written + w.pending.length, flushes := w.flushes + 1 }) := by
  simp [flushNow, onTransport, Method.run_bind, Transport.deliver_accepted _ h, full, stampFlush,
    now, countFlush]

theorem flushNow_refused {w : CoalescingWriter} (full : w.pending ≠ [])
    (h : ¬w.transport.Accepts 1) :
    ∃ e t, flushNow.run w = (.err e, { w with transport := t }) ∧
      t.onWrite = w.transport.onWrite ∧ t.onFlush = w.transport.onFlush ∧
      (w.transport.AllOrNothing → w.transport.FlushOk →
        t = { w.transport with writes := w.transport.writes + 1 }) := by
  obtain ⟨e, t, run, rest⟩ := Transport.deliver_refused w.pending h
  exact ⟨e, t, by simp [flushNow, onTransport, Method.run_bind, run, full], rest⟩

theorem flushNow_isOk {w : CoalescingWriter} :
    (flushNow.run w).1.isOk = true ↔ w.transport.Accepts w.due := by
  by_cases empty : w.pending = []
  · simp [flushNow_empty empty, due, empty, Transport.accepts_zero]
  · rw [due, if_neg empty]
    by_cases h : w.transport.Accepts 1
    · simp [flushNow_accepted empty h, h]
    · obtain ⟨e, t, run, _⟩ := flushNow_refused empty h
      simp [run, h]

/- A critical push. A direct writer has nothing to flush first. -/

def ahead (w : CoalescingWriter) : List UInt8 := if w.direct then [] else w.pending

def turns (w : CoalescingWriter) : Nat := if w.direct then 1 else w.due + 1

theorem writeScratch_run {msg : ControlMessage} (ok : msg.Serializes) (stamp : Coalescing Unit)
    (w : CoalescingWriter) :
    (writeScratch msg stamp).run w =
      (writeThrough msg.bytes >>= fun _ => stamp).run { w with scratch := [] } := by
  rw [writeScratch, Method.run_bind_ok (pushMessageToScratch_ok ok w)]
  rfl

theorem writeScratch_accepted {msg : ControlMessage} (ok : msg.Serializes)
    (stamp : Coalescing Unit) {w : CoalescingWriter} (h : w.transport.Accepts 1) :
    (writeScratch msg stamp).run w = stamp.run { w with
      transport := w.transport.wrote msg.bytes, scratch := []
      written := w.written + msg.bytes.length, flushes := w.flushes + 1 } := by
  rw [writeScratch_run ok,
    Method.run_bind_ok (writeThrough_accepted (w := { w with scratch := [] }) msg.bytes h)]

theorem writeScratch_refused {msg : ControlMessage} (ok : msg.Serializes)
    (stamp : Coalescing Unit) {w : CoalescingWriter} (h : ¬w.transport.Accepts 1) :
    ∃ e t, (writeScratch msg stamp).run w = (.err e, { w with transport := t, scratch := [] }) ∧
      t.onWrite = w.transport.onWrite ∧ t.onFlush = w.transport.onFlush ∧
      (w.transport.AllOrNothing → w.transport.FlushOk →
        t = { w.transport with writes := w.transport.writes + 1 }) := by
  obtain ⟨e, t, run, rest⟩ := writeThrough_refused (w := { w with scratch := [] }) msg.bytes h
  exact ⟨e, t, by rw [writeScratch_run ok, Method.run_bind_err run], rest⟩

theorem push_direct_run {msg : ControlMessage} (plain : ∀ i, msg ≠ .uhidInput i)
    {w : CoalescingWriter} (mode : w.direct = true) :
    (push msg).run w = (do
      writeScratch msg stampFlush
      pure (if msg.isCritical then .critical else .window) : Coalescing FlushReason).run
        { w with pushed := w.pushed + 1 } := by
  conv_lhs => rw [push, Method.run_read_bind, mode, if_pos rfl, pushDirect_plain plain]
  rfl

theorem push_direct_input_run (i : UhidInput) {w : CoalescingWriter} (mode : w.direct = true) :
    (push (.uhidInput i)).run w = (do
      let (raw, serializedLen) ← .lift (encodeUhidInputToArray i.id i.size.toNat i.data.toList)
      writeDirect (raw.take serializedLen)
      pure .window : Coalescing FlushReason).run { w with pushed := w.pushed + 1 } := by
  conv_lhs => rw [push, Method.run_read_bind, mode, if_pos rfl]
  rfl

theorem push_direct_accepted {msg : ControlMessage} (ok : msg.Serializes)
    (plain : ∀ i, msg ≠ .uhidInput i) {w : CoalescingWriter} (mode : w.direct = true)
    (h : w.transport.Accepts 1) :
    ∃ w', (push msg).run w = (.ok (if msg.isCritical then .critical else .window), w') ∧
      w'.direct = w.direct ∧ w'.transport = w.transport.wrote msg.bytes ∧
      w'.pending = w.pending := by
  let counted : CoalescingWriter := { w with pushed := w.pushed + 1 }
  refine ⟨(stampFlush.run { counted with
    transport := w.transport.wrote msg.bytes, scratch := []
    written := w.written + msg.bytes.length, flushes := w.flushes + 1 }).2, ?_, rfl, rfl, rfl⟩
  rw [push_direct_run plain mode, Method.run_bind,
    writeScratch_accepted (w := counted) ok stampFlush h]
  rfl

theorem push_direct_refused {msg : ControlMessage} (ok : msg.Serializes)
    (plain : ∀ i, msg ≠ .uhidInput i) {w : CoalescingWriter} (mode : w.direct = true)
    (h : ¬w.transport.Accepts 1) :
    ∃ e w', (push msg).run w = (.err e, w') ∧ w'.direct = w.direct ∧ w'.pending = w.pending ∧
      w'.transport.onWrite = w.transport.onWrite ∧ w'.transport.onFlush = w.transport.onFlush ∧
      (w.transport.AllOrNothing → w.transport.FlushOk →
        w'.transport = { w.transport with writes := w.transport.writes + 1 }) := by
  let counted : CoalescingWriter := { w with pushed := w.pushed + 1 }
  obtain ⟨e, t, run, onWrite, onFlush, exactly⟩ :=
    writeScratch_refused (w := counted) ok stampFlush h
  rw [push_direct_run plain mode, Method.run_bind_err run]
  exact ⟨e, _, rfl, rfl, rfl, onWrite, onFlush, exactly⟩

theorem plain_of_critical {msg : ControlMessage} (critical : msg.isCritical = true) :
    ∀ i, msg ≠ .uhidInput i := by
  rintro i rfl
  contradiction

/-- A coalescing writer flushes what is pending before it writes the message. -/
theorem push_coalesced_run {msg : ControlMessage} (critical : msg.isCritical = true)
    {w : CoalescingWriter} (mode : w.direct = false) :
    (push msg).run w = (do
      let _ ← flushNow
      writeScratch msg (pure ())
      pure .critical : Coalescing FlushReason).run { w with pushed := w.pushed + 1 } := by
  conv_lhs =>
    rw [push, Method.run_read_bind]
    simp only [mode, Bool.false_eq_true, if_false, critical, if_true]
  rfl

theorem push_critical_accepted {msg : ControlMessage} (ok : msg.Serializes)
    (critical : msg.isCritical = true) {w : CoalescingWriter} (h : w.transport.Accepts w.turns) :
    ∃ w', (push msg).run w = (.ok .critical, w') ∧ w'.direct = w.direct ∧
      w'.transport = { w.transport with
        wire := w.transport.wire ++ (w.ahead ++ msg.bytes)
        writes := w.transport.writes + w.turns, flushes := w.transport.flushes + w.turns } ∧
      w'.pending = if w.direct then w.pending else [] := by
  let counted : CoalescingWriter := { w with pushed := w.pushed + 1 }
  cases mode : w.direct with
  | true =>
    simp only [turns, mode, if_true] at h
    obtain ⟨w', run, direct, transport, pending⟩ :=
      push_direct_accepted ok (plain_of_critical critical) mode h
    rw [critical, if_pos rfl] at run
    refine ⟨w', run, direct.trans mode, ?_, pending⟩
    simp [transport, ahead, turns, mode, Transport.wrote]
  | false =>
    simp only [turns, mode, Bool.false_eq_true, if_false] at h
    rw [push_coalesced_run critical mode]
    by_cases empty : w.pending = []
    · simp only [due, empty, if_true] at h
      rw [Method.run_bind_ok (flushNow_empty (w := counted) empty), Method.run_bind,
        writeScratch_accepted (w := { counted with
          lastFlush := w.clock w.ticks, ticks := w.ticks + 1 }) ok (pure ()) h]
      exact ⟨_, rfl, mode, by simp [ahead, turns, due, mode, empty, Transport.wrote, counted],
        by simp [empty, counted]⟩
    · simp only [due, empty, if_false] at h
      obtain ⟨first, second⟩ := (Transport.accepts_succ w.pending 1).mp h
      rw [Method.run_bind_ok (flushNow_accepted (w := counted) empty first), Method.run_bind,
        writeScratch_accepted ok (pure ()) second]
      exact ⟨_, rfl, mode, by simp [ahead, turns, due, mode, empty, Transport.wrote, counted], rfl⟩

/-- A critical push that is refused a write loses nothing of the stream and adds nothing to it,
when writes are all or nothing. -/
theorem push_critical_refused {msg : ControlMessage} (ok : msg.Serializes)
    (critical : msg.isCritical = true) {w : CoalescingWriter} (h : ¬w.transport.Accepts w.turns) :
    ∃ e w', (push msg).run w = (.err e, w') ∧ (w.pending = [] → w'.pending = []) ∧
      w'.transport.onWrite = w.transport.onWrite ∧ w'.transport.onFlush = w.transport.onFlush ∧
      (w.transport.AllOrNothing → w.transport.FlushOk →
        w'.transport.wire ++ w'.pending = w.transport.wire ++ w.pending ∧
        w.transport.writes < w'.transport.writes ∧
        w'.transport.writes ≤ w.transport.writes + w.turns) := by
  let counted : CoalescingWriter := { w with pushed := w.pushed + 1 }
  cases mode : w.direct with
  | true =>
    simp only [turns, mode, if_true] at h
    obtain ⟨e, w', run, _, pending, onWrite, onFlush, exactly⟩ :=
      push_direct_refused ok (plain_of_critical critical) mode h
    refine ⟨e, w', run, fun empty => pending.trans empty, onWrite, onFlush,
      fun allOrNothing flushOk => ?_⟩
    rw [exactly allOrNothing flushOk, pending]
    simp [turns, mode]
  | false =>
    simp only [turns, mode, Bool.false_eq_true, if_false] at h
    rw [push_coalesced_run critical mode]
    by_cases empty : w.pending = []
    · simp only [due, empty, if_true] at h
      obtain ⟨e, t, run, onWrite, onFlush, exactly⟩ := writeScratch_refused (w := { counted with
        lastFlush := w.clock w.ticks, ticks := w.ticks + 1 }) ok (pure ()) h
      rw [Method.run_bind_ok (flushNow_empty (w := counted) empty), Method.run_bind_err run]
      refine ⟨e, _, rfl, id, onWrite, onFlush, fun allOrNothing flushOk => ?_⟩
      rw [exactly allOrNothing flushOk]
      simp [turns, due, mode, empty, counted]
    · simp only [due, empty, if_false] at h
      by_cases first : w.transport.Accepts 1
      · have second : ¬(w.transport.wrote w.pending).Accepts 1 :=
          fun hs => h ((Transport.accepts_succ w.pending 1).mpr ⟨first, hs⟩)
        obtain ⟨e, t, run, onWrite, onFlush, exactly⟩ := writeScratch_refused (w := { counted with
          transport := w.transport.wrote w.pending, pending := [], lastFlush := w.clock w.ticks
          ticks := w.ticks + 1, written := w.written + w.pending.length
          flushes := w.flushes + 1 }) ok (pure ()) second
        rw [Method.run_bind_ok (flushNow_accepted (w := counted) empty first),
          Method.run_bind_err run]
        refine ⟨e, _, rfl, fun _ => rfl, onWrite, onFlush, fun allOrNothing flushOk => ?_⟩
        rw [exactly allOrNothing flushOk]
        have ahead : w.transport.writes < w.transport.writes + 1 + 1 := by omega
        simp [turns, due, mode, empty, Transport.wrote, ahead]
      · obtain ⟨e, t, run, onWrite, onFlush, exactly⟩ :=
          flushNow_refused (w := counted) empty first
        rw [Method.run_bind_err run]
        refine ⟨e, _, rfl, id, onWrite, onFlush, fun allOrNothing flushOk => ?_⟩
        rw [exactly allOrNothing flushOk]
        simp [turns, due, mode, empty, counted]

theorem bytes_ne_nil {msg : ControlMessage} (ok : msg.Serializes) : msg.bytes ≠ [] := by
  obtain ⟨payload, _, bytes⟩ := ok.payload
  rw [bytes]
  exact List.cons_ne_nil _ _

theorem Carries.stream {d : Bool} {w : CoalescingWriter} {sent held : List ControlMessage}
    (h : Carries d w sent held) : w.transport.wire ++ w.pending = encodeAll (sent ++ held) := by
  rw [h.wire, h.pending, encodeAll_append]

theorem Carries.critical_accepted {d : Bool} {w : CoalescingWriter}
    {sent held : List ControlMessage} (carries : Carries d w sent held) {msg : ControlMessage}
    (ok : msg.Serializes) (critical : msg.isCritical = true) (h : w.transport.Accepts w.turns) :
    ∃ w', (push msg).run w = (.ok .critical, w') ∧ Carries d w' (sent ++ held ++ [msg]) [] ∧
      w'.transport = { w.transport with
        wire := w.transport.wire ++ (w.ahead ++ msg.bytes)
        writes := w.transport.writes + w.turns, flushes := w.transport.flushes + w.turns } := by
  obtain ⟨w', run, mode, transport, pending⟩ := push_critical_accepted ok critical h
  have ahead : w.ahead = encodeAll held := by
    cases hd : w.direct with
    | true => simp [CoalescingWriter.ahead, hd, carries.unbuffered (carries.mode ▸ hd)]
    | false => simp [CoalescingWriter.ahead, hd, carries.pending]
  have cleared : w'.pending = [] := by
    cases hd : w.direct with
    | true => simp [pending, hd, carries.pending, carries.unbuffered (carries.mode ▸ hd)]
    | false => simp [pending, hd]
  refine ⟨w', run, ⟨mode.trans carries.mode, ?_, ?_, ?_, ?_, fun _ => rfl, ?_, ?_⟩, transport⟩
  · simp only [transport, carries.wire, ahead, encodeAll_append, encodeAll_singleton,
      List.append_assoc]
  · exact cleared
  · intro m hm
    simp only [List.mem_append, List.mem_singleton] at hm
    rcases hm with (hm | hm) | rfl
    · exact carries.sentOk m hm
    · exact (carries.heldOk m hm).1
    · exact ok
  · exact List.forall_mem_nil _
  · rw [transport]
    exact carries.allOrNothing
  · rw [transport]
    exact carries.flushOk

theorem encodeAll_eq_nil {msgs : List ControlMessage} (ok : ∀ msg ∈ msgs, msg.Serializes)
    (h : encodeAll msgs = []) : msgs = [] := by
  cases msgs with
  | nil => rfl
  | cons msg msgs =>
    simp only [encodeAll, List.flatMap_cons, List.append_eq_nil_iff] at h
    exact (bytes_ne_nil (ok msg (List.mem_cons_self ..)) h.1).elim

theorem Carries.cleared_iff {d : Bool} {w : CoalescingWriter} {sent held : List ControlMessage}
    (h : Carries d w sent held) : held = [] ↔ w.pending = [] := by
  rw [h.pending]
  constructor
  · rintro rfl
    rfl
  · exact encodeAll_eq_nil fun m hm => (h.heldOk m hm).1

theorem Carries.critical_refused {d : Bool} {w : CoalescingWriter}
    {sent held : List ControlMessage} (carries : Carries d w sent held) {msg : ControlMessage}
    (ok : msg.Serializes) (critical : msg.isCritical = true) (h : ¬w.transport.Accepts w.turns) :
    ∃ e w' sent' held', (push msg).run w = (.err e, w') ∧ Carries d w' sent' held' ∧
      sent' ++ held' = sent ++ held ∧ (held = [] → held' = []) ∧
      w'.transport.onWrite = w.transport.onWrite ∧ w'.transport.onFlush = w.transport.onFlush ∧
      w.transport.writes < w'.transport.writes ∧
      w'.transport.writes ≤ w.transport.writes + w.turns := by
  obtain ⟨e, w', run, cleared, onWrite, onFlush, rest⟩ := push_critical_refused ok critical h
  obtain ⟨stream, later, bounded⟩ := rest carries.allOrNothing carries.flushOk
  obtain ⟨landed, sent', held', carries', joined, part, _⟩ :=
    (emits_push d msg w sent held carries).stream
  rw [run] at carries'
  refine ⟨e, w', sent', held', run, carries', ?_, ?_, onWrite, onFlush, later, bounded⟩
  · rw [carries'.stream, carries.stream, joined, encodeAll_append] at stream
    have none : landed = [] := by
      refine encodeAll_eq_nil (fun m hm => ?_) (List.append_right_eq_self.mp stream)
      obtain rfl := List.mem_singleton.mp (part.subset hm)
      exact ok
    rw [joined, none, List.append_nil]
  · rw [carries.cleared_iff, carries'.cleared_iff]
    exact cleared

/- Several critical messages, one after the other until one is refused. -/

def pushAll (msgs : List ControlMessage) : Coalescing Unit :=
  .forEach msgs fun msg => .discard (push msg)

def AllCritical (msgs : List ControlMessage) : Prop :=
  ∀ msg ∈ msgs, msg.Serializes ∧ msg.isCritical = true

theorem pushAll_cons_accepted {msg : ControlMessage} {msgs : List ControlMessage}
    {w w' : CoalescingWriter} {reason : FlushReason} (h : (push msg).run w = (.ok reason, w')) :
    (pushAll (msg :: msgs)).run w = (pushAll msgs).run w' := by
  refine Method.run_bind_ok (a := ()) ?_
  rw [Method.run_discard, h]
  rfl

theorem pushAll_cons_refused {msg : ControlMessage} {msgs : List ControlMessage}
    {w w' : CoalescingWriter} {e : Error} (h : (push msg).run w = (.err e, w')) :
    (pushAll (msg :: msgs)).run w = (.err e, w') := by
  refine Method.run_bind_err ?_
  rw [Method.run_discard, h]
  rfl

theorem pushAll_no_panic {msgs : List ControlMessage} (all : AllCritical msgs)
    (w : CoalescingWriter) : ((pushAll msgs).run w).1.isPanic = false := by
  induction msgs generalizing w with
  | nil => rfl
  | cons msg msgs ih =>
    obtain ⟨ok, critical⟩ := all msg (List.mem_cons_self ..)
    by_cases h : w.transport.Accepts w.turns
    · obtain ⟨w', run, _⟩ := push_critical_accepted ok critical h
      rw [pushAll_cons_accepted run]
      exact ih (fun m hm => all m (List.mem_cons_of_mem _ hm)) w'
    · obtain ⟨e, w', run, _⟩ := push_critical_refused ok critical h
      rw [pushAll_cons_refused run]
      rfl

/-- The messages and a last flush take one write each, and one more for what was pending. -/
theorem pushAll_flush_isOk {msgs : List ControlMessage} (all : AllCritical msgs)
    (w : CoalescingWriter) :
    ((pushAll msgs >>= fun _ => flushNow).run w).1.isOk = true ↔
      w.transport.Accepts (msgs.length + w.due) := by
  induction msgs generalizing w with
  | nil =>
    rw [List.length_nil, Nat.zero_add, ← flushNow_isOk]
    rfl
  | cons msg msgs ih =>
    obtain ⟨ok, critical⟩ := all msg (List.mem_cons_self ..)
    by_cases h : w.transport.Accepts w.turns
    · obtain ⟨w', run, mode, transport, pending⟩ := push_critical_accepted ok critical h
      have cost : (msg :: msgs).length + w.due = w.turns + (msgs.length + w'.due) := by
        cases hd : w.direct <;> simp [turns, due, pending, hd] <;> omega
      have shifted := Transport.accepts_add (t := w.transport) (u := w'.transport) (m := w.turns)
        (by rw [transport]) (by rw [transport]) (by rw [transport]) (by rw [transport])
        (msgs.length + w'.due)
      rw [Method.run_bind, pushAll_cons_accepted run, ← Method.run_bind,
        ih (fun m hm => all m (List.mem_cons_of_mem _ hm)), cost, shifted]
      exact ⟨fun rest => ⟨h, rest⟩, fun both => both.2⟩
    · obtain ⟨e, w', run, _⟩ := push_critical_refused ok critical h
      have few : w.turns ≤ (msg :: msgs).length + w.due := by
        cases hd : w.direct with
        | false => simp only [turns, hd, Bool.false_eq_true, if_false, List.length_cons]; omega
        | true => simp only [turns, hd, if_true, List.length_cons]; omega
      rw [Method.run_bind_err (pushAll_cons_refused run)]
      simp only [Outcome.isOk_err, Bool.false_eq_true, false_iff]
      exact fun accepts => h (accepts.le few)

theorem pushAll_isOk_of_accepts {msgs : List ControlMessage} (all : AllCritical msgs)
    {w : CoalescingWriter} (h : w.transport.Accepts (msgs.length + w.due)) :
    ((pushAll msgs).run w).1.isOk = true := by
  rw [← pushAll_flush_isOk all w] at h
  by_contra refused
  rw [Bool.not_eq_true] at refused
  rw [(run_bind_fails refused).1] at h
  contradiction

/-- How many of the messages are accepted before one is refused. -/
def acceptedCount : List ControlMessage → CoalescingWriter → Nat
  | [], _ => 0
  | msg :: msgs, w =>
    match (push msg).run w with
    | (.ok _, w') => acceptedCount msgs w' + 1
    | _ => 0

/-- Of critical messages the first `k` joined the stream: all of them if every write was accepted,
else those before the refused one. -/
structure Announced (d : Bool) (msgs : List ControlMessage) (w : CoalescingWriter)
    (sent held : List ControlMessage) (k : Nat) (ok : Bool) (w' : CoalescingWriter)
    (sent' held' : List ControlMessage) : Prop where
  carries : Carries d w' sent' held'
  joined : sent' ++ held' = sent ++ held ++ msgs.take k
  few : k ≤ msgs.length
  whole : ok = true ↔ k = msgs.length
  cleared : held = [] ∨ 0 < k → held' = []
  began : msgs ≠ [] → (0 < k ↔ w.transport.Accepts w.turns)
  onWrite : w'.transport.onWrite = w.transport.onWrite
  onFlush : w'.transport.onFlush = w.transport.onFlush
  writes : held = [] → w'.transport.writes = w.transport.writes + min (k + 1) msgs.length
  refused : held = [] → k < msgs.length → w.transport.onWrite (w.transport.writes + k) ≠ .ok

theorem Carries.turns_of_cleared {d : Bool} {w : CoalescingWriter} {sent : List ControlMessage}
    (carries : Carries d w sent []) : w.turns = 1 := by
  have empty : w.pending = [] := carries.pending
  cases hd : w.direct <;> simp [turns, due, hd, empty]

theorem Carries.pushAll {d : Bool} {msgs : List ControlMessage} (all : AllCritical msgs)
    {w : CoalescingWriter} {sent held : List ControlMessage} (carries : Carries d w sent held) :
    ∃ sent' held', Announced d msgs w sent held (acceptedCount msgs w)
      ((CoalescingWriter.pushAll msgs).run w).1.isOk
      ((CoalescingWriter.pushAll msgs).run w).2 sent' held' := by
  induction msgs generalizing w sent held with
  | nil =>
    exact ⟨sent, held, carries, by simp [acceptedCount], Nat.le_refl 0,
      ⟨fun _ => rfl, fun _ => rfl⟩, fun h => h.resolve_right (Nat.lt_irrefl 0),
      fun h => (h rfl).elim, rfl, rfl, fun _ => rfl, fun _ h => (Nat.lt_irrefl 0 h).elim⟩
  | cons msg msgs ih =>
    obtain ⟨ok, critical⟩ := all msg (List.mem_cons_self ..)
    by_cases h : w.transport.Accepts w.turns
    · obtain ⟨w₁, run, carries₁, transport⟩ := carries.critical_accepted ok critical h
      obtain ⟨sent', held', rest⟩ := ih (fun m hm => all m (List.mem_cons_of_mem _ hm)) carries₁
      have count : acceptedCount (msg :: msgs) w = acceptedCount msgs w₁ + 1 := by
        rw [acceptedCount, run]
      rw [pushAll_cons_accepted run, count]
      refine ⟨sent', held', rest.carries, ?_, ?_, ?_, ?_, ?_, ?_, ?_, ?_, ?_⟩
      · rw [rest.joined]
        simp
      · exact Nat.succ_le_succ rest.few
      · rw [rest.whole, List.length_cons]
        omega
      · exact fun _ => rest.cleared (.inl rfl)
      · exact fun _ => ⟨fun _ => h, fun _ => Nat.succ_pos _⟩
      · rw [rest.onWrite, transport]
      · rw [rest.onFlush, transport]
      · rintro rfl
        simp only [rest.writes rfl, transport, carries.turns_of_cleared, List.length_cons]
        omega
      · rintro rfl hk
        have fails := rest.refused rfl (by simpa using hk)
        rw [transport, carries.turns_of_cleared] at fails
        rwa [Nat.add_assoc, Nat.add_comm 1] at fails
    · obtain ⟨e, w', sent', held', run, carries', joined, cleared, onWrite, onFlush, later,
        bounded⟩ := carries.critical_refused ok critical h
      have count : acceptedCount (msg :: msgs) w = 0 := by rw [acceptedCount, run]
      rw [pushAll_cons_refused run, count]
      refine ⟨sent', held', carries', ?_, Nat.zero_le _, ?_, ?_, ?_, onWrite, onFlush, ?_, ?_⟩
      · rw [joined, List.take_zero, List.append_nil]
      · simp
      · exact fun hk => cleared (hk.resolve_right (Nat.lt_irrefl 0))
      · exact fun _ => ⟨fun hk => (Nat.lt_irrefl 0 hk).elim, fun accepts => (h accepts).elim⟩
      · rintro rfl
        rw [carries.turns_of_cleared] at bounded
        simp only [List.length_cons]
        omega
      · rintro rfl _ okWrite
        rw [carries.turns_of_cleared] at h
        exact h (Transport.accepts_one.mpr ⟨okWrite, carries.flushOk _⟩)

end CoalescingWriter

end HidConnect
