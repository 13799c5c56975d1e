import HidConnect.Coalesce.Critical

/-! How much of a chunk of gamepad reports lands when the transport refuses a write: nothing only
where a direct writer is refused its first one. -/
namespace HidConnect
open Fallible

namespace CoalescingWriter

/-- Of the messages a call was to emit the first `k` joined the stream. -/
structure Landed (d : Bool) (msgs : List ControlMessage) (w : CoalescingWriter)
    (sent held : List ControlMessage) (k : Nat) (ok : Bool) (w' : CoalescingWriter) : Prop where
  stream : ∃ sent' held', Carries d w' sent' held' ∧ sent' ++ held' = sent ++ held ++ msgs.take k
  few : k ≤ msgs.length
  whole : ok = true → k = msgs.length
  onWrite : w'.transport.onWrite = w.transport.onWrite
  onFlush : w'.transport.onFlush = w.transport.onFlush
  total : w.transport.NeverFails → ok = true

theorem Effect.landed {d ok : Bool} {w w' : CoalescingWriter}
    {sent held msgs : List ControlMessage} {n : Nat} (h : Effect d w sent held msgs n ok w')
    (all : ∀ msg ∈ msgs, msg.Serializes) : ∃ k, Landed d msgs w sent held k ok w' := by
  obtain ⟨landed, sent', held', carries, joined, part, whole⟩ := h.stream
  refine ⟨landed.length, ⟨sent', held', carries, ?_⟩, part.length_le, fun done => ?_, h.onWrite,
    h.onFlush, fun never => h.total never all⟩
  · rw [joined, ← List.prefix_iff_eq_take.mp part]
  · rw [whole done]

theorem Emits.begun {α : Type} {msg : ControlMessage} {rest : List ControlMessage} {n : Nat}
    {m : Coalescing α} (emits : Emits false rest n m) (all : ∀ x ∈ rest, x.Serializes)
    {w w₁ : CoalescingWriter} {sent held : List ControlMessage}
    (carries : Carries false w₁ sent (held ++ [msg]))
    (onWrite : w₁.transport.onWrite = w.transport.onWrite)
    (onFlush : w₁.transport.onFlush = w.transport.onFlush) :
    ∃ k, k ≠ 0 ∧ Landed false (msg :: rest) w sent held k (m.run w₁).1.isOk (m.run w₁).2 := by
  obtain ⟨k, landed⟩ := (emits w₁ sent (held ++ [msg]) carries).landed all
  obtain ⟨sent', held', carries', joined⟩ := landed.stream
  refine ⟨k + 1, Nat.succ_ne_zero k, ⟨sent', held', carries', ?_⟩, Nat.succ_le_succ landed.few,
    fun ok => congrArg Nat.succ (landed.whole ok), landed.onWrite.trans onWrite,
    landed.onFlush.trans onFlush, fun never => landed.total ?_⟩
  · rw [joined]
    simp only [List.take_succ_cons, List.append_assoc, List.singleton_append]
  · unfold Transport.NeverFails Transport.FlushOk at never ⊢
    rwa [onWrite, onFlush]

theorem Carries.buffered {w : CoalescingWriter} {sent held : List ControlMessage}
    (h : Carries false w sent held) {msg : ControlMessage} (ok : msg.Serializes)
    (calm : msg.isCritical = false) (pushed : Nat) :
    Carries false { w with pushed, pending := w.pending ++ msg.bytes } sent (held ++ [msg]) := by
  refine ⟨h.mode, h.wire, ?_, h.sentOk, ?_, (fun d => nomatch d), h.allOrNothing, h.flushOk⟩
  · simp only [h.pending, encodeAll_append, encodeAll_singleton]
  · intro m hm
    rcases List.mem_append.mp hm with hm | hm
    · exact h.heldOk m hm
    · obtain rfl := List.mem_singleton.mp hm
      exact ⟨ok, calm⟩

theorem extendAll_run (parts : List (List UInt8)) (w : CoalescingWriter) :
    (onPending (extendAll parts)).run w =
      (.ok (), { w with pending := w.pending ++ parts.flatten }) := by
  rw [onPending, Method.run_zoom, appends_extendAll parts w.pending]

theorem pushGamepadInput_coalesced {w : CoalescingWriter} (mode : w.direct = false) (id : UInt16)
    (data : Payload) :
    (pushGamepadInput id data).run w = flushIfDue.run { w with
      pushed := w.pushed + 1, pending := w.pending ++ (gamepadMessage id data).bytes } := by
  conv_lhs =>
    rw [pushGamepadInput, Method.run_read_bind]
    simp only [mode, Bool.false_eq_true, if_false]
  have push := extendAll_run (gamepadInputParts id data) { w with pushed := w.pushed + 1 }
  rw [← flatten_gamepadInputParts]
  exact Method.run_bind_ok (f := fun _ => flushIfDue) push

theorem pushBatch_coalesced {w : CoalescingWriter} (mode : w.direct = false)
    (frames : List (List (List UInt8))) :
    (pushBatch frames).run w =
      (if w.pending.length + frames.length * (gamepadReportSize + 5) ≤ w.hardLimit then do
          .forEach frames fun frame => onPending (extendAll frame)
          flushIfWindow .pending
        else do
          let reason ← pushLimited frames .pending
          flushIfWindow reason : Coalescing FlushReason).run
        { w with pushed := w.pushed + frames.length } := by
  conv_lhs =>
    rw [pushBatch, Method.run_read_bind]
    simp only [mode, Bool.false_eq_true, if_false]
  rfl

/-- A coalescing writer buffers the first report of a batch before it may flush. -/
theorem pushGamepadInputBatch_begun {w : CoalescingWriter} {sent held : List ControlMessage}
    (carries : Carries false w sent held) (id : UInt16) {data : List Payload} (full : data ≠ []) :
    ∃ k, k ≠ 0 ∧ Landed false (data.map (gamepadMessage id)) w sent held k
      ((pushGamepadInputBatch id data).run w).1.isOk ((pushGamepadInputBatch id data).run w).2 := by
  have all (rest : List Payload) : ∀ x ∈ rest.map (gamepadMessage id), x.Serializes := by
    intro x hx
    obtain ⟨payload, _, rfl⟩ := List.mem_map.mp hx
    exact gamepadMessage_serializes id payload
  match data with
  | [] => contradiction
  | [payload] =>
    rw [pushGamepadInputBatch, pushGamepadInput_coalesced carries.mode]
    have none : ∀ x ∈ ([] : List ControlMessage), x.Serializes := List.forall_mem_nil _
    exact (emits_flushIfDue false).begun none
      (carries.buffered (gamepadMessage_serializes id payload) rfl (w.pushed + 1)) rfl rfl
  | a :: b :: rest =>
    have frames := frames_gamepad id (b :: rest)
    let counted : CoalescingWriter := { w with
      pushed := w.pushed +
        (gamepadInputParts id a :: (b :: rest).map (gamepadInputParts id)).length }
    have buffered := carries.buffered (gamepadMessage_serializes id a) rfl counted.pushed
    have push := extendAll_run (gamepadInputParts id a) counted
    rw [flatten_gamepadInputParts] at push
    have many : pushGamepadInputBatch id (a :: b :: rest) =
      pushBatch (gamepadInputParts id a :: (b :: rest).map (gamepadInputParts id)) := rfl
    rw [many, pushBatch_coalesced carries.mode]
    split
    · rw [Method.forEach_cons, Method.bind_assoc, Method.run_bind_ok push]
      exact ((emits_forEach frames).then fun _ => emits_flushIfWindow false _).begun (all _)
        buffered rfl rfl
    · have rest' : ∀ reason, Emits false ((b :: rest).map (gamepadMessage id)) 0
          (pushLimited ((b :: rest).map (gamepadInputParts id)) reason) :=
        emits_pushLimited frames
      rw [pushLimited, Method.bind_assoc, Method.run_bind_ok push]
      exact Emits.begun (Emits.then (Emits.after silent_read fun _ =>
        Emits.ite ((emits_flushNow false).bind fun _ => rest' .full) (rest' .pending))
          fun _ => emits_flushIfWindow false _) (all _) buffered rfl rfl

/- A direct writer sends a chunk in one write. -/

theorem pushGamepadInput_direct {w : CoalescingWriter} (mode : w.direct = true) (id : UInt16)
    (data : Payload) :
    (pushGamepadInput id data).run w = (do
      writeDirect (gamepadMessage id data).bytes
      pure .window : Coalescing FlushReason).run { w with pushed := w.pushed + 1 } := by
  conv_lhs =>
    rw [pushGamepadInput, Method.run_read_bind]
    simp only [mode, if_true, encodeGamepadInput_eq]
  rfl

theorem chunks_of_short {α : Type} {n : Nat} {xs : List α} (full : xs ≠ []) (short : xs.length ≤ n) :
    Bytes.chunks n xs = [xs] := by
  match xs with
  | [] => contradiction
  | x :: rest =>
    rw [Bytes.chunks, List.length_cons, Bytes.chunksFuel, List.take_of_length_le short,
      List.drop_eq_nil_of_le short]
    cases rest <;> rfl

theorem pushBatch_direct {w : CoalescingWriter} (mode : w.direct = true)
    {frames : List (List (List UInt8))} (full : frames ≠ [])
    (short : frames.length ≤ directGamepadBatchFrames) :
    ∃ bytes, (pushBatch frames).run w = (do
      onTransport (Transport.writeAll bytes)
      onTransport Transport.flush
      countFlush (frames.length * (gamepadReportSize + 5))
      stampFlush
      pure .window : Coalescing FlushReason).run { w with pushed := w.pushed + frames.length } := by
  refine ⟨(encodeChunk 0 frames (zeros directGamepadBatchBytes)).take
    (frames.length * (gamepadReportSize + 5)), ?_⟩
  conv_lhs =>
    rw [pushBatch, Method.run_read_bind]
    simp only [mode, if_true, chunks_of_short full short, writeChunks, Method.bind_assoc,
      Method.pure_bind, Nat.zero_add]
  rfl

theorem deliver_direct {w : CoalescingWriter} (flushOk : w.transport.FlushOk)
    (allOrNothing : w.transport.AllOrNothing) (bytes : List UInt8) :
    (w.transport.onWrite w.transport.writes = .ok →
      ∃ t, (onTransport (Transport.deliver bytes)).run w = (.ok (), { w with transport := t })) ∧
    (w.transport.onWrite w.transport.writes ≠ .ok →
      ∃ e t, (onTransport (Transport.deliver bytes)).run w = (.err e, { w with transport := t }) ∧
        t.wire = w.transport.wire) := by
  constructor
  · intro h
    have run := Transport.deliver_accepted bytes (Transport.accepts_one.mpr ⟨h, flushOk _⟩)
    exact ⟨_, by rw [onTransport, Method.run_zoom, run]⟩
  · intro h
    obtain ⟨e, t, run, _, _, exactly⟩ := Transport.deliver_refused (t := w.transport) bytes
      fun accepts => h (Transport.accepts_one.mp accepts).1
    exact ⟨e, t, by rw [onTransport, Method.run_zoom, run], by rw [exactly allOrNothing flushOk]⟩

theorem onTransport_bind {α β : Type} (m : Method Error Transport α)
    (f : α → Method Error Transport β) :
    onTransport (m >>= f) = (onTransport m >>= fun a => onTransport (f a)) := by
  change Method.mk _ = Method.mk _
  congr 1
  funext w
  simp only [onTransport, Method.run_zoom, Method.run_bind]
  rcases m.run w.transport with ⟨r, t⟩
  cases r <;> rfl

theorem pushGamepadInputBatch_deliver {w : CoalescingWriter} (mode : w.direct = true) (id : UInt16)
    {data : List Payload} (full : data ≠ []) (short : data.length ≤ directGamepadBatchFrames) :
    ∃ bytes count, (pushGamepadInputBatch id data).run w = (do
      onTransport (Transport.deliver bytes)
      countFlush count
      stampFlush
      pure .window : Coalescing FlushReason).run { w with pushed := w.pushed + data.length } := by
  match data with
  | [] => contradiction
  | [payload] =>
    refine ⟨(gamepadMessage id payload).bytes, (gamepadMessage id payload).bytes.length, ?_⟩
    have one : pushGamepadInputBatch id [payload] = pushGamepadInput id payload := rfl
    rw [one, pushGamepadInput_direct mode, writeDirect, writeThrough]
    simp only [Method.bind_assoc]
    rfl
  | a :: b :: rest =>
    have many : pushGamepadInputBatch id (a :: b :: rest) =
      pushBatch ((a :: b :: rest).map (gamepadInputParts id)) := rfl
    have some : (a :: b :: rest).map (gamepadInputParts id) ≠ [] := List.cons_ne_nil _ _
    obtain ⟨bytes, run⟩ := pushBatch_direct mode some (by simpa using short)
    refine ⟨bytes, (a :: b :: rest).length * (gamepadReportSize + 5), ?_⟩
    rw [many, run, Transport.deliver, onTransport_bind, List.length_map]
    simp only [Method.bind_assoc]

theorem pushGamepadInputBatch_landed {d : Bool} {w : CoalescingWriter}
    {sent held : List ControlMessage} (carries : Carries d w sent held) (id : UInt16)
    {data : List Payload} (full : data ≠ []) (short : data.length ≤ directGamepadBatchFrames) :
    ∃ k, Landed d (data.map (gamepadMessage id)) w sent held k
        ((pushGamepadInputBatch id data).run w).1.isOk ((pushGamepadInputBatch id data).run w).2 ∧
      (k = 0 ↔ d = true ∧ w.transport.onWrite w.transport.writes ≠ .ok) := by
  cases d with
  | false =>
    obtain ⟨k, begun, landed⟩ := pushGamepadInputBatch_begun carries id full
    exact ⟨k, landed, by simp [begun]⟩
  | true =>
    have all : ∀ x ∈ data.map (gamepadMessage id), x.Serializes := by
      intro x hx
      obtain ⟨payload, _, rfl⟩ := List.mem_map.mp hx
      exact gamepadMessage_serializes id payload
    obtain ⟨k, landed⟩ := (emits_pushGamepadInputBatch true id data w sent held carries).landed all
    refine ⟨k, landed, ?_⟩
    have some : 0 < data.length := List.length_pos_of_ne_nil full
    obtain ⟨bytes, count, run⟩ := pushGamepadInputBatch_deliver carries.mode id full short
    obtain ⟨accepted, refused⟩ := deliver_direct
      (w := { w with pushed := w.pushed + data.length }) carries.flushOk carries.allOrNothing bytes
    by_cases h : w.transport.onWrite w.transport.writes = .ok
    · obtain ⟨t, delivered⟩ := accepted h
      have ok : ((pushGamepadInputBatch id data).run w).1.isOk = true := by
        rw [run, Method.run_bind_ok delivered]
        rfl
      have whole := landed.whole ok
      rw [List.length_map] at whole
      simp only [true_and]
      exact ⟨fun none => by omega, fun refuses => (refuses h).elim⟩
    · obtain ⟨e, t, delivered, wire⟩ := refused h
      obtain ⟨sent', held', carries', joined⟩ := landed.stream
      rw [run, Method.run_bind_err delivered] at carries'
      obtain rfl := carries.unbuffered rfl
      obtain rfl := carries'.unbuffered rfl
      have same : encodeAll sent' = encodeAll sent := by
        rw [← carries.wire, ← carries'.wire]
        exact wire
      simp only [List.append_nil] at joined
      rw [joined, encodeAll_append] at same
      have none := encodeAll_eq_nil (fun m hm => all m (List.mem_of_mem_take hm))
        (List.append_right_eq_self.mp same)
      have length := congrArg List.length none
      simp only [List.length_take, List.length_map, List.length_nil] at length
      exact ⟨fun _ => ⟨rfl, h⟩, fun _ => by omega⟩

end CoalescingWriter

end HidConnect
