import HidConnect.Coalesce.Stream

/-! Coalescing is invisible: whatever the configuration and the clock, the stream is the
concatenation of the serialized messages. -/
namespace HidConnect
open Fallible

/-- The calls that put messages into a writer. -/
inductive WriterOp where
  | push (msg : ControlMessage)
  | pushUhidInput (id size : UInt16) (data : List UInt8)
  | pushGamepadInput (id : UInt16) (data : Payload)
  | pushGamepadInputFields (id : UInt16) (frame : GamepadFrameRaw)
  | pushGamepadInputBatch (id : UInt16) (data : List Payload)
  | pushGamepadInputBatchFromFields (id : UInt16) (frames : List GamepadFrameRaw)
  | flushNow

namespace WriterOp

def run : WriterOp → Coalescing Unit
  | push msg => .discard (CoalescingWriter.push msg)
  | pushUhidInput id size data => .discard (CoalescingWriter.pushUhidInput id size data)
  | pushGamepadInput id data => .discard (CoalescingWriter.pushGamepadInput id data)
  | pushGamepadInputFields id frame => .discard (CoalescingWriter.pushGamepadInputFields id frame)
  | pushGamepadInputBatch id data => .discard (CoalescingWriter.pushGamepadInputBatch id data)
  | pushGamepadInputBatchFromFields id frames =>
    .discard (CoalescingWriter.pushGamepadInputBatchFromFields id frames)
  | flushNow => .discard CoalescingWriter.flushNow

def messages : WriterOp → List ControlMessage
  | push msg => [msg]
  | pushUhidInput id size data => [uhidInputMessage id size data]
  | pushGamepadInput id data => [gamepadMessage id data]
  | pushGamepadInputFields id frame => [gamepadMessage id frame.pack]
  | pushGamepadInputBatch id data => data.map (gamepadMessage id)
  | pushGamepadInputBatchFromFields id frames => frames.map fun f => gamepadMessage id f.pack
  | flushNow => []

/-- The messages of the call serialize; a size beyond the slice stands for no message. -/
def Serializes : WriterOp → Prop
  | push msg => msg.Serializes
  | pushUhidInput _ size data => FitsInput size.toNat data
  | _ => True

end WriterOp

/-- How a writer was set up: `CoalescingWriter::with_limits` and its clock. -/
structure WriterConfig where
  window : Nat
  hardLimit : Nat
  clock : Nat → Nat

namespace WriterConfig

def start (c : WriterConfig) (t : Transport) : CoalescingWriter :=
  .withLimits t c.window c.hardLimit c.clock

def direct (c : WriterConfig) : Bool := c.hardLimit = 0 && c.window = 0

/-- The writer after a list of calls, and whether they all returned `Ok`. -/
def after (c : WriterConfig) (t : Transport) (ops : List WriterOp) :
    Result Unit × CoalescingWriter :=
  (Method.forEach ops WriterOp.run).run (c.start t)

end WriterConfig

namespace CoalescingWriter

theorem emits_op (d : Bool) (op : WriterOp) (ok : op.Serializes) :
    Emits d op.messages op.messages.length op.run := by
  cases op with
  | push msg => exact (emits_push d msg).discard
  | pushUhidInput id size data => exact (emits_pushUhidInput d id size ok).discard
  | pushGamepadInput id data => exact (emits_pushGamepadInput d id data).discard
  | pushGamepadInputFields id frame =>
    exact (emits_pushGamepadInputFields d id frame).discard
  | pushGamepadInputBatch id data =>
    rw [WriterOp.messages, List.length_map]
    exact (emits_pushGamepadInputBatch d id data).discard
  | pushGamepadInputBatchFromFields id frames =>
    rw [WriterOp.messages, List.length_map]
    exact (emits_pushGamepadInputBatchFromFields d id frames).discard
  | flushNow => exact (emits_flushNow d).discard

theorem op_messages_serialize {op : WriterOp} (ok : op.Serializes) :
    ∀ msg ∈ op.messages, msg.Serializes := by
  intro msg hm
  cases op with
  | push m =>
    obtain rfl := List.mem_singleton.mp hm
    exact ok
  | pushUhidInput id size data =>
    obtain rfl := List.mem_singleton.mp hm
    rw [ControlMessage.Serializes, serialize_uhidInputMessage id size ok]
    rfl
  | pushGamepadInput id data =>
    obtain rfl := List.mem_singleton.mp hm
    exact gamepadMessage_serializes id data
  | pushGamepadInputFields id frame =>
    obtain rfl := List.mem_singleton.mp hm
    exact gamepadMessage_serializes id frame.pack
  | pushGamepadInputBatch id data =>
    obtain ⟨payload, _, rfl⟩ := List.mem_map.mp hm
    exact gamepadMessage_serializes id payload
  | pushGamepadInputBatchFromFields id frames =>
    obtain ⟨frame, _, rfl⟩ := List.mem_map.mp hm
    exact gamepadMessage_serializes id frame.pack
  | flushNow => cases hm

theorem emits_ops (d : Bool) (ops : List WriterOp) (ok : ∀ op ∈ ops, op.Serializes) :
    Emits d (ops.flatMap WriterOp.messages) (ops.flatMap WriterOp.messages).length
      (.forEach ops WriterOp.run) := by
  induction ops with
  | nil => exact emits_pure d ()
  | cons op ops ih =>
    have first := emits_op d op (ok op (List.mem_cons_self ..))
    have rest := ih fun o ho => ok o (List.mem_cons_of_mem _ ho)
    rw [List.flatMap_cons, List.length_append]
    exact first.bind fun _ => rest

theorem carries_start (c : WriterConfig) {t : Transport} (never : t.NeverFails)
    (fresh : t.wire = []) : Carries c.direct (c.start t) [] [] :=
  ⟨rfl, fresh, rfl, List.forall_mem_nil _, List.forall_mem_nil _, fun _ => rfl,
    never.allOrNothing, never.2⟩

end CoalescingWriter

namespace WriterConfig

theorem after_effect (c : WriterConfig) {t : Transport} (never : t.NeverFails)
    (fresh : t.wire = []) (ops : List WriterOp) (ok : ∀ op ∈ ops, op.Serializes) :
    (c.after t ops).1 = .ok () ∧
    (∃ sent held, CoalescingWriter.Carries c.direct (c.after t ops).2 sent held ∧
      sent ++ held = ops.flatMap WriterOp.messages) ∧
    (c.after t ops).2.pushed = (ops.flatMap WriterOp.messages).length ∧
    (c.after t ops).2.written = (c.after t ops).2.transport.wire.length := by
  have all : ∀ msg ∈ ops.flatMap WriterOp.messages, msg.Serializes := by
    intro msg hm
    obtain ⟨op, ho, hm⟩ := List.mem_flatMap.mp hm
    exact CoalescingWriter.op_messages_serialize (ok op ho) msg hm
  have effect := CoalescingWriter.emits_ops c.direct ops ok _ [] []
    (CoalescingWriter.carries_start c never fresh)
  have returned := effect.total never all
  obtain ⟨landed, sent, held, carries, joined, _, whole⟩ := effect.stream
  obtain ⟨pushed, written⟩ := effect.tally never all
  have empty : (c.start t).transport.wire.length = 0 := by
    rw [show (c.start t).transport = t from rfl, fresh, List.length_nil]
  refine ⟨?_, ⟨sent, held, carries, ?_⟩, ?_, ?_⟩
  · obtain ⟨u, hu⟩ := Outcome.isOk_iff.mp returned
    exact hu
  · rw [joined, whole returned]
    rfl
  · exact pushed.trans (Nat.zero_add _)
  · rw [empty] at written
    exact (Nat.add_zero _).symm.trans (written.trans (Nat.zero_add _))

theorem after_snoc (c : WriterConfig) {t : Transport} {ops : List WriterOp} (op : WriterOp)
    (ok : (c.after t ops).1 = .ok ()) :
    c.after t (ops ++ [op]) = op.run.run (c.after t ops).2 := by
  have first : (Method.forEach ops WriterOp.run).run (c.start t) = (.ok (), (c.after t ops).2) := by
    rw [← ok]
    rfl
  have last (w : CoalescingWriter) :
      (Method.forEach [op] WriterOp.run).run w = op.run.run w := by
    rw [Method.forEach_cons, Method.run_bind]
    rcases op.run.run w with ⟨r, w'⟩
    cases r <;> rfl
  rw [after, Method.forEach_append, Method.run_bind_ok first, last]

variable (c : WriterConfig) {t : Transport} (never : t.NeverFails) (fresh : t.wire = [])
  (ops : List WriterOp) (ok : ∀ op ∈ ops, op.Serializes)
include never fresh ok

theorem after_stream :
    (c.after t ops).2.transport.wire ++ (c.after t ops).2.pending =
      encodeAll (ops.flatMap WriterOp.messages) := by
  obtain ⟨sent, held, carries, joined⟩ := (c.after_effect never fresh ops ok).2.1
  rw [carries.wire, carries.pending, ← encodeAll_append, joined]

theorem wire_of_cleared (cleared : (c.after t ops).2.pending = []) :
    (c.after t ops).2.transport.wire = encodeAll (ops.flatMap WriterOp.messages) := by
  have stream := c.after_stream never fresh ops ok
  rwa [cleared, List.append_nil] at stream

theorem critical_clears {before : List WriterOp} {msg : ControlMessage}
    (last : ops = before ++ [.push msg]) (critical : msg.isCritical = true) :
    (c.after t ops).2.pending = [] := by
  have okBefore : ∀ op ∈ before, op.Serializes :=
    fun op ho => ok op (last ▸ List.mem_append_left _ ho)
  obtain ⟨returned, ⟨sent, held, carries, _⟩, _⟩ := c.after_effect never fresh before okBefore
  have whole := (c.after_effect never fresh ops ok).1
  have split := c.after_snoc (.push msg) returned
  rw [← last] at split
  rw [split] at whole ⊢
  refine CoalescingWriter.push_critical_clears critical carries ?_
  have pushed : ((WriterOp.push msg).run.run (c.after t before).2).1.isOk = true := by
    rw [whole]
    rfl
  simpa [WriterOp.run] using pushed

theorem flush_clears : (c.after t (ops ++ [.flushNow])).2.pending = [] := by
  obtain ⟨returned, ⟨sent, held, carries, _⟩, _⟩ := c.after_effect never fresh ops ok
  have okAll : ∀ op ∈ ops ++ [.flushNow], op.Serializes := by
    intro op ho
    rcases List.mem_append.mp ho with ho | ho
    · exact ok op ho
    · obtain rfl := List.mem_singleton.mp ho
      trivial
  have whole := (c.after_effect never fresh _ okAll).1
  rw [c.after_snoc .flushNow returned] at whole ⊢
  obtain ⟨_, done⟩ := CoalescingWriter.flushNow_effect carries
  have flushed : (WriterOp.flushNow.run.run (c.after t ops).2).1.isOk = true := by
    rw [whole]
    rfl
  have cleared := (done (by simpa [WriterOp.run] using flushed)).pending
  rwa [encodeAll_nil] at cleared

theorem wire_of_flushed : (c.after t (ops ++ [.flushNow])).2.transport.wire =
    encodeAll (ops.flatMap WriterOp.messages) := by
  have okAll : ∀ op ∈ ops ++ [.flushNow], op.Serializes := by
    intro op ho
    rcases List.mem_append.mp ho with ho | ho
    · exact ok op ho
    · obtain rfl := List.mem_singleton.mp ho
      trivial
  have cleared := c.flush_clears never fresh ops ok
  have wire := c.wire_of_cleared never fresh (ops ++ [.flushNow]) okAll cleared
  rwa [List.flatMap_append, List.flatMap_singleton, WriterOp.messages, List.append_nil] at wire

end WriterConfig

/-- Over a transport that never fails, every configuration and every clock give the same stream:
the serialized messages in push order. -/
theorem coalescing_is_invisible (c : WriterConfig) (t : Transport) (never : t.NeverFails)
    (fresh : t.wire = []) (ops : List WriterOp) (ok : ∀ op ∈ ops, op.Serializes) :
    let w := (c.after t ops).2
    (c.after t ops).1 = .ok () ∧
    w.transport.wire ++ w.pending = encodeAll (ops.flatMap WriterOp.messages) ∧
    w.written = w.transport.wire.length ∧
    w.pushed = (ops.flatMap WriterOp.messages).length ∧
    (∀ before msg, ops = before ++ [.push msg] → msg.isCritical = true →
      w.transport.wire = encodeAll (ops.flatMap WriterOp.messages)) ∧
    ∀ (c' : WriterConfig) (t' : Transport), t'.NeverFails → t'.wire = [] →
      (c'.after t' (ops ++ [.flushNow])).2.transport.wire =
        (c.after t (ops ++ [.flushNow])).2.transport.wire := by
  obtain ⟨returned, _, pushed, written⟩ := c.after_effect never fresh ops ok
  refine ⟨returned, c.after_stream never fresh ops ok, written, pushed, ?_, ?_⟩
  · intro before msg last critical
    exact c.wire_of_cleared never fresh ops ok (c.critical_clears never fresh ops ok last critical)
  · intro c' t' never' fresh'
    rw [c.wire_of_flushed never fresh ops ok, c'.wire_of_flushed never' fresh' ops ok]

def reportThenDestroy : List WriterOp :=
  [.pushGamepadInput 3 (Vector.replicate 15 0), .push (.uhidDestroy ⟨3⟩)]

theorem reportThenDestroy_serializes : ∀ op ∈ reportThenDestroy, op.Serializes := by
  intro op ho
  simp only [reportThenDestroy, List.mem_cons, List.not_mem_nil, or_false] at ho
  rcases ho with rfl | rfl
  · trivial
  · rw [WriterOp.Serializes, ControlMessage.Serializes]
    decide

/-- With the default limits and a clock that stands, the destroy flushes the report first. -/
theorem coalescing_is_invisible_destroy :
    ((WriterConfig.mk defaultWindow defaultHardLimit fun _ => 0).after .steady
      reportThenDestroy).2.transport.wire =
    [13, 0, 3, 0, 15, 0, 0, 0, 0, 0, 0, 0, 0, 0, 0, 0, 0, 0, 0, 0, 14, 0, 3] :=
  ((coalescing_is_invisible _ .steady Transport.steady_neverFails rfl reportThenDestroy
    reportThenDestroy_serializes).2.2.2.2.1 [.pushGamepadInput 3 (Vector.replicate 15 0)] _
      rfl rfl).trans (by decide)

end HidConnect
