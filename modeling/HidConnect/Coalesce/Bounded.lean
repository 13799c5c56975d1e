import HidConnect.Coalesce.Failures
import HidConnect.Coalesce.Invisible
import HidConnect.Library.Run

/-! How much a coalescing writer holds back: every push but a batch flushes at its limit, a batch
only beyond it. -/
namespace HidConnect
open Fallible

namespace CoalescingWriter

/-- A coalescing writer with a limit, over a transport that never fails. -/
structure Limited (limit : Nat) (w : CoalescingWriter) : Prop where
  mode : w.direct = false
  hardLimit : w.hardLimit = limit
  never : w.transport.NeverFails

/-- Less than the limit is pending after the call, whatever its outcome. -/
def Bounds {α : Type} (limit : Nat) (m : Coalescing α) (w : CoalescingWriter) : Prop :=
  Limited limit (m.run w).2 ∧ (m.run w).2.pending.length < limit

section
variable {limit : Nat} {w : CoalescingWriter}

theorem flushNow_limited (h : Limited limit w) :
    ∃ n w', flushNow.run w = (.ok n, w') ∧ Limited limit w' ∧ w'.pending = [] := by
  by_cases empty : w.pending = []
  · exact ⟨_, _, flushNow_empty empty, ⟨h.mode, h.hardLimit, h.never⟩, empty⟩
  · exact ⟨_, _, flushNow_accepted empty (h.never.accepts 1), ⟨h.mode, h.hardLimit, h.never⟩, rfl⟩

theorem flushIfWindow_limited (h : Limited limit w) (otherwise : FlushReason) :
    ∃ reason w', (flushIfWindow otherwise).run w = (.ok reason, w') ∧ Limited limit w' ∧
      w'.pending = if w.window ≤ w.clock w.ticks - w.lastFlush then [] else w.pending := by
  have timed : elapsed.run w =
    (.ok (w.clock w.ticks - w.lastFlush), { w with ticks := w.ticks + 1 }) := rfl
  have later : Limited limit { w with ticks := w.ticks + 1 } := ⟨h.mode, h.hardLimit, h.never⟩
  rw [flushIfWindow, Method.run_bind_ok timed, Method.run_read_bind]
  by_cases window : w.window ≤ w.clock w.ticks - w.lastFlush
  · by_cases empty : w.pending = []
    · rw [if_pos window, if_neg fun both => both.2 empty]
      exact ⟨otherwise, _, rfl, later, empty⟩
    · obtain ⟨n, w', run, after, none⟩ := flushNow_limited later
      rw [if_pos window, if_pos ⟨window, empty⟩, Method.run_bind_ok run]
      exact ⟨.window, w', rfl, after, none⟩
  · rw [if_neg window, if_neg fun both => window both.1]
    exact ⟨otherwise, _, rfl, later, rfl⟩

theorem bounds_flushIfWindow (h : Limited limit w) (short : w.pending.length < limit)
    (otherwise : FlushReason) : Bounds limit (flushIfWindow otherwise) w := by
  obtain ⟨reason, w', run, after, pending⟩ := flushIfWindow_limited h otherwise
  rw [Bounds, run]
  refine ⟨after, ?_⟩
  rw [pending]
  split
  · exact Nat.lt_of_le_of_lt (Nat.zero_le _) short
  · exact short

theorem bounds_flushIfDue (h : Limited limit w) (positive : 0 < limit) : Bounds limit flushIfDue w := by
  rw [Bounds, flushIfDue, Method.run_read_bind]
  by_cases full : w.pending.length ≥ w.hardLimit
  · obtain ⟨n, w', run, after, none⟩ := flushNow_limited h
    rw [if_pos full, Method.run_bind_ok run]
    refine ⟨after, ?_⟩
    rw [Method.run_pure, none]
    exact positive
  · rw [if_neg full]
    rw [h.hardLimit] at full
    exact bounds_flushIfWindow h (Nat.lt_of_not_le full) .pending

theorem bounds_append (h : Limited limit w) (positive : 0 < limit) {m : Coalescing Unit}
    {bytes : List UInt8} {scratch : List UInt8}
    (run : m.run w = (.ok (), { w with scratch, pending := w.pending ++ bytes })) :
    Bounds limit (m >>= fun _ => flushIfDue) w := by
  rw [Bounds, Method.run_bind_ok run]
  exact bounds_flushIfDue ⟨h.mode, h.hardLimit, h.never⟩ positive

theorem bounds_bufferMessage (h : Limited limit w) (positive : 0 < limit)
    (short : w.pending.length < limit) (msg : ControlMessage) :
    Bounds limit (bufferMessage msg >>= fun _ => flushIfDue) w := by
  by_cases ok : msg.Serializes
  · obtain ⟨scratch, run⟩ := bufferMessage_ok ok w
    exact bounds_append h positive run
  · obtain ⟨fails, scratch, state⟩ := bufferMessage_fails ok w
    obtain ⟨_, stopped⟩ := run_bind_fails (f := fun _ => flushIfDue) fails
    rw [Bounds, stopped, state]
    exact ⟨⟨h.mode, h.hardLimit, h.never⟩, short⟩

/-- Nothing is pending behind a critical message, whether or not it goes out. -/
theorem bounds_critical (h : Limited limit w) (positive : 0 < limit) (msg : ControlMessage) :
    Bounds limit (do
      let _ ← flushNow
      writeScratch msg (pure ())
      pure .critical : Coalescing FlushReason) w := by
  obtain ⟨n, w', run, after, none⟩ := flushNow_limited h
  rw [Bounds, Method.run_bind_ok run]
  by_cases ok : msg.Serializes
  · rw [Method.run_bind, writeScratch_accepted ok (pure ()) (after.never.accepts 1)]
    refine ⟨⟨after.mode, after.hardLimit, after.never⟩, ?_⟩
    simpa [none] using positive
  · obtain ⟨fails, scratch, state⟩ := pushMessageToScratch_fails ok w'
    obtain ⟨fails', state'⟩ := run_bind_fails (f := fun _ => do
      let serialized := (← Method.read).scratch
      Method.update fun w => { w with scratch := [] }
      writeThrough serialized
      (pure () : Coalescing Unit)) fails
    obtain ⟨_, state''⟩ := run_bind_fails (f := fun _ => pure FlushReason.critical) fails'
    have same : (writeScratch msg (pure ()) >>= fun _ => pure FlushReason.critical).run w' =
      ((pushMessageToScratch msg >>= fun _ => do
        let serialized := (← Method.read).scratch
        Method.update fun w => { w with scratch := [] }
        writeThrough serialized
        (pure () : Coalescing Unit)) >>= fun _ => pure FlushReason.critical).run w' := rfl
    rw [same, state'', state', state]
    refine ⟨⟨after.mode, after.hardLimit, after.never⟩, ?_⟩
    simpa [none] using positive

/- Batches. -/

theorem pushLimited_limited (frames : List (List (List UInt8))) (reason : FlushReason)
    (h : Limited limit w) (short : w.pending.length < limit) :
    ∃ reason' w', (pushLimited frames reason).run w = (.ok reason', w') ∧ Limited limit w' ∧
      w'.pending.length < limit := by
  induction frames generalizing reason w with
  | nil => exact ⟨reason, w, rfl, h, short⟩
  | cons frame rest ih =>
    have grown : Limited limit { w with pending := w.pending ++ frame.flatten } :=
      ⟨h.mode, h.hardLimit, h.never⟩
    rw [pushLimited, Method.run_bind_ok (extendAll_run frame w), Method.run_read_bind]
    split
    · obtain ⟨n, w', run, after, none⟩ := flushNow_limited grown
      rw [Method.run_bind_ok run]
      refine ih .full after ?_
      rw [none]
      exact Nat.lt_of_le_of_lt (Nat.zero_le _) short
    · rename_i room
      have less := Nat.lt_of_not_le room
      rw [h.hardLimit] at less
      exact ih reason grown less

theorem extendEach_run (frames : List (List (List UInt8))) (w : CoalescingWriter) :
    (Method.forEach frames fun frame => onPending (extendAll frame)).run w =
      (.ok (), { w with pending := w.pending ++ frames.flatten.flatten }) := by
  induction frames generalizing w with
  | nil => simp
  | cons frame rest ih =>
    rw [Method.forEach_cons, Method.run_bind_ok (extendAll_run frame w), ih]
    simp

/-- The window has not passed, and the batch fits to the byte. -/
def Fills (w : CoalescingWriter) (frames : Nat) : Prop :=
  w.pending.length + frames * (gamepadReportSize + 5) = w.hardLimit ∧
    w.clock w.ticks - w.lastFlush < w.window

def Sized (frames : List (List (List UInt8))) : Prop :=
  ∀ frame ∈ frames, frame.flatten.length = gamepadReportSize + 5

theorem Sized.length {frames : List (List (List UInt8))} (sized : Sized frames) :
    frames.flatten.flatten.length = frames.length * (gamepadReportSize + 5) := by
  induction frames with
  | nil => simp
  | cons frame rest ih =>
    have first := sized frame (List.mem_cons_self ..)
    have others := ih fun f hf => sized f (List.mem_cons_of_mem _ hf)
    rw [List.flatten_cons, List.flatten_append, List.length_append, first, others, List.length_cons,
      Nat.succ_mul, Nat.add_comm]

theorem pushBatch_fits (h : Limited limit w) {frames : List (List (List UInt8))}
    (sized : Sized frames)
    (fits : w.pending.length + frames.length * (gamepadReportSize + 5) ≤ limit) :
    ∃ reason w', (pushBatch frames).run w = (.ok reason, w') ∧ Limited limit w' ∧
      w'.pending.length = if w.window ≤ w.clock w.ticks - w.lastFlush then 0
        else w.pending.length + frames.length * (gamepadReportSize + 5) := by
  have room : w.pending.length + frames.length * (gamepadReportSize + 5) ≤ w.hardLimit := by
    rw [h.hardLimit]
    exact fits
  have grown : Limited limit { w with
      pushed := w.pushed + frames.length, pending := w.pending ++ frames.flatten.flatten } :=
    ⟨h.mode, h.hardLimit, h.never⟩
  obtain ⟨reason, w', run, after, pending⟩ := flushIfWindow_limited grown .pending
  refine ⟨reason, w', ?_, after, ?_⟩
  · rw [pushBatch_coalesced h.mode, if_pos room, Method.run_bind_ok (extendEach_run frames _)]
    exact run
  · rw [pending, ← sized.length]
    split <;> simp

theorem bounds_pushBatch (h : Limited limit w) (short : w.pending.length < limit)
    {frames : List (List (List UInt8))} (sized : Sized frames) (unfilled : ¬w.Fills frames.length) :
    Bounds limit (pushBatch frames) w := by
  by_cases fits : w.pending.length + frames.length * (gamepadReportSize + 5) ≤ limit
  · obtain ⟨reason, w', run, after, pending⟩ := pushBatch_fits h sized fits
    rw [Bounds, run]
    refine ⟨after, ?_⟩
    rw [Fills, h.hardLimit] at unfilled
    rw [pending]
    split <;> omega
  · have tooMany : ¬w.pending.length + frames.length * (gamepadReportSize + 5) ≤ w.hardLimit := by
      rw [h.hardLimit]
      exact fits
    have counted : Limited limit { w with pushed := w.pushed + frames.length } :=
      ⟨h.mode, h.hardLimit, h.never⟩
    obtain ⟨reason, w', run, after, less⟩ := pushLimited_limited frames .pending counted short
    rw [Bounds, pushBatch_coalesced h.mode, if_neg tooMany, Method.run_bind_ok run]
    exact bounds_flushIfWindow after less reason

theorem pushBatch_filled (h : Limited limit w) {frames : List (List (List UInt8))}
    (sized : Sized frames) (filled : w.Fills frames.length) :
    ((pushBatch frames).run w).1.isOk = true ∧ ((pushBatch frames).run w).2.pending.length = limit := by
  obtain ⟨exact', early⟩ := filled
  rw [h.hardLimit] at exact'
  obtain ⟨reason, w', run, _, pending⟩ := pushBatch_fits h sized (Nat.le_of_eq exact')
  rw [run]
  refine ⟨rfl, ?_⟩
  rw [pending, if_neg (Nat.not_le_of_lt early), exact']

theorem sized_gamepad (id : UInt16) (data : List Payload) : Sized (data.map (gamepadInputParts id)) := by
  intro frame hf
  obtain ⟨payload, _, rfl⟩ := List.mem_map.mp hf
  exact length_gamepadInputParts id payload

theorem sized_fields (id : UInt16) (frames : List GamepadFrameRaw) :
    Sized (frames.map (gamepadFieldsParts id)) := by
  intro frame hf
  obtain ⟨fields, _, rfl⟩ := List.mem_map.mp hf
  rw [flatten_gamepadFieldsParts]
  exact length_gamepadInputParts id fields.pack

end

end CoalescingWriter

namespace WriterOp
open CoalescingWriter

def step (w : CoalescingWriter) (op : WriterOp) : CoalescingWriter := (op.run.run w).2

def Bounded (w : CoalescingWriter) (op : WriterOp) : Prop :=
  (op.run.run w).1.isOk = true → (op.step w).pending.length < w.hardLimit

/-- The call is no batch of two frames or more that fits to the byte within the window. -/
def Unfilled (w : CoalescingWriter) : WriterOp → Prop
  | pushGamepadInputBatch _ data => 2 ≤ data.length → ¬w.Fills data.length
  | pushGamepadInputBatchFromFields _ frames => 2 ≤ frames.length → ¬w.Fills frames.length
  | _ => True

variable {limit : Nat} {w : CoalescingWriter}

theorem bounds_append_fields (h : Limited limit w) (positive : 0 < limit) (id : UInt16)
    (frame : GamepadFrameRaw) :
    Bounds limit (CoalescingWriter.pushGamepadInputFields id frame) w := by
  have counted : Limited limit { w with pushed := w.pushed + 1 } := ⟨h.mode, h.hardLimit, h.never⟩
  have run : (CoalescingWriter.pushGamepadInputFields id frame).run w =
      (onPending (pushGamepadInputFieldsToBuf id frame) >>= fun _ => flushIfDue).run
        { w with pushed := w.pushed + 1 } := by
    conv_lhs =>
      rw [CoalescingWriter.pushGamepadInputFields, Method.run_read_bind, h.mode,
        if_neg Bool.false_ne_true]
    rfl
  rw [Bounds, run]
  exact bounds_append counted positive (extendAll_run (gamepadFieldsParts id frame) _)

theorem bounds_append_packed (h : Limited limit w) (positive : 0 < limit) (id : UInt16)
    (data : Payload) : Bounds limit (CoalescingWriter.pushGamepadInput id data) w := by
  rw [Bounds, pushGamepadInput_coalesced h.mode]
  exact bounds_flushIfDue ⟨h.mode, h.hardLimit, h.never⟩ positive

theorem bounds_pushUhidInput (h : Limited limit w) (positive : 0 < limit)
    (short : w.pending.length < limit) (id size : UInt16) (data : List UInt8) :
    Bounds limit (CoalescingWriter.pushUhidInput id size data) w := by
  have counted : Limited limit { w with pushed := w.pushed + 1 } := ⟨h.mode, h.hardLimit, h.never⟩
  have run : (CoalescingWriter.pushUhidInput id size data).run w =
      (onPending (pushUhidInputToBuf id size.toNat data) >>= fun _ => flushIfDue).run
        { w with pushed := w.pushed + 1 } := by
    conv_lhs =>
      rw [CoalescingWriter.pushUhidInput, Method.run_read_bind, h.mode, if_neg Bool.false_ne_true]
    rfl
  rw [Bounds, run]
  by_cases fits : FitsInput size.toNat data
  · rw [pushUhidInputToBuf, if_neg fits.not_rejected]
    exact bounds_append counted positive (extendAll_run (uhidInputParts id size.toNat data) _)
  · rw [pushUhidInputToBuf, if_pos (rejected_of_not_fits fits)]
    exact ⟨counted, short⟩

theorem bounds_push (h : Limited limit w) (positive : 0 < limit) (short : w.pending.length < limit)
    (msg : ControlMessage) : Bounds limit (CoalescingWriter.push msg) w := by
  have counted : Limited limit { w with pushed := w.pushed + 1 } := ⟨h.mode, h.hardLimit, h.never⟩
  rw [Bounds]
  cases critical : msg.isCritical with
  | true =>
    rw [push_coalesced_run critical h.mode]
    exact bounds_critical counted positive msg
  | false =>
    rw [push_buffered_run critical h.mode]
    exact bounds_bufferMessage counted positive short msg

/-- Whatever is called, less than the limit stays pending, unless it is such a batch. -/
theorem bounds_op (h : Limited limit w) (positive : 0 < limit) (short : w.pending.length < limit)
    {op : WriterOp} (unfilled : Unfilled w op) : Bounds limit op.run w := by
  cases op with
  | push msg => exact bounds_push h positive short msg
  | pushUhidInput id size data => exact bounds_pushUhidInput h positive short id size data
  | pushGamepadInput id data => exact bounds_append_packed h positive id data
  | pushGamepadInputFields id frame => exact bounds_append_fields h positive id frame
  | pushGamepadInputBatch id data =>
    match data with
    | [] => exact ⟨h, short⟩
    | [data] => exact bounds_append_packed h positive id data
    | a :: b :: rest =>
      have sized := sized_gamepad id (a :: b :: rest)
      refine bounds_pushBatch h short sized ?_
      rw [List.length_map]
      exact unfilled (by simp)
  | pushGamepadInputBatchFromFields id frames =>
    match frames with
    | [] => exact ⟨h, short⟩
    | [frame] => exact bounds_append_fields h positive id frame
    | a :: b :: rest =>
      have sized := sized_fields id (a :: b :: rest)
      refine bounds_pushBatch h short sized ?_
      rw [List.length_map]
      exact unfilled (by simp)
  | flushNow =>
    obtain ⟨n, w', run, after, none⟩ := flushNow_limited h
    rw [Bounds, WriterOp.run, Method.run_discard, run]
    refine ⟨after, ?_⟩
    rw [none]
    exact positive

theorem filled_not_bounded (h : Limited limit w) {frames : List (List (List UInt8))}
    (sized : Sized frames) (filled : w.Fills frames.length) :
    ¬(((pushBatch frames).run w).1.isOk = true →
      ((pushBatch frames).run w).2.pending.length < w.hardLimit) := by
  obtain ⟨ok, full⟩ := pushBatch_filled h sized filled
  intro bounded
  have less := bounded ok
  rw [full, h.hardLimit] at less
  exact Nat.lt_irrefl limit less

theorem bounded_iff (h : Limited limit w) (positive : 0 < limit) (short : w.pending.length < limit)
    (op : WriterOp) : Bounded w op ↔ Unfilled w op := by
  have others (unfilled : Unfilled w op) : Bounded w op := by
    intro _
    rw [h.hardLimit]
    exact (bounds_op h positive short unfilled).2
  refine ⟨?_, others⟩
  cases op with
  | pushGamepadInputBatch id data =>
    intro bounded many filled
    rcases data with _ | ⟨a, _ | ⟨b, rest⟩⟩
    · contradiction
    · simp at many
    · have sized := sized_gamepad id (a :: b :: rest)
      rw [← List.length_map (gamepadInputParts id)] at filled
      refine filled_not_bounded h sized filled ?_
      rw [Bounded, WriterOp.run, Method.run_discard, Outcome.isOk_map] at bounded
      exact bounded
  | pushGamepadInputBatchFromFields id frames =>
    intro bounded many filled
    rcases frames with _ | ⟨a, _ | ⟨b, rest⟩⟩
    · contradiction
    · simp at many
    · have sized := sized_fields id (a :: b :: rest)
      rw [← List.length_map (gamepadFieldsParts id)] at filled
      refine filled_not_bounded h sized filled ?_
      rw [Bounded, WriterOp.run, Method.run_discard, Outcome.isOk_map] at bounded
      exact bounded
  | _ => exact fun _ => trivial

end WriterOp

/-- A writer with the limit, and with fewer bytes pending. -/
def CoalescingWriter.BelowLimit (hardLimit : Nat) (w : CoalescingWriter) : Prop :=
  w.Limited hardLimit ∧ w.pending.length < hardLimit

/-- The calls of a run keep the bound exactly if no batch fills the buffer up to the limit before the
window has passed. -/
theorem pending_bounded_iff (c : WriterConfig) {t : Transport} (never : t.NeverFails)
    (positive : 1 ≤ c.hardLimit) (ops : List WriterOp) :
    Run.Along WriterOp.step WriterOp.Bounded (c.start t) ops ↔
      Run.Along WriterOp.step WriterOp.Unfilled (c.start t) ops := by
  have direct : (c.start t).direct = false := by
    have some : c.hardLimit ≠ 0 := Nat.ne_of_gt positive
    simp [WriterConfig.start, CoalescingWriter.withLimits, some]
  have initial : CoalescingWriter.BelowLimit c.hardLimit (c.start t) := ⟨⟨direct, rfl, never⟩, positive⟩
  refine Run.along_congr_while (CoalescingWriter.BelowLimit c.hardLimit) ?_ ?_ initial ops
  · intro w op h unfilled
    exact WriterOp.bounds_op h.1 positive h.2 unfilled
  · intro w op h
    exact WriterOp.bounded_iff h.1 positive h.2 op

def exactBatch : List WriterOp := [.pushGamepadInputBatch 3 (List.replicate 2 (Vector.replicate 15 0))]

/-- Two reports against a limit of forty bytes stay pending, all forty. -/
theorem exact_batch_not_bounded : ¬Run.Along WriterOp.step WriterOp.Bounded
    ((WriterConfig.mk 1000 40 fun _ => 0).start .steady) exactBatch := by
  rintro ⟨bounded, _⟩
  revert bounded
  unfold WriterOp.Bounded
  decide

/-- A batch that leaves room, and one that goes past the limit. -/
def looseBatches : List WriterOp :=
  [.pushGamepadInputBatch 3 (List.replicate 2 (Vector.replicate 15 0)),
    .pushGamepadInput 3 (Vector.replicate 15 0),
    .pushGamepadInputBatch 3 (List.replicate 3 (Vector.replicate 15 0))]

theorem loose_batches_bounded : Run.Along WriterOp.step WriterOp.Bounded
    ((WriterConfig.mk 1000 100 fun _ => 0).start .steady) looseBatches := by
  refine (pending_bounded_iff _ Transport.steady_neverFails (by decide) _).mpr ⟨?_, trivial, ?_, trivial⟩
  · rintro - ⟨exactly, -⟩
    revert exactly
    decide
  · rintro - ⟨exactly, -⟩
    revert exactly
    decide

end HidConnect
