import HidConnect.Coalesce.Landing
import HidConnect.Session.Close

/-! The gamepad slot of a live session and the reports of its stream: what a checked operation
reports, how much of it lands, and which state the slot is left in. -/
namespace HidConnect
open Fallible

abbrev SlotEvent := GamepadSlot → Option GamepadSlot

/-- The states a slot goes through under the events that change it. -/
def changes : GamepadSlot → List SlotEvent → List GamepadSlot
  | _, [] => []
  | slot, event :: rest =>
    match event slot with
    | none => changes slot rest
    | some next => next :: changes next rest

theorem changes_same {slot : GamepadSlot} {event : SlotEvent} (h : event slot = none)
    (rest : List SlotEvent) : changes slot (event :: rest) = changes slot rest := by
  rw [changes, h]

theorem changes_next {slot next : GamepadSlot} {event : SlotEvent} (h : event slot = some next)
    (rest : List SlotEvent) : changes slot (event :: rest) = next :: changes next rest := by
  rw [changes, h]

def slotReport (i : SlotIdx) (slot : GamepadSlot) : ControlMessage :=
  gamepadMessage (GamepadHid.slotHidId i) slot.toPayload

namespace HidSession

/-- A live session whose gamepad is open in slot `i`, and what its stream carries so far. -/
structure AtSlot (d : Bool) (i : SlotIdx) (slot : GamepadSlot) (stream : List ControlMessage)
    (s : HidSession) : Prop where
  live : s.closed = false
  cached : s.gamepadSlot = some i
  driver : ∃ gp, s.gamepad = some gp ∧ gp.slot i = slot
  carries : ∃ sent held, CoalescingWriter.Carries d s.transport sent held ∧ sent ++ held = stream

/-- What a call that is to report the states `next` did. The first `k` reports joined the stream:
all of them if the call returned `Ok`, and none only where a direct writer was refused its first
write. The slot is then left in the last state of the chunk that was lost. -/
structure Updated (d : Bool) (i : SlotIdx) (slot : GamepadSlot) (stream : List ControlMessage)
    (s : HidSession) (next : List GamepadSlot) (ok : Bool) (s' : HidSession) : Prop where
  after : ∃ slot' k, AtSlot d i slot' (stream ++ (next.take k).map (slotReport i)) s' ∧
    slot'.gamepadId = slot.gamepadId ∧ k ≤ next.length ∧
    (ok = true → k = next.length ∧ slot' = next.getLast?.getD slot) ∧
    (next ≠ [] → (k = 0 ↔ d = true ∧
      s.transport.transport.onWrite s.transport.transport.writes ≠ .ok)) ∧
    (k = 0 → slot' = (next.take directGamepadBatchFrames).getLast?.getD slot)
  onWrite : s'.transport.transport.onWrite = s.transport.transport.onWrite
  onFlush : s'.transport.transport.onFlush = s.transport.transport.onFlush
  total : s.transport.transport.NeverFails → ok = true
  quiet : next = [] → ok = true

namespace Updated
variable {d ok : Bool} {i : SlotIdx} {slot : GamepadSlot} {stream : List ControlMessage}
  {s s' t : HidSession} {xs : List GamepadSlot}

theorem rebase {next : GamepadSlot} (h : Updated d i next stream t xs ok s') (full : xs ≠ [])
    (id : next.gamepadId = slot.gamepadId) (same : t.transport = s.transport) :
    Updated d i slot stream s xs ok s' := by
  obtain ⟨⟨slot', k, at', id', few, whole, first, lost⟩, onWrite, onFlush, total, quiet⟩ := h
  have last (ys : List GamepadSlot) (some : ys ≠ []) :
      ys.getLast?.getD next = ys.getLast?.getD slot := by
    rw [List.getLast?_eq_getLast_of_ne_nil some]
    rfl
  have front : xs.take directGamepadBatchFrames ≠ [] := by simp [directGamepadBatchFrames, full]
  rw [last xs full] at whole
  rw [last _ front] at lost
  rw [same] at onWrite onFlush total first
  exact ⟨⟨slot', k, at', id'.trans id, few, whole, first, lost⟩, onWrite, onFlush, total, quiet⟩

theorem append {ys : List GamepadSlot} (chunk : Updated d i slot stream s xs true t)
    (full : xs.length = directGamepadBatchFrames)
    (rest : ∀ slot₁, slot₁ = xs.getLast?.getD slot →
      AtSlot d i slot₁ (stream ++ xs.map (slotReport i)) t →
      Updated d i slot₁ (stream ++ xs.map (slotReport i)) t ys ok s') :
    Updated d i slot stream s (xs ++ ys) ok s' := by
  have some : xs ≠ [] := by
    rintro rfl
    contradiction
  have positive : 0 < xs.length := List.length_pos_of_ne_nil some
  obtain ⟨slot₁, k₁, at₁, id₁, _, whole₁, first₁, _⟩ := chunk.after
  obtain ⟨count, last₁⟩ := whole₁ rfl
  rw [count, List.take_length] at at₁
  have second := rest slot₁ last₁ at₁
  obtain ⟨slot', k, at', id', few, whole, _, _⟩ := second.after
  refine ⟨⟨slot', xs.length + k, ?_, id'.trans id₁, ?_, fun ok => ⟨?_, ?_⟩, fun _ => ?_,
    fun none => by omega⟩, second.onWrite.trans chunk.onWrite, second.onFlush.trans chunk.onFlush,
    fun never => second.total ?_, fun none => ?_⟩
  · rw [List.take_length_add_append, List.map_append, ← List.append_assoc]
    exact at'
  · rw [List.length_append]
    omega
  · rw [List.length_append, (whole ok).1]
  · rw [(whole ok).2, List.getLast?_append, last₁]
    cases ys.getLast? <;> rfl
  · have taken : ¬(d = true ∧ s.transport.transport.onWrite s.transport.transport.writes ≠ .ok) :=
      fun refused => by
        have none := (first₁ some).mpr refused
        omega
    exact ⟨fun none => by omega, fun refused => (taken refused).elim⟩
  · unfold Transport.NeverFails Transport.FlushOk at never ⊢
    rwa [chunk.onWrite, chunk.onFlush]
  · exact (some (List.append_eq_nil_iff.mp none).1).elim

theorem stopped (chunk : Updated d i slot stream s xs false t)
    (full : xs.length = directGamepadBatchFrames) (ys : List GamepadSlot) :
    Updated d i slot stream s (xs ++ ys) false t := by
  have some : xs ≠ [] := by
    rintro rfl
    contradiction
  obtain ⟨slot', k, at', id, few, _, first, lost⟩ := chunk.after
  refine ⟨⟨slot', k, ?_, id, ?_, fun ok => (nomatch ok), fun _ => first some, fun none => ?_⟩,
    chunk.onWrite, chunk.onFlush, chunk.total, fun none => ?_⟩
  · rwa [List.take_append_of_le_length few]
  · rw [List.length_append]
    omega
  · rw [List.take_append_of_le_length (Nat.le_of_eq full.symm)]
    exact lost none
  · exact (some (List.append_eq_nil_iff.mp none).1).elim

end Updated

namespace AtSlot
variable {d : Bool} {i : SlotIdx} {slot : GamepadSlot} {stream : List ControlMessage}
  {s : HidSession}

theorem cached_run (h : AtSlot d i slot stream s) :
    ∃ gp, s.gamepad = some gp ∧ gp.slot i = slot ∧
      gamepadWithCachedSlot.run s = (.ok (i, gp), s) := by
  obtain ⟨gp, hg, same⟩ := h.driver
  refine ⟨gp, hg, same, ?_⟩
  rw [gamepadWithCachedSlot, Method.run_read_bind, h.live, h.cached, hg]
  rfl

theorem hidId_run (h : AtSlot d i slot stream s) {id : UInt16} (hidId : s.gamepadHidId = some id)
    {α : Type} (f : UInt16 → Session α) : (hidIdOfGamepad >>= f).run s = (f id).run s := by
  rw [hidIdOfGamepad, Method.bind_assoc, Method.run_read_bind, h.live, hidId]
  rfl

theorem slot_eq (h : AtSlot d i slot stream s) {d' : Bool} {slot' : GamepadSlot}
    {stream' : List ControlMessage} (h' : AtSlot d' i slot' stream' s) : slot = slot' := by
  obtain ⟨gp, hg, rfl⟩ := h.driver
  obtain ⟨gp', hg', rfl⟩ := h'.driver
  rw [Option.some.inj (hg.symm.trans hg')]

theorem moved (h : AtSlot d i slot stream s) {gp : GamepadHid} {next : GamepadSlot}
    (same : gp.slot i = next) : AtSlot d i next stream { s with gamepad := some gp } :=
  ⟨h.live, h.cached, ⟨gp, rfl, same⟩, h.carries⟩

theorem onWriter (h : AtSlot d i slot stream s) {w : CoalescingWriter}
    {stream' : List ControlMessage} (carries : ∃ sent held,
      CoalescingWriter.Carries d w sent held ∧ sent ++ held = stream') :
    AtSlot d i slot stream' { s with transport := w } :=
  ⟨h.live, h.cached, h.driver, carries⟩

theorem unchanged (h : AtSlot d i slot stream s) : Updated d i slot stream s [] true s := by
  refine ⟨⟨slot, 0, ?_, rfl, Nat.le_refl 0, fun _ => ⟨rfl, rfl⟩, fun full => (full rfl).elim,
    fun _ => rfl⟩, rfl, rfl, fun _ => rfl, fun _ => rfl⟩
  simpa using h

theorem pushed (h : AtSlot d i slot stream s) {states : List GamepadSlot}
    (last : states.getLast? = some slot) (few : states.length ≤ directGamepadBatchFrames) :
    Updated d i slot stream s states
      ((pushGamepadBatch (GamepadHid.slotHidId i) (states.map GamepadSlot.toPayload)).run s).1.isOk
      ((pushGamepadBatch (GamepadHid.slotHidId i) (states.map GamepadSlot.toPayload)).run s).2 := by
  obtain ⟨sent, held, carries, joined⟩ := h.carries
  have full : states ≠ [] := by
    rintro rfl
    contradiction
  have some : states.map GamepadSlot.toPayload ≠ [] := by simpa using full
  obtain ⟨k, landed, first⟩ := CoalescingWriter.pushGamepadInputBatch_landed carries
    (GamepadHid.slotHidId i) some (by simpa using few)
  obtain ⟨sent', held', carries', joined'⟩ := landed.stream
  have count := landed.few
  simp only [List.length_map] at count
  rw [pushGamepadBatch, HidSession.onWriter, Method.run_zoom, Method.run_discard, Outcome.isOk_map]
  refine ⟨⟨slot, k, ?_, rfl, count, fun ok => ⟨?_, ?_⟩, fun _ => first, fun _ => ?_⟩,
    landed.onWrite, landed.onFlush, landed.total, fun none => (full none).elim⟩
  · refine h.onWriter ⟨sent', held', carries', ?_⟩
    rw [joined', joined, List.map_map, ← List.map_take]
    rfl
  · simpa using landed.whole ok
  · rw [last]
    rfl
  · rw [List.take_of_length_le few, last]
    rfl

theorem checkedUpdate (h : AtSlot d i slot stream s) {event : SlotEvent} (settles : Settles event) :
    Updated d i slot stream s (changes slot [event])
      ((HidSession.checkedUpdate event).run s).1.isOk ((HidSession.checkedUpdate event).run s).2 := by
  obtain ⟨gp, hg, same, run⟩ := h.cached_run
  have back : ({ s with gamepad := some gp } : HidSession) = s := by rw [← hg]
  rw [checkedUpdate_run run]
  cases he : event slot with
  | none =>
    rw [GamepadHid.slotEvent_none (same ▸ he), changes_same he, changes]
    dsimp only
    rw [back]
    exact h.unchanged
  | some next =>
    have moved := h.moved (GamepadHid.slots_setSlot gp i next)
    have one : pushGamepad (GamepadHid.slotHidId i) next.toPayload =
      pushGamepadBatch (GamepadHid.slotHidId i) ([next].map GamepadSlot.toPayload) := rfl
    rw [GamepadHid.slotEvent_some (same ▸ he), changes_next he, changes]
    dsimp only
    rw [Method.run_bind_pure, one]
    have last : [next].getLast? = some next := rfl
    rw [Outcome.isOk_map]
    exact (moved.pushed last (Nat.succ_le_succ (Nat.zero_le _))).rebase (List.cons_ne_nil _ _)
      (settles _ _ he).2 rfl

def frameEvents (frames : List GamepadFrameRaw) : List SlotEvent :=
  frames.map GamepadSlot.fullStateEvent

/-- The states gathered so far go out together with those that the remaining frames bring. -/
theorem checkedBatch (frames : List GamepadFrameRaw) {gp : GamepadHid}
    {gathered : List GamepadSlot} {batchId : Option UInt16} (sent : Nat)
    (h : AtSlot d i slot stream s) (hg : s.gamepad = some gp) (same : gp.slot i = slot)
    (last : gathered = [] ∨ gathered.getLast? = some slot)
    (few : gathered.length < directGamepadBatchFrames)
    (own : ∀ id, batchId = some id → id = GamepadHid.slotHidId i)
    (known : gathered ≠ [] → batchId.isSome = true) :
    Updated d i slot stream s (gathered ++ changes slot (frameEvents frames))
      ((HidSession.checkedBatch i frames gp (gathered.map GamepadSlot.toPayload) batchId sent).run
        s).1.isOk
      ((HidSession.checkedBatch i frames gp (gathered.map GamepadSlot.toPayload) batchId sent).run
        s).2 := by
  induction frames generalizing gp gathered batchId sent slot stream s with
  | nil =>
    rw [checkedBatch_nil, frameEvents, List.map_nil, changes, List.append_nil]
    cases gathered with
    | nil =>
      cases batchId <;> exact h.unchanged
    | cons first rest =>
      cases batchId with
      | none => exact nomatch known (List.cons_ne_nil _ _)
      | some id =>
        obtain rfl := own id rfl
        dsimp only
        rw [if_neg (by simp), Method.run_bind_pure, Outcome.isOk_map]
        exact h.pushed (last.resolve_left (List.cons_ne_nil _ _)) (Nat.le_of_lt few)
  | cons frame rest ih =>
    rw [frameEvents, List.map_cons]
    cases he : GamepadSlot.fullStateEvent frame slot with
    | none =>
      have event := GamepadHid.slotEvent_none (same ▸ he)
      have back : ({ s with gamepad := some gp } : HidSession) = s := by rw [← hg]
      rw [checkedBatch_same event, changes_same he, back]
      exact ih sent h hg same last few own known
    | some next =>
      have event := GamepadHid.slotEvent_some (same ▸ he)
      have own' : ∀ id, some (GamepadHid.slotHidId i) = some id → id = GamepadHid.slotHidId i :=
        fun id h => (Option.some.inj h).symm
      have stored := GamepadHid.slots_setSlot gp i next
      have moved := h.moved stored
      have last' : (gathered ++ [next]).getLast? = some next := List.getLast?_concat
      have joined : gathered ++ next :: changes next (rest.map GamepadSlot.fullStateEvent) =
          (gathered ++ [next]) ++ changes next (frameEvents rest) := by
        rw [List.append_assoc]
        rfl
      have payloads : gathered.map GamepadSlot.toPayload ++ [next.toPayload] =
          (gathered ++ [next]).map GamepadSlot.toPayload := by rw [List.map_append]; rfl
      rw [checkedBatch_changed event, changes_next he, batchId_getD own, joined, payloads,
        List.length_map]
      refine Updated.rebase (t := { s with gamepad := some (gp.setSlot i next) }) ?_ (by simp)
        (GamepadSlot.settles_fullStateEvent frame _ _ he).2 rfl
      split
      · rename_i full
        have chunk := moved.pushed last' (Nat.le_of_eq full)
        rw [Method.run_bind]
        rcases hp : (pushGamepadBatch (GamepadHid.slotHidId i)
          ((gathered ++ [next]).map GamepadSlot.toPayload)).run
            { s with gamepad := some (gp.setSlot i next) } with ⟨r, t⟩
        have kept : t.gamepad = some (gp.setSlot i next) :=
          (congrArg (fun out => out.2.gamepad) hp).symm
        rw [hp] at chunk
        cases r with
        | err e => exact chunk.stopped full _
        | panic => exact chunk.stopped full _
        | ok u =>
          refine chunk.append full fun slot₁ eq at₁ => ?_
          rw [last'] at eq
          obtain rfl : slot₁ = next := eq
          exact ih (sent + 1) at₁ kept stored (.inl rfl) (by decide) own' fun some => (some rfl).elim
      · rename_i notFull
        have fewer : (gathered ++ [next]).length < directGamepadBatchFrames := by
          have size : (gathered ++ [next]).length = gathered.length + 1 := by simp
          omega
        exact ih (sent + 1) moved rfl stored (.inr last') fewer own' fun _ => rfl

end AtSlot

end HidSession

/- The checked operations as lists of events. -/

namespace GamepadOp

def checked : GamepadOp → Bool
  | update _ | setFrameRawBatch _ => true
  | _ => false

def events : GamepadOp → List SlotEvent
  | update u => [u.event]
  | setFrameRawBatch frames => frames.map GamepadSlot.fullStateEvent
  | _ => []

end GamepadOp

namespace HidSession
namespace AtSlot
variable {d : Bool} {i : SlotIdx} {slot : GamepadSlot} {stream : List ControlMessage}
  {s : HidSession}

theorem setFrameRawBatch (h : AtSlot d i slot stream s) (frames : List GamepadFrameRaw) :
    Updated d i slot stream s (changes slot (frameEvents frames))
      ((HidSession.setFrameRawBatch frames).run s).1.isOk
      ((HidSession.setFrameRawBatch frames).run s).2 := by
  rcases frames with _ | ⟨frame, _ | ⟨second, rest⟩⟩
  · exact h.unchanged
  · have one := h.checkedUpdate (GamepadSlot.settles_fullStateEvent frame)
    have run : (HidSession.setFrameRawBatch [frame]).run s =
        (HidSession.checkedUpdate (GamepadSlot.fullStateEvent frame) >>= fun changed =>
          if changed then pure 1 else pure 0).run s := rfl
    rw [run, Method.run_bind]
    rcases hr : (HidSession.checkedUpdate (GamepadSlot.fullStateEvent frame)).run s with ⟨r, t⟩
    rw [hr] at one
    cases r with
    | ok changed => cases changed <;> exact one
    | err e => exact one
    | panic => exact one
  · obtain ⟨gp, hg, same, run⟩ := h.cached_run
    rw [setFrameRawBatch_many, Method.run_bind_ok run]
    exact h.checkedBatch (frame :: second :: rest) 0 hg same (.inl rfl) (by decide) (by simp)
      fun some => (some rfl).elim

theorem checkedOp (h : AtSlot d i slot stream s) {op : GamepadOp} (checked : op.checked = true) :
    Updated d i slot stream s (changes slot op.events) (op.run.run s).1.isOk (op.run.run s).2 := by
  cases op with
  | update u =>
    rw [GamepadOp.run, u.run_eq, Method.run_discard, Outcome.isOk_map]
    exact h.checkedUpdate u.settles
  | setFrameRawBatch frames =>
    rw [GamepadOp.run, Method.run_discard, Outcome.isOk_map]
    exact h.setFrameRawBatch frames
  | _ => contradiction

/-- A call on the writer moves the stream and leaves the slot. -/
structure Passed (d : Bool) (i : SlotIdx) (slot : GamepadSlot) (stream : List ControlMessage)
    (s s' : HidSession) : Prop where
  after : ∃ more, AtSlot d i slot (stream ++ more) s'
  onWrite : s'.transport.transport.onWrite = s.transport.transport.onWrite
  onFlush : s'.transport.transport.onFlush = s.transport.transport.onFlush

theorem still (h : AtSlot d i slot stream s) : Passed d i slot stream s s :=
  ⟨⟨[], by simpa using h⟩, rfl, rfl⟩

theorem writes {α : Type} {m : Coalescing α} {msgs : List ControlMessage} {n : Nat}
    (h : AtSlot d i slot stream s) (emits : CoalescingWriter.Emits d msgs n m) :
    Passed d i slot stream s ((HidSession.onWriter m).run s).2 := by
  obtain ⟨sent, held, carries, joined⟩ := h.carries
  have effect := emits s.transport sent held carries
  obtain ⟨landed, sent', held', carries', joined', _⟩ := effect.stream
  exact ⟨⟨landed, h.onWriter ⟨sent', held', carries', by rw [joined', joined]⟩⟩, effect.onWrite,
    effect.onFlush⟩

theorem uncheckedOp (h : AtSlot d i slot stream s) {id : UInt16}
    (hidId : s.gamepadHidId = some id) {op : GamepadOp} (unchecked : op.checked = false) :
    Passed d i slot stream s (op.run.run s).2 := by
  have frame (f : GamepadFrameRaw) : Passed d i slot stream s ((setFrameRawUnchecked f).run s).2 := by
    rw [setFrameRawUnchecked, h.hidId_run hidId]
    exact h.writes (CoalescingWriter.emits_pushGamepadInputFields d id f).discard
  have packed (p : Payload) : Passed d i slot stream s ((setFrameRawPacked p).run s).2 := by
    rw [setFrameRawPacked, h.hidId_run hidId]
    exact h.writes (CoalescingWriter.emits_pushGamepadInput d id p).discard
  cases op with
  | update u => contradiction
  | setFrameRawBatch frames => contradiction
  | setFrameRawUnchecked f => exact frame f
  | setFrameRawUncheckedFrame f => exact frame f
  | setFrameRawPacked p => exact packed p
  | injectRawGamepadReport payload =>
    rw [GamepadOp.run, injectRawGamepadReport]
    split
    · exact h.still
    · split
      · exact h.still
      · rename_i short
        have fits := fitsInput_whole (Nat.not_lt.mp short)
        rw [h.hidId_run hidId]
        exact h.writes (CoalescingWriter.emits_pushUhidInput d id _ fits).discard
  | setFrameRawBatchUnchecked frames =>
    rw [GamepadOp.run, Method.run_discard]
    rcases frames with _ | ⟨f, _ | ⟨second, rest⟩⟩
    · exact h.still
    · have one : (setFrameRawBatchUnchecked [f]).run s =
        (setFrameRawUnchecked f >>= fun _ => pure 1).run s := rfl
      rw [one, Method.run_bind_pure]
      exact frame f
    · have many : (setFrameRawBatchUnchecked (f :: second :: rest)).run s =
        (hidIdOfGamepad >>= fun id => HidSession.onWriter (.discard
          (CoalescingWriter.pushGamepadInputBatchFromFields id (f :: second :: rest))) >>= fun _ =>
            pure (f :: second :: rest).length).run s := rfl
      rw [many, h.hidId_run hidId, Method.run_bind_pure]
      exact h.writes (CoalescingWriter.emits_pushGamepadInputBatchFromFields d id _).discard
  | setFrameRawPackedBatch frames =>
    rw [GamepadOp.run, Method.run_discard]
    rcases frames with _ | ⟨p, _ | ⟨second, rest⟩⟩
    · exact h.still
    · have one : (setFrameRawPackedBatch [p]).run s =
        (setFrameRawPacked p >>= fun _ => pure 1).run s := rfl
      rw [one, Method.run_bind_pure]
      exact packed p
    · have many : (setFrameRawPackedBatch (p :: second :: rest)).run s =
        (hidIdOfGamepad >>= fun id => pushGamepadBatch id (p :: second :: rest) >>= fun _ =>
          pure (p :: second :: rest).length).run s := rfl
      rw [many, h.hidId_run hidId, Method.run_bind_pure]
      exact h.writes (CoalescingWriter.emits_pushGamepadInputBatch d id _).discard

end AtSlot

end HidSession

end HidConnect
