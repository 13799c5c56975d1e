import HidConnect.Session.Frames

/-! A batch of gamepad frames against the same frames sent one by one, over a transport that never
fails. -/
namespace HidConnect
open Fallible

def driven (i : SlotIdx) : GamepadHid → List GamepadFrameRaw → GamepadHid × List Payload
  | gp, [] => (gp, [])
  | gp, frame :: rest =>
    match gp.slotEvent i (GamepadSlot.fullStateEvent frame) with
    | (none, gp') => driven i gp' rest
    | (some (_, payload), gp') => ((driven i gp' rest).1, payload :: (driven i gp' rest).2)

theorem driven_same {i : SlotIdx} {gp gp' : GamepadHid} {frame : GamepadFrameRaw}
    (h : gp.slotEvent i (GamepadSlot.fullStateEvent frame) = (none, gp'))
    (rest : List GamepadFrameRaw) : driven i gp (frame :: rest) = driven i gp' rest := by
  rw [driven, h]

theorem driven_changed {i : SlotIdx} {gp gp' : GamepadHid} {frame : GamepadFrameRaw} {id : UInt16}
    {payload : Payload}
    (h : gp.slotEvent i (GamepadSlot.fullStateEvent frame) = (some (id, payload), gp'))
    (rest : List GamepadFrameRaw) :
    driven i gp (frame :: rest) = ((driven i gp' rest).1, payload :: (driven i gp' rest).2) := by
  rw [driven, h]

namespace HidSession

def flushed {α : Type} (m : Session α) : Session α := do
  let a ← m
  let _ ← flushNow
  pure a

/-- A live session with a gamepad, over a transport that never fails: what its driver holds, and
what its stream carries so far. -/
structure Driving (d : Bool) (i : SlotIdx) (id : UInt16) (gp : GamepadHid)
    (stream : List ControlMessage) (s : HidSession) : Prop where
  live : s.closed = false
  cached : s.gamepadSlot = some i
  hidId : s.gamepadHidId = some id
  driver : s.gamepad = some gp
  working : Working s
  carries : ∃ sent held, CoalescingWriter.Carries d s.transport sent held ∧ sent ++ held = stream

theorem Reporting.driving {d : Bool} {slot : GamepadSlot} {stream : List ControlMessage}
    {s : HidSession} (h : Reporting d slot stream s) :
    ∃ gp, Driving d 0 hidIdGamepadFirst gp stream s := by
  obtain ⟨gp, driver, _⟩ := h.at'.driver
  exact ⟨gp, h.at'.live, h.at'.cached, h.hidId, driver, h.working, h.at'.carries⟩

namespace Driving
variable {d : Bool} {i : SlotIdx} {id : UInt16} {gp : GamepadHid} {stream : List ControlMessage}
  {s : HidSession}

theorem drives (h : Driving d i id gp stream s) (gp' : GamepadHid) :
    Driving d i id gp' stream { s with gamepad := some gp' } :=
  ⟨h.live, h.cached, h.hidId, rfl, h.working, h.carries⟩

theorem writes (h : Driving d i id gp stream s) {α : Type} {m : Coalescing α}
    {msgs : List ControlMessage} {n : Nat} (emits : CoalescingWriter.Emits d msgs n m)
    (serializes : ∀ msg ∈ msgs, msg.Serializes) :
    ∃ a s', (onWriter m).run s = (.ok a, s') ∧ Driving d i id gp (stream ++ msgs) s' := by
  obtain ⟨sent, held, carries, rfl⟩ := h.carries
  have effect := emits s.transport sent held carries
  obtain ⟨landed, sent', held', carries', joined, _, whole⟩ := effect.stream
  have total := effect.total h.working serializes
  obtain ⟨a, ok⟩ := Outcome.isOk_iff.mp total
  refine ⟨a, _, Prod.ext ok rfl, h.live, h.cached, h.hidId, h.driver,
    working_of_plans h.working effect.onWrite effect.onFlush, sent', held', carries', ?_⟩
  rw [joined, whole total]

theorem serializes (id' : UInt16) (payloads : List Payload) :
    ∀ msg ∈ payloads.map (gamepadMessage id'), msg.Serializes := by
  intro msg hm
  obtain ⟨payload, _, rfl⟩ := List.mem_map.mp hm
  exact gamepadMessage_serializes id' payload

theorem pushGamepadBatch (h : Driving d i id gp stream s) (id' : UInt16) (payloads : List Payload) :
    ∃ s', (HidSession.pushGamepadBatch id' payloads).run s = (.ok (), s') ∧
      Driving d i id gp (stream ++ payloads.map (gamepadMessage id')) s' := by
  have emits := (CoalescingWriter.emits_pushGamepadInputBatch d id' payloads).discard
  obtain ⟨_, s', run, after⟩ := h.writes emits (serializes id' payloads)
  exact ⟨s', run, after⟩

theorem pushGamepad (h : Driving d i id gp stream s) (id' : UInt16) (payload : Payload) :
    ∃ s', (HidSession.pushGamepad id' payload).run s = (.ok (), s') ∧
      Driving d i id gp (stream ++ [gamepadMessage id' payload]) s' :=
  h.pushGamepadBatch id' [payload]

theorem flushNow (h : Driving d i id gp stream s) :
    ∃ n s', HidSession.flushNow.run s = (.ok n, s') ∧ s'.gamepad = some gp ∧
      s'.transport.transport.wire = encodeAll stream := by
  obtain ⟨sent, held, carries, rfl⟩ := h.carries
  obtain ⟨effect, empty⟩ := CoalescingWriter.flushNow_effect carries
  have total := effect.total h.working (List.forall_mem_nil _)
  obtain ⟨n, ok⟩ := Outcome.isOk_iff.mp total
  exact ⟨n, _, Prod.ext ok rfl, h.driver, (empty total).wire⟩

/- Checked frames. -/

theorem checkedUpdate (h : Driving d i id gp stream s) (frame : GamepadFrameRaw) :
    ∃ changed s', (HidSession.checkedUpdate (GamepadSlot.fullStateEvent frame)).run s =
        (.ok changed, s') ∧ (driven i gp [frame]).2.length = (if changed then 1 else 0) ∧
      Driving d i id (driven i gp [frame]).1
        (stream ++ (driven i gp [frame]).2.map (gamepadMessage (GamepadHid.slotHidId i))) s' := by
  have cached : gamepadWithCachedSlot.run s = (.ok (i, gp), s) := by
    rw [gamepadWithCachedSlot, Method.run_read_bind, h.live, h.cached, h.driver]
    rfl
  rw [checkedUpdate_run cached]
  rcases event : gp.slotEvent i (GamepadSlot.fullStateEvent frame) with ⟨msg, gp'⟩
  have moved := h.drives gp'
  cases msg with
  | none =>
    rw [driven_same event, driven]
    exact ⟨false, _, rfl, rfl, by simpa using moved⟩
  | some report =>
    obtain ⟨hidId, payload⟩ := report
    obtain rfl := slotEvent_hidId event
    obtain ⟨s', run, after⟩ := moved.pushGamepad (GamepadHid.slotHidId i) payload
    rw [driven_changed event, driven]
    exact ⟨true, s', Method.run_bind_ok run, rfl, after⟩

theorem driven_cons (i : SlotIdx) (gp : GamepadHid) (frame : GamepadFrameRaw)
    (rest : List GamepadFrameRaw) :
    driven i gp (frame :: rest) = ((driven i (driven i gp [frame]).1 rest).1,
      (driven i gp [frame]).2 ++ (driven i (driven i gp [frame]).1 rest).2) := by
  rcases event : gp.slotEvent i (GamepadSlot.fullStateEvent frame) with ⟨msg, gp'⟩
  cases msg with
  | none =>
    rw [driven_same event, driven_same event]
    rfl
  | some report =>
    rw [driven_changed event, driven_changed event]
    rfl

theorem setFrameRaws (h : Driving d i id gp stream s) (frames : List GamepadFrameRaw) :
    ∃ s', (Method.forEach frames setFrameRaw).run s = (.ok (), s') ∧
      Driving d i id (driven i gp frames).1
        (stream ++ (driven i gp frames).2.map (gamepadMessage (GamepadHid.slotHidId i))) s' := by
  induction frames generalizing gp stream s with
  | nil => exact ⟨s, rfl, by simpa [driven] using h⟩
  | cons frame rest ih =>
    obtain ⟨changed, s₁, run₁, _, after₁⟩ := h.checkedUpdate frame
    obtain ⟨s', run, after⟩ := ih after₁
    have single : (setFrameRaw frame).run s = (.ok (), s₁) := by
      rw [setFrameRaw, Method.run_discard, run₁]
      rfl
    refine ⟨s', (Method.run_bind_ok single).trans run, ?_⟩
    rw [driven_cons, List.map_append, ← List.append_assoc]
    exact after

/-- The loop of a batch: what it gathered so far goes out with the rest. -/
theorem checkedBatch (frames : List GamepadFrameRaw) (gathered : List Payload)
    (batchId : Option UInt16) (sent : Nat) (h : Driving d i id gp stream s)
    (own : ∀ id', batchId = some id' → id' = GamepadHid.slotHidId i)
    (known : gathered ≠ [] → batchId.isSome = true) :
    ∃ s', (HidSession.checkedBatch i frames gp gathered batchId sent).run s =
        (.ok (sent + (driven i gp frames).2.length), s') ∧
      Driving d i id (driven i gp frames).1 (stream ++ (gathered ++ (driven i gp frames).2).map
        (gamepadMessage (GamepadHid.slotHidId i))) s' := by
  induction frames generalizing gp gathered batchId sent stream s with
  | nil =>
    rw [checkedBatch_nil, driven, List.append_nil]
    by_cases none : gathered = []
    · subst none
      refine ⟨s, ?_, by simpa using h⟩
      cases batchId <;> rfl
    · obtain ⟨id', batch⟩ := Option.isSome_iff_exists.mp (known none)
      obtain rfl := own id' batch
      obtain ⟨s', run, after⟩ := h.pushGamepadBatch (GamepadHid.slotHidId i) gathered
      refine ⟨s', ?_, after⟩
      rw [batch]
      dsimp only
      rw [if_neg none]
      exact Method.run_bind_ok run
  | cons frame rest ih =>
    rcases event : gp.slotEvent i (GamepadSlot.fullStateEvent frame) with ⟨msg, gp'⟩
    have moved := h.drives gp'
    cases msg with
    | none =>
      rw [checkedBatch_same event, driven_same event]
      exact ih gathered batchId sent moved own known
    | some report =>
      obtain ⟨hidId, payload⟩ := report
      obtain rfl := slotEvent_hidId event
      have own' : ∀ id', some (GamepadHid.slotHidId i) = some id' → id' = GamepadHid.slotHidId i :=
        fun id' h => (Option.some.inj h).symm
      rw [checkedBatch_changed event, driven_changed event, batchId_getD own]
      have count : sent + (payload :: (driven i gp' rest).2).length =
          sent + 1 + (driven i gp' rest).2.length := by
        rw [List.length_cons]
        omega
      have joined : gathered ++ payload :: (driven i gp' rest).2 =
          (gathered ++ [payload]) ++ (driven i gp' rest).2 := List.append_cons ..
      rw [count, joined]
      split
      · obtain ⟨s₁, run₁, after₁⟩ := moved.pushGamepadBatch (GamepadHid.slotHidId i)
          (gathered ++ [payload])
        obtain ⟨s', run, after⟩ := ih [] _ (sent + 1) after₁ own' fun none =>
          absurd rfl none
        refine ⟨s', (Method.run_bind_ok run₁).trans run, ?_⟩
        rw [List.map_append, ← List.append_assoc]
        exact after
      · exact ih (gathered ++ [payload]) _ (sent + 1) moved own' fun _ => rfl

theorem setFrameRawBatch (h : Driving d i id gp stream s) (frames : List GamepadFrameRaw) :
    ∃ s', (HidSession.setFrameRawBatch frames).run s =
        (.ok (driven i gp frames).2.length, s') ∧
      Driving d i id (driven i gp frames).1
        (stream ++ (driven i gp frames).2.map (gamepadMessage (GamepadHid.slotHidId i))) s' := by
  rcases frames with _ | ⟨frame, _ | ⟨second, rest⟩⟩
  · exact ⟨s, rfl, by simpa [driven] using h⟩
  · obtain ⟨changed, s', run, count, after⟩ := h.checkedUpdate frame
    refine ⟨s', ?_, after⟩
    rw [count]
    refine (Method.run_bind_ok run).trans ?_
    cases changed <;> rfl
  · have cached : gamepadWithCachedSlot.run s = (.ok (i, gp), s) := by
      rw [gamepadWithCachedSlot, Method.run_read_bind, h.live, h.cached, h.driver]
      rfl
    obtain ⟨s', run, after⟩ := h.checkedBatch (frame :: second :: rest) [] none 0 (by simp)
      fun none => absurd rfl none
    rw [setFrameRawBatch_many, Method.run_bind_ok cached]
    rw [Nat.zero_add] at run
    exact ⟨s', run, after⟩

/- Unchecked and packed frames. -/

theorem hidId_run (h : Driving d i id gp stream s) {α : Type} (f : UInt16 → Session α) :
    (hidIdOfGamepad >>= f).run s = (f id).run s := by
  rw [hidIdOfGamepad, Method.bind_assoc, Method.run_read_bind, h.live, h.hidId]
  rfl

theorem setFrameRawUnchecked (h : Driving d i id gp stream s) (frame : GamepadFrameRaw) :
    ∃ s', (HidSession.setFrameRawUnchecked frame).run s = (.ok (), s') ∧
      Driving d i id gp (stream ++ [gamepadMessage id frame.pack]) s' := by
  have emits := (CoalescingWriter.emits_pushGamepadInputFields d id frame).discard
  obtain ⟨_, s', run, after⟩ := h.writes emits (serializes id [frame.pack])
  rw [HidSession.setFrameRawUnchecked, h.hidId_run]
  exact ⟨s', run, after⟩

theorem setFrameRawPacked (h : Driving d i id gp stream s) (payload : Payload) :
    ∃ s', (HidSession.setFrameRawPacked payload).run s = (.ok (), s') ∧
      Driving d i id gp (stream ++ [gamepadMessage id payload]) s' := by
  rw [HidSession.setFrameRawPacked, h.hidId_run]
  exact h.pushGamepad id payload

theorem forEach {α : Type} {single : α → Session Unit} (report : α → Payload)
    (one : ∀ {stream s}, Driving d i id gp stream s → ∀ a, ∃ s', (single a).run s = (.ok (), s') ∧
      Driving d i id gp (stream ++ [gamepadMessage id (report a)]) s')
    (h : Driving d i id gp stream s) (xs : List α) :
    ∃ s', (Method.forEach xs single).run s = (.ok (), s') ∧
      Driving d i id gp (stream ++ (xs.map report).map (gamepadMessage id)) s' := by
  induction xs generalizing stream s with
  | nil => exact ⟨s, rfl, by simpa using h⟩
  | cons x rest ih =>
    obtain ⟨s₁, run₁, after₁⟩ := one h x
    obtain ⟨s', run, after⟩ := ih after₁
    refine ⟨s', (Method.run_bind_ok run₁).trans run, ?_⟩
    rw [List.append_assoc] at after
    exact after

theorem setFrameRawBatchUnchecked (h : Driving d i id gp stream s) (frames : List GamepadFrameRaw) :
    ∃ s', (HidSession.setFrameRawBatchUnchecked frames).run s = (.ok frames.length, s') ∧
      Driving d i id gp
        (stream ++ (frames.map GamepadFrameRaw.pack).map (gamepadMessage id)) s' := by
  rcases frames with _ | ⟨frame, _ | ⟨second, rest⟩⟩
  · exact ⟨s, rfl, by simpa using h⟩
  · obtain ⟨s', run, after⟩ := h.setFrameRawUnchecked frame
    exact ⟨s', Method.run_bind_ok run, after⟩
  · have emits := CoalescingWriter.emits_pushGamepadInputBatchFromFields d id
      (frame :: second :: rest)
    have packed : (frame :: second :: rest).map (fun f => gamepadMessage id f.pack) =
        ((frame :: second :: rest).map GamepadFrameRaw.pack).map (gamepadMessage id) := by
      rw [List.map_map]
      rfl
    rw [packed] at emits
    obtain ⟨_, s', run, after⟩ := h.writes emits.discard (serializes id _)
    have many : (HidSession.setFrameRawBatchUnchecked (frame :: second :: rest)).run s =
        (hidIdOfGamepad >>= fun id => onWriter (.discard
          (CoalescingWriter.pushGamepadInputBatchFromFields id (frame :: second :: rest))) >>=
            fun _ => pure (frame :: second :: rest).length).run s := rfl
    rw [many, h.hidId_run]
    exact ⟨s', Method.run_bind_ok run, after⟩

theorem setFrameRawPackedBatch (h : Driving d i id gp stream s) (payloads : List Payload) :
    ∃ s', (HidSession.setFrameRawPackedBatch payloads).run s = (.ok payloads.length, s') ∧
      Driving d i id gp (stream ++ payloads.map (gamepadMessage id)) s' := by
  rcases payloads with _ | ⟨payload, _ | ⟨second, rest⟩⟩
  · exact ⟨s, rfl, by simpa using h⟩
  · obtain ⟨s', run, after⟩ := h.setFrameRawPacked payload
    exact ⟨s', Method.run_bind_ok run, after⟩
  · obtain ⟨s', run, after⟩ := h.pushGamepadBatch id (payload :: second :: rest)
    have many : (HidSession.setFrameRawPackedBatch (payload :: second :: rest)).run s =
        (hidIdOfGamepad >>= fun id => HidSession.pushGamepadBatch id (payload :: second :: rest) >>=
          fun _ => pure (payload :: second :: rest).length).run s := rfl
    rw [many, h.hidId_run]
    exact ⟨s', Method.run_bind_ok run, after⟩

end Driving

/-- A batch and its single calls, each with a flush: both send these reports, the batch answers how
many they are, and they leave the same driver. -/
structure SameOutput (s : HidSession) (id : UInt16) (batch : Session Nat) (singles : Session Unit)
    (reports : List Payload) : Prop where
  answer : ((flushed batch).run s).1 = .ok reports.length
  returns : ((flushed singles).run s).1 = .ok ()
  batched : ((flushed batch).run s).2.transport.transport.wire = s.transport.transport.wire ++
    s.transport.pending ++ encodeAll (reports.map (gamepadMessage id))
  folded : ((flushed singles).run s).2.transport.transport.wire = s.transport.transport.wire ++
    s.transport.pending ++ encodeAll (reports.map (gamepadMessage id))
  driver : ((flushed batch).run s).2.gamepad = ((flushed singles).run s).2.gamepad

section
variable {d : Bool} {i : SlotIdx} {id : UInt16} {gp gp' : GamepadHid}
  {stream stream' : List ControlMessage} {s t u : HidSession}

theorem flushed_run {α : Type} {m : Session α} {a : α} (run : m.run s = (.ok a, t))
    (after : Driving d i id gp stream t) :
    ∃ t', (flushed m).run s = (.ok a, t') ∧ t'.gamepad = some gp ∧
      t'.transport.transport.wire = encodeAll stream := by
  obtain ⟨n, t', flush, driver, wire⟩ := after.flushNow
  refine ⟨t', ?_, driver, wire⟩
  rw [flushed, Method.run_bind_ok run, Method.run_bind_ok flush, Method.run_pure]

theorem Driving.sameOutput (h : Driving d i id gp stream s) {id' : UInt16} {batch : Session Nat}
    {singles : Session Unit} {reports : List Payload}
    (batched : batch.run s = (.ok reports.length, t))
    (one : Driving d i id gp' (stream ++ reports.map (gamepadMessage id')) t)
    (folded : singles.run s = (.ok (), u))
    (other : Driving d i id gp' (stream ++ reports.map (gamepadMessage id')) u) :
    SameOutput s id' batch singles reports := by
  obtain ⟨sent, held, carries, rfl⟩ := h.carries
  obtain ⟨t', run, driver, wire⟩ := flushed_run batched one
  obtain ⟨u', run', driver', wire'⟩ := flushed_run folded other
  have start : encodeAll (sent ++ held) = s.transport.transport.wire ++ s.transport.pending := by
    rw [encodeAll_append, carries.wire, carries.pending]
  rw [encodeAll_append, start] at wire wire'
  constructor
  · rw [run]
  · rw [run']
  · rw [run, wire]
  · rw [run', wire']
  · rw [run, run', driver, driver']

/-- Every form of batch is the fold of its single calls. -/
theorem batch_folds (h : Driving d i id gp stream s) (frames : List GamepadFrameRaw)
    (payloads : List Payload) :
    SameOutput s (GamepadHid.slotHidId i) (setFrameRawBatch frames) (.forEach frames setFrameRaw)
        (driven i gp frames).2 ∧
      SameOutput s id (setFrameRawBatchUnchecked frames) (.forEach frames setFrameRawUnchecked)
        (frames.map GamepadFrameRaw.pack) ∧
      SameOutput s id (setFrameRawPackedBatch payloads) (.forEach payloads setFrameRawPacked)
        payloads := by
  constructor
  · obtain ⟨t, batched, one⟩ := h.setFrameRawBatch frames
    obtain ⟨u, folded, other⟩ := h.setFrameRaws frames
    exact h.sameOutput batched one folded other
  constructor
  · obtain ⟨t, batched, one⟩ := h.setFrameRawBatchUnchecked frames
    obtain ⟨u, folded, other⟩ := h.forEach GamepadFrameRaw.pack (fun h => h.setFrameRawUnchecked) frames
    refine h.sameOutput ?_ one folded other
    rw [List.length_map]
    exact batched
  · obtain ⟨t, batched, one⟩ := h.setFrameRawPackedBatch payloads
    obtain ⟨u, folded, other⟩ := h.forEach (fun payload => payload) (fun h => h.setFrameRawPacked) payloads
    rw [List.map_id'] at other
    exact h.sameOutput batched one folded other

end

theorem batch_folds_opened : ∃ reports, SameOutput (afterOpen .steady id .gamepadOnly)
    (GamepadHid.slotHidId 0) (setFrameRawBatch [neutralFrame, { neutralFrame with buttons := 1 }])
    (.forEach [neutralFrame, { neutralFrame with buttons := 1 }] setFrameRaw) reports := by
  have opened : ∃ d slot stream,
      Reporting d slot stream (afterOpen .steady id .gamepadOnly) :=
    reporting_opened id rfl Transport.steady_neverFails rfl
  obtain ⟨d, slot, stream, reporting⟩ := opened
  obtain ⟨gp, driving⟩ := reporting.driving
  exact ⟨_, (batch_folds driving [neutralFrame, { neutralFrame with buttons := 1 }] []).1⟩

end HidSession
end HidConnect
