import HidConnect.Session.Shadow

/-! Retrying a checked operation that failed: which of the lost reports the second call sends. -/
namespace HidConnect
open Fallible

namespace HidSession

/-- The writer holds whole messages, on the wire and in the buffer. -/
def WholeMessages (s : HidSession) : Prop :=
  ∃ d sent held, CoalescingWriter.Carries d s.transport sent held

theorem writer_step {s : HidSession} {d : Bool} {sent held : List ControlMessage}
    (carries : CoalescingWriter.Carries d s.transport sent held) (op : SessionOp) :
    (∃ sent' held', CoalescingWriter.Carries d (step s op).transport sent' held') ∧
      (step s op).transport.transport.onWrite = s.transport.transport.onWrite ∧
      (step s op).transport.transport.onFlush = s.transport.transport.onFlush := by
  have reports (other : Within anyReport op) :
      (∃ sent' held', CoalescingWriter.Carries d (step s op).transport sent' held') ∧
        (step s op).transport.transport.onWrite = s.transport.transport.onWrite ∧
        (step s op).transport.transport.onFlush = s.transport.transport.onFlush := by
    obtain ⟨_, sent', held', carries', _, _, onWrite, onFlush⟩ :=
      (keeps_op other s).stream d sent held carries
    exact ⟨⟨sent', held', carries'⟩, onWrite, onFlush⟩
  cases op with
  | send msg =>
    have effect := (CoalescingWriter.emits_push d msg).discard s.transport sent held carries
    obtain ⟨_, sent', held', carries', _⟩ := effect.stream
    exact ⟨⟨sent', held', carries'⟩, effect.onWrite, effect.onFlush⟩
  | close =>
    cases hc : s.closed with
    | true =>
      have same : step s .close = s := congrArg Prod.snd (tryCloseAll_closed hc)
      rw [same]
      exact ⟨⟨sent, held, carries⟩, rfl, rfl⟩
    | false =>
      obtain ⟨sent', held', done⟩ := carries.pushAll (allCritical_farewells s)
      have transport : (step s .close).transport = _ := (tryCloseAll_outcome hc).2.1
      rw [transport]
      exact ⟨⟨sent', held', done.carries⟩, done.onWrite, done.onFlush⟩
  | editGamepad edit =>
    have same : (step s (.editGamepad edit)).transport = s.transport := by
      rw [step, SessionOp.run, editGamepad, Method.run_read_bind]
      cases s.gamepad <;> rfl
    rw [same]
    exact ⟨⟨sent, held, carries⟩, rfl, rfl⟩
  | key scancode pressed mods => exact reports fun _ => trivial
  | typeText text => exact reports fun _ => trivial
  | typeTextStrict text => exact reports fun _ => trivial
  | keyChord mods scancode => exact reports fun _ => trivial
  | mouseFrameBatch frames => exact reports fun _ => trivial
  | _ => exact reports trivial

theorem wholeMessages_step {s : HidSession} (h : WholeMessages s) (op : SessionOp) :
    WholeMessages (step s op) := by
  obtain ⟨d, sent, held, carries⟩ := h
  obtain ⟨⟨sent', held', carries'⟩, _⟩ := writer_step carries op
  exact ⟨d, sent', held', carries'⟩

theorem wholeMessages_opened {t : Transport} {clock : Nat → Nat} {req : OpenRequest}
    (fresh : t.wire = []) (allOrNothing : t.AllOrNothing) (flushOk : t.FlushOk) :
    WholeMessages (afterOpen t clock req) := by
  obtain ⟨d, ⟨_, w, state, carries, _⟩ | ⟨_, k, j, _, _, carries, _⟩⟩ :=
    open_outcome t clock req fresh allOrNothing flushOk
  · refine ⟨d, req.requested.map Device.create, [], ?_⟩
    rw [afterOpen, state]
    exact carries
  · exact ⟨d, _, _, carries⟩

/-- What is on the wire or in the buffer. -/
def reached (s : HidSession) : List DeviceEvent :=
  readEvents (s.transport.transport.wire ++ s.transport.pending)

/-- The transport works again: from here on it takes every write. -/
def recovered (s : HidSession) : HidSession :=
  { s with transport := { s.transport with transport := { s.transport.transport with
      onWrite := fun _ => .ok, onFlush := fun _ => none } } }

/-- The reports that an operation asks for. -/
def requested (i : SlotIdx) (slot : GamepadSlot) (op : GamepadOp) : List DeviceEvent :=
  (changes slot op.events).map fun next => eventOfMessage (slotReport i next)

/-- Those that reached neither the wire nor the buffer. -/
def lostReports (i : SlotIdx) (slot : GamepadSlot) (op : GamepadOp) (s : HidSession) :
    List DeviceEvent :=
  (requested i slot op).drop ((step s (.gamepad op)).reached.length - s.reached.length)

/-- What the same call puts on the wire once the transport works again. -/
def retriedReports (op : GamepadOp) (s : HidSession) : List DeviceEvent :=
  let failed := step s (.gamepad op)
  (step failed.recovered (.gamepad op)).delivered.drop failed.reached.length

namespace AtSlot
variable {d : Bool} {i : SlotIdx} {slot : GamepadSlot} {stream : List ControlMessage}
  {s : HidSession}

theorem reached (h : AtSlot d i slot stream s) : s.reached = stream.map eventOfMessage := by
  obtain ⟨sent, held, carries, joined⟩ := h.carries
  have all : ∀ msg ∈ sent ++ held, msg.Serializes := by
    intro msg hm
    rcases List.mem_append.mp hm with hm | hm
    · exact carries.sentOk msg hm
    · exact (carries.heldOk msg hm).1
  have read := readEvents_encodeAll all []
  rw [List.append_nil, readEvents_nil, List.append_nil, joined] at read
  rw [HidSession.reached, carries.stream, joined, read]

theorem recovered (h : AtSlot d i slot stream s) : AtSlot d i slot stream s.recovered := by
  obtain ⟨sent, held, carries, joined⟩ := h.carries
  refine ⟨h.live, h.cached, h.driver, sent, held, ⟨carries.mode, carries.wire, carries.pending,
    carries.sentOk, carries.heldOk, carries.unbuffered, ?_, fun _ => rfl⟩, joined⟩
  exact fun _ _ _ refused => nomatch refused

end AtSlot

/-- A frame is the next state of every slot bound to the same id, unless the slot holds it. -/
theorem changes_frames (frame : GamepadFrameRaw) (rest : List GamepadFrameRaw)
    {slot other : GamepadSlot} (id : other.gamepadId = slot.gamepadId) :
    (other = slot.holdFrame frame ∧
      changes other ((frame :: rest).map GamepadSlot.fullStateEvent) =
        changes (slot.holdFrame frame) (rest.map GamepadSlot.fullStateEvent)) ∨
    (other ≠ slot.holdFrame frame ∧
      changes other ((frame :: rest).map GamepadSlot.fullStateEvent) =
        slot.holdFrame frame ::
          changes (slot.holdFrame frame) (rest.map GamepadSlot.fullStateEvent)) := by
  have same : other.holdFrame frame = slot.holdFrame frame := by
    rw [GamepadSlot.holdFrame, GamepadSlot.holdFrame, id]
  rw [List.map_cons]
  by_cases holds : other = slot.holdFrame frame
  · have none : GamepadSlot.fullStateEvent frame other = none :=
      GamepadSlot.changed_eq_none.mpr (holds.trans same.symm)
    rw [changes_same none]
    exact .inl ⟨holds, by rw [holds]⟩
  · have some : GamepadSlot.fullStateEvent frame other = some (slot.holdFrame frame) := by
      rw [GamepadSlot.fullStateEvent, GamepadSlot.changed, same, if_neg holds]
    exact .inr ⟨holds, changes_next some _⟩

/-- The first event changes nothing, or the chunk that is lost goes on to another state. -/
def FirstSurvives (slot : GamepadSlot) (events : List SlotEvent) : Prop :=
  (events.head?.bind fun event => event slot) = none ∨
    ((changes slot events).take directGamepadBatchFrames).getLast? ≠ (changes slot events).head?

/- The slot was left in the last state of the lost chunk. -/

theorem update_hidden {event : SlotEvent} (settles : Settles event) {slot slot' : GamepadSlot}
    (some : changes slot [event] ≠ [])
    (left : slot' = ((changes slot [event]).take directGamepadBatchFrames).getLast?.getD slot) :
    changes slot' [event] = [] ∧ ¬FirstSurvives slot [event] := by
  cases he : event slot with
  | none => exact (some (changes_same he [])).elim
  | some next =>
    have settled := (settles slot next he).1
    rw [changes_next he, changes] at left
    obtain rfl : slot' = next := left
    refine ⟨changes_same settled [], ?_⟩
    rw [FirstSurvives, changes_next he, changes]
    simp [he, directGamepadBatchFrames]

/-- Of a batch the retry hides the first state if the slot was left in it. -/
theorem frames_hidden_iff {β : Type} (f : GamepadSlot → β) (frame : GamepadFrameRaw)
    (rest : List GamepadFrameRaw) {slot slot' : GamepadSlot}
    (id : slot'.gamepadId = slot.gamepadId)
    (left : slot' = ((changes slot ((frame :: rest).map GamepadSlot.fullStateEvent)).take
      directGamepadBatchFrames).getLast?.getD slot) :
    ((changes slot ((frame :: rest).map GamepadSlot.fullStateEvent)).map f).Sublist
        ((changes slot' ((frame :: rest).map GamepadSlot.fullStateEvent)).map f) ↔
      FirstSurvives slot ((frame :: rest).map GamepadSlot.fullStateEvent) := by
  have again := changes_frames frame rest id
  rcases changes_frames frame rest (rfl : slot.gamepadId = slot.gamepadId) with
    ⟨holds, same⟩ | ⟨moves, next⟩
  · have none : GamepadSlot.fullStateEvent frame slot = none :=
      GamepadSlot.changed_eq_none.mpr holds
    refine ⟨fun _ => .inl none, fun _ => List.Sublist.map f ?_⟩
    rcases again with ⟨_, again⟩ | ⟨_, again⟩
    · rw [same, again]
    · rw [same, again]
      exact List.sublist_cons_self _ _
  · have some : GamepadSlot.fullStateEvent frame slot ≠ none := fun none =>
      moves (GamepadSlot.changed_eq_none.mp none)
    have first : FirstSurvives slot ((frame :: rest).map GamepadSlot.fullStateEvent) ↔
        slot' ≠ slot.holdFrame frame := by
      rw [next] at left
      rw [FirstSurvives, next, left]
      simp [some, directGamepadBatchFrames, List.getLast?_cons]
    rw [first, next]
    rcases again with ⟨hidden, again⟩ | ⟨shown, again⟩
    · rw [again]
      refine ⟨fun sub => ?_, fun shown => (shown hidden).elim⟩
      have longer := sub.length_le
      simp only [List.map_cons, List.length_cons, List.length_map] at longer
      omega
    · rw [again]
      exact ⟨fun _ => shown, fun _ => List.Sublist.refl _⟩

theorem frames_resent {β : Type} (f : GamepadSlot → β) (frame : GamepadFrameRaw)
    (rest : List GamepadFrameRaw) {slot slot' : GamepadSlot}
    (id : slot'.gamepadId = slot.gamepadId) {k : Nat} (begun : k ≠ 0) :
    (((changes slot ((frame :: rest).map GamepadSlot.fullStateEvent)).map f).drop k).Sublist
      ((changes slot' ((frame :: rest).map GamepadSlot.fullStateEvent)).map f) := by
  obtain ⟨j, rfl⟩ := Nat.exists_eq_succ_of_ne_zero begun
  have tail : (((changes slot ((frame :: rest).map GamepadSlot.fullStateEvent)).map f).drop
      (j + 1)).Sublist ((changes (slot.holdFrame frame)
        (rest.map GamepadSlot.fullStateEvent)).map f) := by
    rcases changes_frames frame rest (rfl : slot.gamepadId = slot.gamepadId) with ⟨_, same⟩ | ⟨_, next⟩
    · rw [same]
      exact List.drop_sublist _ _
    · rw [next, List.map_cons, List.drop_succ_cons]
      exact List.drop_sublist _ _
  refine tail.trans (List.Sublist.map f ?_)
  rcases changes_frames frame rest id with ⟨_, again⟩ | ⟨_, again⟩
  · rw [again]
  · rw [again]
    exact List.sublist_cons_self _ _

/-- `k` reports of the failed call went out, none only when its first write was refused. -/
theorem resent_iff {op : GamepadOp} (checked : op.checked = true) {slot slot' : GamepadSlot}
    (some : changes slot op.events ≠ []) (id : slot'.gamepadId = slot.gamepadId) {k : Nat}
    (few : k ≤ (changes slot op.events).length)
    (left : k = 0 →
      slot' = ((changes slot op.events).take directGamepadBatchFrames).getLast?.getD slot)
    {β : Type} (f : GamepadSlot → β) :
    (((changes slot op.events).map f).drop k).Sublist ((changes slot' op.events).map f) ↔
      k ≠ 0 ∨ FirstSurvives slot op.events := by
  cases op with
  | update u =>
    have events : (GamepadOp.update u).events = [u.event] := rfl
    rw [events] at some few left ⊢
    by_cases begun : k = 0
    · obtain ⟨hidden, dead⟩ := update_hidden u.settles some (left begun)
      rw [hidden, begun, List.map_nil, List.drop_zero, List.sublist_nil, List.map_eq_nil_iff]
      exact ⟨fun none => (some none).elim, fun h => h.elim (fun h => (h rfl).elim)
        fun h => (dead h).elim⟩
    · have all : ((changes slot [u.event]).map f).length ≤ k := by
        have one : (changes slot [u.event]).length ≤ 1 := by
          rw [changes]
          cases u.event slot <;> simp [changes]
        rw [List.length_map]
        omega
      rw [List.drop_eq_nil_of_le all]
      exact ⟨fun _ => .inl begun, fun _ => List.nil_sublist _⟩
  | setFrameRawBatch frames =>
    have events : (GamepadOp.setFrameRawBatch frames).events =
      frames.map GamepadSlot.fullStateEvent := rfl
    rw [events] at some left ⊢
    cases frames with
    | nil => exact (some rfl).elim
    | cons frame rest =>
      by_cases begun : k = 0
      · subst begun
        rw [List.drop_zero, frames_hidden_iff f frame rest id (left rfl)]
        exact ⟨.inr, fun h => h.resolve_left fun h => h rfl⟩
      · exact ⟨fun _ => .inl begun, fun _ => frames_resent f frame rest id begun⟩
  | _ => contradiction

theorem retry_outcome {d : Bool} {i : SlotIdx} {slot : GamepadSlot} {stream : List ControlMessage}
    {s : HidSession} (h : AtSlot d i slot stream s) {op : GamepadOp}
    (checked : op.checked = true) (failed : (op.run.run s).1.isOk = false) :
    (lostReports i slot op s).Sublist (retriedReports op s) ↔
      (d = false ∨ s.transport.transport.onWrite s.transport.transport.writes = .ok) ∨
        FirstSurvives slot op.events := by
  have first := h.checkedOp checked
  have some : changes slot op.events ≠ [] := fun none => by
    rw [first.quiet none] at failed
    contradiction
  obtain ⟨slot', k, at₁, id, few, _, began, left⟩ := first.after
  have again := at₁.recovered.checkedOp checked
  have never : Working (recovered (op.run.run s).2) := ⟨fun _ => rfl, fun _ => rfl⟩
  have returned := again.total never
  obtain ⟨slot₂, k₂, at₂, _, _, whole, _⟩ := again.after
  obtain ⟨rfl, _⟩ := whole returned
  rw [List.take_length] at at₂
  have working₂ := working_of_plans never again.onWrite again.onFlush
  have lost : lostReports i slot op s = (requested i slot op).drop k := by
    have reached₁ := at₁.reached
    rw [lostReports, step, SessionOp.run, reached₁, h.reached]
    simp only [List.length_map, List.length_append, List.length_take]
    rw [Nat.add_sub_cancel_left, Nat.min_eq_left few]
  have retried : retriedReports op s = requested i slot' op := by
    have shown := at₂.delivered working₂
    have reached₁ := at₁.reached
    simp only [retriedReports, step, SessionOp.run]
    rw [shown, reached₁, drop_events, List.map_map]
    rfl
  have taken : k ≠ 0 ↔ d = false ∨
      s.transport.transport.onWrite s.transport.transport.writes = .ok := by
    rw [Ne, began some]
    cases d <;> simp
  rw [lost, retried, requested, requested, resent_iff checked some id few left, taken]

end HidSession

open HidSession in
/-- A checked operation fails, and is called again once the transport works. Every report that was
lost is then sent exactly if the session coalesces, or the first write had been accepted, or the
first report is not the one the retry finds in the slot. -/
theorem lost_reports_resent (t : Transport) (clock : Nat → Nat) (req : OpenRequest)
    (fresh : t.wire = []) (allOrNothing : t.AllOrNothing) (flushOk : t.FlushOk)
    (ops : List SessionOp) (op : GamepadOp) (checked : op.checked = true) (i : SlotIdx)
    (gp : GamepadHid) :
    let s := Run.after step (afterOpen t clock req) ops
    s.closed = false → s.gamepadSlot = some i → s.gamepad = some gp →
    (op.run.run s).1.isOk = false →
      ((lostReports i (gp.slot i) op s).Sublist (retriedReports op s) ↔
        (s.transport.direct = false ∨
          s.transport.transport.onWrite s.transport.transport.writes = .ok) ∨
        FirstSurvives (gp.slot i) op.events) := by
  intro s live slot driver failed
  obtain ⟨d, sent, held, carries⟩ : WholeMessages s :=
    Run.preserved WholeMessages (fun _ op h => wholeMessages_step h op)
      (wholeMessages_opened fresh allOrNothing flushOk) ops
  have at' : AtSlot d i (gp.slot i) (sent ++ held) s :=
    ⟨live, slot, ⟨gp, driver, rfl⟩, sent, held, carries, rfl⟩
  rw [carries.mode]
  exact retry_outcome at' checked failed

def pressedFrame : GamepadFrameRaw := { HidSession.neutralFrame with buttons := 1 }

open HidSession in
/-- Press and release in one refused batch: the retry finds the release in the slot, and sends
both reports. -/
theorem lost_reports_resent_pair :
    let s := afterOpen (.refuses 1) id .gamepadOnlyRealtime
    (lostReports 0 (openedGamepad.slot 0)
      (.setFrameRawBatch [pressedFrame, neutralFrame]) s).Sublist
        (retriedReports (.setFrameRawBatch [pressedFrame, neutralFrame]) s) :=
  (lost_reports_resent (.refuses 1) id .gamepadOnlyRealtime rfl (Transport.refuses_allOrNothing 1)
    (Transport.refuses_flushOk 1) [] (.setFrameRawBatch [pressedFrame, neutralFrame]) rfl 0
    openedGamepad (by decide +kernel) (by decide +kernel) rfl (by decide +kernel)).mpr
      (.inr (.inr (by decide +kernel)))

open HidSession in
/-- A refused frame is called again over a working transport: the call returns `Ok`, and nothing
is sent. -/
theorem retry_sends_nothing :
    let s := afterOpen (.refuses 1) id .gamepadOnlyRealtime
    let failed := step s (.gamepad (.update (.setFrameRaw pressedFrame)))
    ((setFrameRaw pressedFrame).run s).1 = .err (.transport "gone") ∧
      failed.reached = s.reached ∧
      ((setFrameRaw pressedFrame).run failed.recovered).1 = .ok () ∧
      (step failed.recovered (.gamepad (.update (.setFrameRaw pressedFrame)))).delivered =
        s.reached := by
  decide +kernel

end HidConnect
