import HidConnect.Session.Gamepad

/-! What the device has been shown of the gamepad, and by which form: the checked forms compare
with the last report of a checked form, whatever was sent around them. -/
namespace HidConnect
open Fallible

namespace HidSession

/-- What the device has read once the writer is flushed. -/
def delivered (s : HidSession) : List DeviceEvent :=
  readEvents (flushNow.run s).2.transport.transport.wire

/-- The reports an operation adds to the wire. -/
def newReports (s : HidSession) (op : GamepadOp) : List DeviceEvent :=
  (step s (.gamepad op)).delivered.drop s.delivered.length

/-- A session and its reports so far, each with whether a checked form sent it. -/
abbrev Logged := HidSession × List (Bool × DeviceEvent)

def logStep (x : Logged) (op : GamepadOp) : Logged :=
  (step x.1 (.gamepad op), x.2 ++ (newReports x.1 op).map fun e => (op.checked, e))

def byChecked (log : List (Bool × DeviceEvent)) : List DeviceEvent :=
  (log.filter (·.1)).map (·.2)

def slotInput (payload : Payload) : DeviceEvent := .input hidIdGamepadFirst payload.toList

def neutralFrame : GamepadFrameRaw :=
  { buttons := 0, leftX := 0, leftY := 0, rightX := 0, rightY := 0, leftTrigger := 0
    rightTrigger := 0 }

theorem delivered_of_carries {d : Bool} {s : HidSession} {sent held : List ControlMessage}
    (carries : CoalescingWriter.Carries d s.transport sent held) (working : Working s) :
    s.delivered = (sent ++ held).map eventOfMessage := by
  obtain ⟨effect, flushed⟩ := CoalescingWriter.flushNow_effect carries
  have after := flushed (effect.total working (List.forall_mem_nil _))
  have read := readEvents_encodeAll after.sentOk []
  rw [List.append_nil, ← after.wire, readEvents_nil, List.append_nil] at read
  exact read

theorem AtSlot.delivered {d : Bool} {i : SlotIdx} {slot : GamepadSlot}
    {stream : List ControlMessage} {s : HidSession} (h : AtSlot d i slot stream s)
    (working : Working s) : s.delivered = stream.map eventOfMessage := by
  obtain ⟨sent, held, carries, rfl⟩ := h.carries
  exact delivered_of_carries carries working

theorem event_slotReport (slot : GamepadSlot) :
    eventOfMessage (slotReport 0 slot) = slotInput slot.toPayload := by
  have whole : (slot.toPayload.toList).take 15 = slot.toPayload.toList :=
    List.take_of_length_le (Nat.le_of_eq slot.toPayload.length_toList)
  change DeviceEvent.input _ ((slot.toPayload.toList).take 15) = _
  rw [whole]
  rfl

theorem byChecked_append (log : List (Bool × DeviceEvent)) (checked : Bool)
    (events : List DeviceEvent) :
    byChecked (log ++ events.map fun e => (checked, e)) =
      byChecked log ++ if checked then events else [] := by
  have tagged : byChecked (events.map fun e => (checked, e)) = if checked then events else [] := by
    induction events with
    | nil => cases checked <;> rfl
    | cons e rest ih => cases checked <;> simp_all [byChecked]
  rw [byChecked, List.filter_append, List.map_append, ← byChecked, ← byChecked, tagged]

/-- The log is what the device was shown since the opening, and the slot holds the last report of
a checked form. -/
structure Shadowed (opened : List DeviceEvent) (x : Logged) : Prop where
  working : Working x.1
  hidId : x.1.gamepadHidId = some hidIdGamepadFirst
  slot : ∃ d slot stream, AtSlot d 0 slot stream x.1 ∧
    opened ++ x.2.map (·.2) = stream.map eventOfMessage ∧
    ((byChecked x.2).getLast? = some (slotInput slot.toPayload) ∨
      byChecked x.2 = [] ∧ slot.toPayload = neutralFrame.pack)

theorem drop_events (before more : List ControlMessage) :
    ((before ++ more).map eventOfMessage).drop (before.map eventOfMessage).length =
      more.map eventOfMessage := by
  rw [List.map_append, List.drop_left]

theorem newReports_eq {d : Bool} {slot slot' : GamepadSlot} {stream more : List ControlMessage}
    {s : HidSession} {op : GamepadOp} (before : AtSlot d 0 slot stream s) (working : Working s)
    (after : AtSlot d 0 slot' (stream ++ more) (step s (.gamepad op)))
    (working' : Working (step s (.gamepad op))) :
    newReports s op = more.map eventOfMessage := by
  rw [newReports, before.delivered working, after.delivered working', drop_events]

theorem shadowed_step {opened : List DeviceEvent} {x : Logged} (h : Shadowed opened x)
    (op : GamepadOp) : Shadowed opened (logStep x op) := by
  obtain ⟨working, hidId, d, slot, stream, at', wire, shadow⟩ := h
  have hidId' : (logStep x op).1.gamepadHidId = some hidIdGamepadFirst :=
    ((keeps_gamepadOp (g := anyReport) op) x.1).same.hidId.trans hidId
  cases checked : op.checked with
  | false =>
    obtain ⟨⟨more, after⟩, onWrite, onFlush⟩ := at'.uncheckedOp hidId checked
    have working' : Working (logStep x op).1 := working_of_plans working onWrite onFlush
    refine ⟨working', hidId', d, slot, stream ++ more, after, ?_, ?_⟩
    · simp only [logStep, newReports_eq at' working after working', List.map_append, ← wire,
        List.map_map, Function.comp_def, List.append_assoc]
    · rw [logStep, checked, byChecked_append, if_neg Bool.false_ne_true, List.append_nil]
      exact shadow
  | true =>
    obtain ⟨⟨slot', k, after, _, _, whole, _⟩, onWrite, onFlush, total, _⟩ := at'.checkedOp checked
    have working' : Working (logStep x op).1 := working_of_plans working onWrite onFlush
    obtain ⟨rfl, last⟩ := whole (total working)
    rw [List.take_length] at after
    refine ⟨working', hidId', d, slot', _, after, ?_, ?_⟩
    · simp only [logStep, newReports_eq at' working after working', List.map_append, ← wire,
        List.map_map, Function.comp_def, List.append_assoc]
    · rw [logStep, checked, byChecked_append, if_pos rfl, newReports_eq at' working after working',
        List.getLast?_append]
      cases hn : (changes slot op.events).getLast? with
      | none =>
        rw [hn] at last
        obtain rfl : slot' = slot := last
        rw [List.getLast?_eq_none_iff.mp hn]
        simpa using shadow
      | some next =>
        rw [hn] at last
        obtain rfl : slot' = next := last
        left
        simp only [List.getLast?_map, hn, Option.map_some, event_slotReport, Option.some_or]

theorem shadowed_opened (t : Transport) (clock : Nat → Nat) (req : OpenRequest)
    (fresh : t.wire = []) (never : t.NeverFails) (wanted : req.gamepad = true) :
    Shadowed (afterOpen t clock req).delivered (afterOpen t clock req, []) := by
  obtain ⟨_, working, d, w, state, carries⟩ := opened_working clock req fresh never
  have gamepad : (adoptAll (start t clock req) req.requested).gamepad = some openedGamepad ∧
      (adoptAll (start t clock req) req.requested).gamepadSlot = some 0 ∧
      (adoptAll (start t clock req) req.requested).gamepadHidId = some hidIdGamepadFirst := by
    unfold OpenRequest.requested
    rw [wanted]
    cases req.kbd <;> cases req.mouse <;> exact ⟨rfl, rfl, rfl⟩
  have at' : AtSlot d 0 (openedGamepad.slot 0)
      (req.requested.map Device.create) (afterOpen t clock req) := by
    rw [state]
    exact ⟨(adoptAll_closed _ _).trans rfl, gamepad.2.1, ⟨_, gamepad.1, rfl⟩,
      ⟨_, [], carries, List.append_nil _⟩⟩
  refine ⟨working, ?_, d, _, _, at', ?_, .inr ⟨rfl, ?_⟩⟩
  · rw [state]
    exact gamepad.2.2
  · rw [at'.delivered working]
    exact List.append_nil _
  · rw [← GamepadSlot.toPayload_holdFrame neutralFrame (openedGamepad.slot 0)]
    decide +kernel

end HidSession

/-- Over a transport that never fails, whatever the forms were mixed, a checked frame that returns
`Ok` is the last report that a checked form put on the wire, or no checked form has reported and
the frame is the neutral one. -/
theorem checked_frame_is_shadowed (t : Transport) (clock : Nat → Nat) (req : OpenRequest)
    (fresh : t.wire = []) (never : t.NeverFails) (wanted : req.gamepad = true)
    (ops : List GamepadOp) (frame : GamepadFrameRaw) :
    let opened := HidSession.afterOpen t clock req
    let s := (Run.after HidSession.logStep (opened, []) ops).1
    let last := Run.after HidSession.logStep (opened, [])
      (ops ++ [.update (.setFrameRaw frame)])
    ((HidSession.setFrameRaw frame).run s).1 = .ok () ∧
      last.1.delivered = opened.delivered ++ last.2.map (·.2) ∧
      ((HidSession.byChecked last.2).getLast? =
          some (.input hidIdGamepadFirst frame.pack.toList) ∨
        HidSession.byChecked last.2 = [] ∧ frame.pack = HidSession.neutralFrame.pack) := by
  intro opened s last
  have before : HidSession.Shadowed opened.delivered (Run.after HidSession.logStep (opened, []) ops) :=
    Run.preserved (HidSession.Shadowed opened.delivered) (fun _ op h => HidSession.shadowed_step h op)
      (HidSession.shadowed_opened t clock req fresh never wanted) ops
  have split : last = HidSession.logStep (Run.after HidSession.logStep (opened, []) ops)
      (.update (.setFrameRaw frame)) := Run.after_append _ _ _
  have after := HidSession.shadowed_step before (.update (.setFrameRaw frame))
  rw [← split] at after
  obtain ⟨d, slot, stream, at', _⟩ := before.slot
  have checked : (GamepadOp.update (.setFrameRaw frame)).checked = true := rfl
  have updated := at'.checkedOp checked
  have returned := updated.total before.working
  obtain ⟨d', slot', stream', at'', wire, shadow⟩ := after.slot
  obtain ⟨reached, k, at₁, _, _, whole, _⟩ := updated.after
  have held : slot'.toPayload = frame.pack := by
    rw [split] at at''
    have events : (GamepadOp.update (.setFrameRaw frame)).events =
      [GamepadSlot.fullStateEvent frame] := rfl
    rw [at''.slot_eq at₁, (whole returned).2, events]
    cases he : GamepadSlot.fullStateEvent frame slot with
    | none =>
      have same := GamepadSlot.changed_eq_none.mp he
      rw [changes_same he, changes, same]
      exact GamepadSlot.toPayload_holdFrame frame slot
    | some next =>
      obtain rfl := GamepadSlot.changed_eq_some he
      rw [changes_next he, changes]
      exact GamepadSlot.toPayload_holdFrame frame slot
  rw [held] at shadow
  refine ⟨?_, ?_, shadow⟩
  · obtain ⟨u, hu⟩ := Outcome.isOk_iff.mp returned
    exact hu
  · rw [wire, at''.delivered after.working]

/-- A frame, an unchecked frame after it, and the first frame again: the second of the equal
frames is suppressed, and is the last report of a checked form all the same. -/
theorem checked_frame_is_shadowed_again :
    let pressed : GamepadFrameRaw := { HidSession.neutralFrame with buttons := 1 }
    let ops : List GamepadOp :=
      [.update (.setFrameRaw pressed), .setFrameRawUnchecked HidSession.neutralFrame]
    let opened := HidSession.afterOpen .steady id .gamepadOnlyRealtime
    let s := (Run.after HidSession.logStep (opened, []) ops).1
    let last := Run.after HidSession.logStep (opened, []) (ops ++ [.update (.setFrameRaw pressed)])
    ((HidSession.setFrameRaw pressed).run s).1 = .ok () ∧
      last.1.delivered = opened.delivered ++ last.2.map (·.2) ∧
      ((HidSession.byChecked last.2).getLast? =
          some (.input hidIdGamepadFirst pressed.pack.toList) ∨
        HidSession.byChecked last.2 = [] ∧ pressed.pack = HidSession.neutralFrame.pack) :=
  checked_frame_is_shadowed .steady id .gamepadOnlyRealtime rfl Transport.steady_neverFails rfl
    [.update (.setFrameRaw { HidSession.neutralFrame with buttons := 1 }),
      .setFrameRawUnchecked HidSession.neutralFrame]
    { HidSession.neutralFrame with buttons := 1 }

/-- After an unchecked frame the device holds another state than the checked one it is told of. -/
theorem unchecked_frame_stays :
    let pressed : GamepadFrameRaw := { HidSession.neutralFrame with buttons := 1 }
    let s := Run.after HidSession.step (HidSession.afterOpen .steady id .gamepadOnlyRealtime)
      [.gamepad (.update (.setFrameRaw pressed)),
        .gamepad (.setFrameRawUnchecked HidSession.neutralFrame)]
    let s' := HidSession.step s (.gamepad (.update (.setFrameRaw pressed)))
    ((HidSession.setFrameRaw pressed).run s).1 = .ok () ∧
      s'.delivered.getLast? = some (.input hidIdGamepadFirst HidSession.neutralFrame.pack.toList) ∧
      HidSession.neutralFrame.pack ≠ pressed.pack := by
  decide +kernel

end HidConnect
