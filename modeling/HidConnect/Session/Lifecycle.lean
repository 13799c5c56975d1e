import HidConnect.Coalesce.Critical
import HidConnect.Session

/-! Opening and closing as announcements: which messages a session sends to its device in what
order, and what is left of the session when one of them is refused. -/
namespace HidConnect
open Fallible

inductive Device where
  | keyboard | mouse | gamepad
  deriving DecidableEq

namespace Device

def hidId : Device → UInt16
  | keyboard => hidIdKeyboard
  | mouse => hidIdMouse
  | gamepad => hidIdGamepadFirst

def create : Device → ControlMessage
  | keyboard => .uhidCreate {
      id := hidIdKeyboard, vendorId := 0, productId := 0, name := none
      reportDesc := keyboardReportDesc }
  | mouse => .uhidCreate {
      id := hidIdMouse, vendorId := 0, productId := 0, name := none, reportDesc := mouseReportDesc }
  | gamepad => GamepadHid.buildCreate hidIdGamepadFirst (some gamepadName)

def destroy (d : Device) : ControlMessage := .uhidDestroy { id := d.hidId }

theorem destroy_serializes (id : UInt16) : (ControlMessage.uhidDestroy { id }).Serializes := by
  have payload : ((ControlMessage.uhidDestroy { id }).serializePayload).run [] =
      (.ok (), Bytes.toBe 2 id.toNat) := rfl
  rw [ControlMessage.Serializes, ControlMessage.serialize_payload payload
    (by simp [controlMsgMaxSize])]
  rfl

theorem create_serializes (d : Device) : d.create.Serializes := by
  rw [ControlMessage.Serializes]
  cases d <;> decide +kernel

theorem allCritical_create (ds : List Device) :
    CoalescingWriter.AllCritical (ds.map create) := by
  intro msg hm
  obtain ⟨d, _, rfl⟩ := List.mem_map.mp hm
  exact ⟨d.create_serializes, by cases d <;> rfl⟩

theorem allCritical_destroy (ds : List Device) :
    CoalescingWriter.AllCritical (ds.map destroy) := by
  intro msg hm
  obtain ⟨d, _, rfl⟩ := List.mem_map.mp hm
  exact ⟨destroy_serializes _, rfl⟩

theorem event_create (d : Device) : eventOfMessage d.create = .create d.hidId := by
  cases d <;> rfl

theorem event_destroy (d : Device) : eventOfMessage d.destroy = .destroy d.hidId := rfl

end Device

def OpenRequest.requested (r : OpenRequest) : List Device :=
  (if r.kbd then [.keyboard] else []) ++ (if r.mouse then [.mouse] else []) ++
    (if r.gamepad then [.gamepad] else [])

namespace HidSession

def sendAll (msgs : List ControlMessage) : Session Unit := onWriter (CoalescingWriter.pushAll msgs)

theorem sendAll_run (msgs : List ControlMessage) (s : HidSession) :
    (sendAll msgs).run s = (((CoalescingWriter.pushAll msgs).run s.transport).1,
      { s with transport := ((CoalescingWriter.pushAll msgs).run s.transport).2 }) := rfl

theorem send_eq_sendAll (msg : ControlMessage) (s : HidSession) :
    (send msg).run s = (sendAll [msg]).run s := by
  rw [sendAll_run, CoalescingWriter.pushAll, Method.forEach_cons, Method.run_bind]
  rcases h : (Method.discard (CoalescingWriter.push msg)).run s.transport with ⟨r, w⟩
  rw [send, onWriter, Method.run_zoom, h]
  cases r <;> rfl

/- Closing. -/

/-- What frees the gamepad: its message, unless the slot is already free, and the driver after. -/
def released (s : HidSession) (g : GamepadHid) : Result ControlMessage × GamepadHid :=
  match s.gamepadSlot with
  | some slotIdx => (GamepadHid.closeSlotIdx slotIdx).run g
  | none => (GamepadHid.close hidIdGamepadFirst.toUInt32).run g

def releaseMessage (s : HidSession) : List ControlMessage :=
  match s.gamepad with
  | some g =>
    match (s.released g).1 with
    | .ok msg => [msg]
    | _ => []
  | none => []

def inputDevices (s : HidSession) : List Device :=
  (if s.kbd.isSome then [.keyboard] else []) ++ (if s.mouse.isSome then [.mouse] else [])

def farewells (s : HidSession) : List ControlMessage :=
  s.inputDevices.map Device.destroy ++ s.releaseMessage

/-- The session while its gamepad's message is on the way: the slot is free already. -/
def releasing (s : HidSession) : HidSession :=
  { s with gamepad := s.gamepad.map fun g => (s.released g).2 }

def closedDown (s : HidSession) : HidSession :=
  { s with
    gamepad := none
    gamepadSlot := if s.gamepad.isSome then none else s.gamepadSlot
    gamepadHidId := if s.gamepad.isSome then none else s.gamepadHidId
    closed := true }

theorem pushAll_append (xs ys : List ControlMessage) :
    CoalescingWriter.pushAll (xs ++ ys) =
      CoalescingWriter.pushAll xs >>= fun _ => CoalescingWriter.pushAll ys :=
  Method.forEach_append xs ys _

theorem closeKbd_run (s : HidSession) :
    closeKbd.run s = (sendAll (if s.kbd.isSome then [Device.destroy .keyboard] else [])).run s := by
  rw [closeKbd, Method.run_read_bind]
  cases s.kbd with
  | none => rfl
  | some k => exact send_eq_sendAll _ s

theorem closeMouse_run (s : HidSession) :
    closeMouse.run s = (sendAll (if s.mouse.isSome then [Device.destroy .mouse] else [])).run s := by
  rw [closeMouse, Method.run_read_bind]
  cases s.mouse with
  | none => rfl
  | some m => exact send_eq_sendAll _ s

theorem closeInputs_run (s : HidSession) :
    (closeKbd >>= fun _ => closeMouse).run s =
      (sendAll (s.inputDevices.map Device.destroy)).run s := by
  have both : s.inputDevices.map Device.destroy =
      (if s.kbd.isSome then [Device.destroy .keyboard] else []) ++
        (if s.mouse.isSome then [Device.destroy .mouse] else []) := by
    rw [inputDevices, List.map_append]
    congr 1 <;> split <;> rfl
  rw [Method.run_bind, closeKbd_run, both, sendAll_run, sendAll_run, pushAll_append,
    Method.run_bind]
  rcases (CoalescingWriter.pushAll _).run s.transport with ⟨r, w⟩
  cases r with
  | ok u => exact closeMouse_run { s with transport := w }
  | err e => rfl
  | panic => rfl

theorem closeGamepad_send (s : HidSession) (msg : ControlMessage) :
    (do
      send msg
      .update fun s => { s with gamepad := none, gamepadSlot := none, gamepadHidId := none }
      .update fun s => { s with closed := true } : Session Unit).run s =
      match (CoalescingWriter.pushAll [msg]).run s.transport with
      | (.ok (), w) =>
        (.ok (), { s with
          transport := w, gamepad := none, gamepadSlot := none, gamepadHidId := none
          closed := true })
      | (r, w) => (r, { s with transport := w }) := by
  rw [Method.run_bind, send_eq_sendAll, sendAll_run]
  rcases (CoalescingWriter.pushAll [msg]).run s.transport with ⟨r, w⟩
  cases r <;> rfl

theorem closeGamepad_after (s : HidSession) (freed : Result ControlMessage × GamepadHid) :
    ((do
      .update fun s => { s with gamepad := some freed.2 }
      match freed.1 with
      | .ok msg => send msg
      | _ => pure ()
      .update fun s => { s with gamepad := none, gamepadSlot := none, gamepadHidId := none } :
        Session Unit) >>= fun _ => .update fun s => { s with closed := true }).run s =
      match (CoalescingWriter.pushAll (match freed.1 with
        | .ok msg => [msg]
        | _ => [])).run s.transport with
      | (.ok (), w) =>
        (.ok (), { s with
          transport := w, gamepad := none, gamepadSlot := none, gamepadHidId := none
          closed := true })
      | (r, w) => (r, { s with transport := w, gamepad := some freed.2 }) := by
  obtain ⟨r, g⟩ := freed
  cases r with
  | ok msg =>
    have sent := closeGamepad_send { s with gamepad := some g } msg
    rw [← Method.bind_assoc] at sent
    exact sent
  | err e => rfl
  | panic => rfl

theorem closeGamepad_run (s : HidSession) :
    (do
      closeGamepad
      .update fun s => { s with closed := true } : Session Unit).run s =
      match (CoalescingWriter.pushAll s.releaseMessage).run s.transport with
      | (.ok (), w) => (.ok (), { s.closedDown with transport := w })
      | (r, w) => (r, { s.releasing with transport := w }) := by
  rw [closeGamepad, Method.bind_assoc, Method.run_read_bind]
  unfold releaseMessage closedDown releasing
  cases hg : s.gamepad with
  | none => simp [CoalescingWriter.pushAll, hg]
  | some g => exact closeGamepad_after s (s.released g)

theorem tryCloseAll_run {s : HidSession} (live : s.closed = false) :
    tryCloseAll.run s =
      match (CoalescingWriter.pushAll (s.inputDevices.map Device.destroy)).run s.transport with
      | (.ok (), w) =>
        match (CoalescingWriter.pushAll s.releaseMessage).run w with
        | (.ok (), w') => (.ok (), { s.closedDown with transport := w' })
        | (r, w') => (r, { s.releasing with transport := w' })
      | (r, w) => (r, { s with transport := w }) := by
  have split : tryCloseAll.run s = ((closeKbd >>= fun _ => closeMouse) >>= fun _ => do
      closeGamepad
      .update fun s => { s with closed := true } : Session Unit).run s := by
    rw [Method.bind_assoc, tryCloseAll, Method.run_read_bind, live]
    rfl
  rw [split, Method.run_bind, closeInputs_run, sendAll_run]
  rcases (CoalescingWriter.pushAll _).run s.transport with ⟨r, w⟩
  cases r with
  | ok u => exact closeGamepad_run { s with transport := w }
  | err e => rfl
  | panic => rfl

theorem released_destroy {s : HidSession} {g : GamepadHid} {msg : ControlMessage}
    (h : (s.released g).1 = .ok msg) : ∃ id, msg = .uhidDestroy { id } := by
  unfold released at h
  cases hs : s.gamepadSlot with
  | some slotIdx =>
    simp only [hs, GamepadHid.closeSlotIdx, Method.run_read_bind] at h
    split at h
    · contradiction
    · exact ⟨_, (Outcome.ok.inj h).symm⟩
  | none =>
    have known : hidIdGamepadFirst.toUInt32 ≠ gamepadIdInvalid := by decide
    simp only [hs, GamepadHid.close, if_neg known, Method.run_read_bind] at h
    cases hf : g.findSlot hidIdGamepadFirst.toUInt32 with
    | none =>
      rw [hf] at h
      contradiction
    | some slotIdx =>
      rw [hf] at h
      exact ⟨_, (Outcome.ok.inj h).symm⟩

theorem allCritical_farewells (s : HidSession) : CoalescingWriter.AllCritical s.farewells := by
  intro msg hm
  rcases List.mem_append.mp hm with hm | hm
  · exact Device.allCritical_destroy s.inputDevices msg hm
  · unfold releaseMessage at hm
    split at hm
    · split at hm
      · rename_i m hr
        obtain rfl := List.mem_singleton.mp hm
        obtain ⟨id, rfl⟩ := released_destroy hr
        exact ⟨Device.destroy_serializes id, rfl⟩
      · cases hm
    · cases hm

theorem tryCloseAll_outcome {s : HidSession} (live : s.closed = false) :
    (tryCloseAll.run s).1 = ((CoalescingWriter.pushAll s.farewells).run s.transport).1 ∧
    (tryCloseAll.run s).2.transport =
      ((CoalescingWriter.pushAll s.farewells).run s.transport).2 ∧
    (tryCloseAll.run s).2.closed = (tryCloseAll.run s).1.isOk := by
  rw [tryCloseAll_run live, farewells, pushAll_append, Method.run_bind]
  rcases (CoalescingWriter.pushAll (s.inputDevices.map Device.destroy)).run s.transport with ⟨r, w⟩
  cases r with
  | err e => exact ⟨rfl, rfl, live⟩
  | panic => exact ⟨rfl, rfl, live⟩
  | ok u =>
    rcases h : (CoalescingWriter.pushAll s.releaseMessage).run w with ⟨r, w'⟩
    cases r with
    | ok u => simp [h, closedDown]
    | err e => simp [h, releasing, live]
    | panic => simp [h, releasing, live]

/- Opening. -/

def openDevice : Device → Session Unit
  | .keyboard => openKbd
  | .mouse => openMouse
  | .gamepad => openGamepad

def openedGamepad : GamepadHid :=
  ((GamepadHid.open hidIdGamepadFirst.toUInt32 (some gamepadName)).run .new).2

def adopt (s : HidSession) : Device → HidSession
  | .keyboard => { s with kbd := some .new }
  | .mouse => { s with mouse := some .new }
  | .gamepad =>
    { s with
      gamepad := some openedGamepad, gamepadSlot := some 0
      gamepadHidId := some hidIdGamepadFirst }

def adoptAll (s : HidSession) (ds : List Device) : HidSession := ds.foldl adopt s

theorem adoptAll_transport (ds : List Device) (s : HidSession) (w : CoalescingWriter) :
    adoptAll { s with transport := w } ds = { adoptAll s ds with transport := w } := by
  induction ds generalizing s with
  | nil => rfl
  | cons d ds ih =>
    have one : adopt { s with transport := w } d = { adopt s d with transport := w } := by
      cases d <;> rfl
    change adoptAll (adopt { s with transport := w } d) ds = _
    rw [one, ih]
    rfl

theorem openDevices_eq (req : OpenRequest) :
    openDevices req = Method.forEach req.requested openDevice := by
  unfold openDevices OpenRequest.requested
  cases req.kbd <;> cases req.mouse <;> cases req.gamepad <;> simp [openDevice]

theorem openDevice_run (d : Device) (s : HidSession) :
    (openDevice d).run s =
      match (CoalescingWriter.push d.create).run s.transport with
      | (.ok _, w) => (.ok (), { adopt s d with transport := w })
      | (.err e, w) => (.err e, { s with transport := w })
      | (.panic, w) => (.panic, { s with transport := w }) := by
  have sent (msg : ControlMessage) (f : HidSession → HidSession)
      (carried : ∀ s w, f { s with transport := w } = { f s with transport := w }) :
      (send msg >>= fun _ => .update f : Session Unit).run s =
        match (CoalescingWriter.push msg).run s.transport with
        | (.ok _, w) => (.ok (), { f s with transport := w })
        | (.err e, w) => (.err e, { s with transport := w })
        | (.panic, w) => (.panic, { s with transport := w }) := by
    rw [Method.run_bind, send, onWriter, Method.run_zoom, Method.run_discard]
    rcases (CoalescingWriter.push msg).run s.transport with ⟨r, w⟩
    cases r with
    | ok reason => exact congrArg _ (carried s w)
    | err e => rfl
    | panic => rfl
  cases d with
  | keyboard => exact sent _ _ fun _ _ => rfl
  | mouse => exact sent _ _ fun _ _ => rfl
  | gamepad => exact sent _ _ fun _ _ => rfl

theorem openAll_run (ds : List Device) (s : HidSession) :
    (Method.forEach ds openDevice).run s =
      (((CoalescingWriter.pushAll (ds.map Device.create)).run s.transport).1,
        { adoptAll s (ds.take (CoalescingWriter.acceptedCount (ds.map Device.create) s.transport))
          with transport :=
            ((CoalescingWriter.pushAll (ds.map Device.create)).run s.transport).2 }) := by
  induction ds generalizing s with
  | nil => rfl
  | cons d ds ih =>
    rw [Method.forEach_cons, Method.run_bind, openDevice_run, List.map_cons,
      CoalescingWriter.acceptedCount]
    rcases h : (CoalescingWriter.push d.create).run s.transport with ⟨r, w⟩
    cases r with
    | ok reason =>
      rw [CoalescingWriter.pushAll_cons_accepted h]
      simp only [ih, List.take_succ_cons, adoptAll_transport]
      rfl
    | err e =>
      rw [CoalescingWriter.pushAll_cons_refused h]
      rfl
    | panic =>
      have all : (CoalescingWriter.pushAll (d.create :: ds.map Device.create)).run s.transport =
          (.panic, w) := by
        refine Method.run_bind_panic ?_
        rw [Method.run_discard, h]
        rfl
      rw [all]
      rfl

end HidSession

end HidConnect
