import HidConnect.Coalesce
import HidConnect.Hid.Keyboard
import HidConnect.Hid.Mouse

/-! The session: the devices opened together over one coalescing writer, from open to close. -/
namespace HidConnect
open Fallible

/-- Durations are in nanoseconds. -/
structure OpenRequest where
  kbd : Bool
  mouse : Bool
  gamepad : Bool
  coalesce : Bool
  coalesceWindow : Nat
  coalesceHardLimit : Nat
  deriving DecidableEq, Repr

namespace OpenRequest

def devices (kbd mouse gamepad : Bool) : OpenRequest :=
  { kbd, mouse, gamepad, coalesce := true, coalesceWindow := defaultWindow
    coalesceHardLimit := defaultHardLimit }

def none : OpenRequest := devices false false false
def all : OpenRequest := devices true true true
def kbdOnly : OpenRequest := devices true false false
def gamepadOnly : OpenRequest := devices false false true

def gamepadOnlyRealtime : OpenRequest :=
  { kbd := false, mouse := false, gamepad := true, coalesce := false, coalesceWindow := 0
    coalesceHardLimit := 0 }

def withCoalesce (r : OpenRequest) (coalesce : Bool) : OpenRequest := { r with coalesce }

end OpenRequest

structure HidSession where
  transport : CoalescingWriter
  kbd : Option KeyboardHid
  mouse : Option MouseHid
  gamepad : Option GamepadHid
  gamepadSlot : Option SlotIdx
  gamepadHidId : Option UInt16
  closed : Bool
  screenW : UInt16
  screenH : UInt16

abbrev Session := Method Error HidSession

def keyboardNotOpen : Error := .sessionLifecycle "keyboard not open"
def mouseNotOpen : Error := .sessionLifecycle "mouse not open"
def gamepadNotOpen : Error := .sessionLifecycle "gamepad not open"
def sessionClosed : Error := .sessionLifecycle "session closed"

def gamepadName : String := "Microsoft X-Box 360 Pad"

namespace HidSession

def onWriter {α : Type} (m : Coalescing α) : Session α :=
  .zoom (·.transport) (fun w s => { s with transport := w }) m

def send (msg : ControlMessage) : Session Unit := onWriter (.discard (CoalescingWriter.push msg))

def flushNow : Session Nat := onWriter CoalescingWriter.flushNow

def stats : Session (Nat × Nat × Nat) := do
  let w := (← .read).transport
  pure (w.pushed, w.written, w.pending.length)

/- Opening. -/

/-- A session before any of its devices is announced. -/
def start (transport : Transport) (clock : Nat → Nat) (req : OpenRequest) : HidSession :=
  { transport :=
      if req.coalesce && req.coalesceWindow ≠ 0 then
        .withLimits transport req.coalesceWindow (max req.coalesceHardLimit 1) clock
      else .makeDirect transport clock
    kbd := none, mouse := none, gamepad := none, gamepadSlot := none, gamepadHidId := none
    closed := false, screenW := 1080, screenH := 1920 }

def openKbd : Session Unit := do
  let msg ← .lift (KeyboardHid.openMessage none)
  send msg
  .update fun s => { s with kbd := some .new }

def openMouse : Session Unit := do
  let msg ← .lift (MouseHid.openMessage none)
  send msg
  .update fun s => { s with mouse := some .new }

def openGamepad : Session Unit := do
  let (opened, g) := (GamepadHid.open hidIdGamepadFirst.toUInt32 (some gamepadName)).run .new
  let (hidId, create) ← .lift opened
  let slotIdx ← .okOr (.sessionLifecycle "invalid gamepad id") (GamepadHid.slotFromHidId hidId)
  send create
  .update fun s =>
    { s with gamepad := some g, gamepadSlot := some slotIdx, gamepadHidId := some hidId }

def openDevices (req : OpenRequest) : Session Unit := do
  if req.kbd then openKbd else pure ()
  if req.mouse then openMouse else pure ()
  if req.gamepad then openGamepad else pure ()

/- Closing. -/

def closeKbd : Session Unit := do
  match (← .read).kbd with
  | some _ =>
    let msg ← .lift KeyboardHid.closeMessage
    send msg
  | none => pure ()

def closeMouse : Session Unit := do
  match (← .read).mouse with
  | some _ =>
    let msg ← .lift MouseHid.closeMessage
    send msg
  | none => pure ()

/-- The slot is freed before its message is sent, and a slot that is already free is no error. -/
def closeGamepad : Session Unit := do
  let s ← .read
  match s.gamepad with
  | some g =>
    let (released, g) :=
      match s.gamepadSlot with
      | some slotIdx => (GamepadHid.closeSlotIdx slotIdx).run g
      | none => (GamepadHid.close hidIdGamepadFirst.toUInt32).run g
    .update fun s => { s with gamepad := some g }
    match released with
    | .ok msg => send msg
    | _ => pure ()
    .update fun s => { s with gamepad := none, gamepadSlot := none, gamepadHidId := none }
  | none => pure ()

/-- Destroy every device that is still open. The session counts as closed only when every
message went out. -/
def tryCloseAll : Session Unit := do
  if (← .read).closed then pure ()
  else do
    closeKbd
    closeMouse
    closeGamepad
    .update fun s => { s with closed := true }

def close : Session Unit := tryCloseAll

/-- `Drop`: close unless closed, then the writer's own `Drop` flushes. Errors are dropped. -/
def drop (s : HidSession) : HidSession :=
  let s := if s.closed then s else (tryCloseAll.run s).2
  (flushNow.run s).2

/-- `open`: the devices in order. On an error the half-built session is dropped. -/
def «open» (transport : Transport) (clock : Nat → Nat) (req : OpenRequest) :
    Result Unit × HidSession :=
  match (openDevices req).run (start transport clock req) with
  | (.ok (), s) => (.ok (), s)
  | (r, s) => (r, s.drop)

/-- `into_inner`: the assertion that the session is closed, then the writer's flush, whose error
is a panic too. -/
def intoInner (s : HidSession) : Result Transport :=
  if s.closed then
    match (CoalescingWriter.intoInner).run s.transport with
    | (.ok t, _) => .ok t
    | _ => .panic
  else .panic

/- Keyboard and mouse. -/

def key (scancode : UInt8) (pressed : Bool) (mods : Modifiers) : Session Unit := do
  let kbd ← .okOr keyboardNotOpen (← .read).kbd
  let (event, kbd) := (KeyboardHid.keyEvent scancode pressed mods).run kbd
  .update fun s => { s with kbd := some kbd }
  let msg ← .lift event
  send msg

def keyTap (scancode : UInt8) (mods : Modifiers) : Session Unit := do
  key scancode true mods
  key scancode false mods

/-- Characters outside the supported set are skipped. -/
def typeText (text : String) : Session Unit :=
  .forEach text.toList fun ch =>
    match Scancode.tryFromChar ch with
    | (some sc, mods) => keyTap sc.toU8 mods
    | (none, _) => pure ()

def typeTextStrict (text : String) : Session Unit :=
  .forEach text.toList fun ch =>
    match Scancode.tryFromChar ch with
    | (some sc, mods) => keyTap sc.toU8 mods
    | (none, _) => .fail (.sessionLifecycle "unsupported char in type_text_strict")

/-- The guard sends the release report again when the chord stops early. -/
def keyChord (mods : Modifiers) (scancode : UInt8) : Session Unit :=
  .rollback (do
    key scancode true mods
    key scancode false mods
    key scancode false .empty)
    (.ignore (key scancode false .empty))

def pushReport (report : HidReport) : Session Unit :=
  onWriter (.discard (CoalescingWriter.pushUhidInput report.hidId report.size report.data.toList))

def mouseMotion (dx dy : Int32) (buttonsState : UInt8) : Session Unit := do
  let _ ← .okOr mouseNotOpen (← .read).mouse
  pushReport (MouseHid.generateInputFromMotion dx dy buttonsState)

def mouseButtons (buttonsState : UInt8) : Session Unit := do
  let _ ← .okOr mouseNotOpen (← .read).mouse
  pushReport (MouseHid.generateInputFromClick buttonsState)

def mouseScroll (hscroll vscroll : Float32) : Session Bool := do
  let mouse ← .okOr mouseNotOpen (← .read).mouse
  let (report, mouse) := mouse.generateInputFromScroll hscroll vscroll
  .update fun s => { s with mouse := some mouse }
  match report with
  | none => pure false
  | some report =>
    pushReport report
    pure true

def mouseFrameBatch (frames : List (Int32 × Int32 × UInt8)) : Session Nat :=
  if frames = [] then pure 0
  else do
    let _ ← .okOr mouseNotOpen (← .read).mouse
    .forEach frames fun (dx, dy, buttons) =>
      pushReport { MouseHid.generateInputFromMotion dx dy buttons with hidId := hidIdMouse }
    pure frames.length

/- Gamepad. -/

def gamepadWithCachedSlot : Session (SlotIdx × GamepadHid) := do
  let s ← .read
  if s.closed then .fail sessionClosed
  else do
    let slotIdx ← .okOr gamepadNotOpen s.gamepadSlot
    let gp ← .okOr gamepadNotOpen s.gamepad
    pure (slotIdx, gp)

def hidIdOfGamepad : Session UInt16 := do
  let s ← .read
  if s.closed then .fail sessionClosed else .okOr gamepadNotOpen s.gamepadHidId

def pushGamepad (hidId : UInt16) (payload : Payload) : Session Unit :=
  onWriter (.discard (CoalescingWriter.pushGamepadInput hidId payload))

/-- A checked update: the slot changes first, and a report goes out only if it did. The answer is
whether there was one. -/
def checkedUpdate (event : GamepadSlot → Option GamepadSlot) : Session Bool := do
  let (slotIdx, gp) ← gamepadWithCachedSlot
  let (msg, gp) := gp.slotEvent slotIdx event
  .update fun s => { s with gamepad := some gp }
  match msg with
  | some (hidId, payload) =>
    pushGamepad hidId payload
    pure true
  | none => pure false

def setStickRaw (axis : GamepadAxis) (raw : Int16) : Session Unit :=
  .discard (checkedUpdate (GamepadSlot.axisEvent axis raw))

def setStick (axis : GamepadAxis) (value : Float32) : Session Unit :=
  setStickRaw axis (clamp value (-1) 1 * 32767).toInt16

def setButtons (buttons : UInt32) : Session Unit :=
  .discard (checkedUpdate (GamepadSlot.buttonsEvent buttons))

def setFrameRaw (frame : GamepadFrameRaw) : Session Unit :=
  .discard (checkedUpdate (GamepadSlot.fullStateEvent frame))

def setLeftStickRaw (x y : Int16) : Session Unit :=
  .discard (checkedUpdate (GamepadSlot.leftStick x y))

def setRightStickRaw (x y : Int16) : Session Unit :=
  .discard (checkedUpdate (GamepadSlot.rightStick x y))

def setTriggersRaw (left right : Int16) : Session Unit :=
  .discard (checkedUpdate (GamepadSlot.triggers left right))

def setSticksRaw (leftX leftY rightX rightY leftTrigger rightTrigger : Int16) : Session Unit :=
  .discard (checkedUpdate (GamepadSlot.sticks leftX leftY rightX rightY leftTrigger rightTrigger))

def setButton (btn : GamepadButton) (pressed : Bool) : Session Unit :=
  .discard (checkedUpdate (GamepadSlot.buttonEvent btn pressed))

def setFrameRawUnchecked (frame : GamepadFrameRaw) : Session Unit := do
  let hidId ← hidIdOfGamepad
  onWriter (.discard (CoalescingWriter.pushGamepadInputFields hidId frame))

def setFrameRawUncheckedFrame (frame : GamepadFrameRaw) : Session Unit := do
  let hidId ← hidIdOfGamepad
  onWriter (.discard (CoalescingWriter.pushGamepadInputFields hidId frame))

def setFrameRawPacked (payload : Payload) : Session Unit := do
  let hidId ← hidIdOfGamepad
  pushGamepad hidId payload

def injectRawGamepadReport (payload : List UInt8) : Session Unit :=
  if payload = [] then .fail (.sessionLifecycle "raw gamepad report is empty")
  else if payload.length > hidMaxSize then
    .fail (.controlMessageTooLarge payload.length hidMaxSize)
  else do
    let hidId ← hidIdOfGamepad
    onWriter (.discard (CoalescingWriter.pushUhidInput hidId payload.length.toUInt16 payload))

def pushGamepadBatch (hidId : UInt16) (batch : List Payload) : Session Unit :=
  onWriter (.discard (CoalescingWriter.pushGamepadInputBatch hidId batch))

/-- The loop of a checked batch: changed frames are gathered, and every full chunk is pushed. -/
def checkedBatch (slotIdx : SlotIdx) : List GamepadFrameRaw → GamepadHid → List Payload →
    Option UInt16 → Nat → Session Nat
  | [], _, batch, batchId, sent => do
    match batchId with
    | some hidId => if batch = [] then pure () else pushGamepadBatch hidId batch
    | none => pure ()
    pure sent
  | frame :: rest, gp, batch, batchId, sent => do
    let (msg, gp) := gp.slotEvent slotIdx (GamepadSlot.fullStateEvent frame)
    .update fun s => { s with gamepad := some gp }
    match msg with
    | none => checkedBatch slotIdx rest gp batch batchId sent
    | some (hidId, payload) =>
      let hidId := batchId.getD hidId
      let batch := batch ++ [payload]
      if batch.length = directGamepadBatchFrames then do
        pushGamepadBatch hidId batch
        checkedBatch slotIdx rest gp [] (some hidId) (sent + 1)
      else checkedBatch slotIdx rest gp batch (some hidId) (sent + 1)

def setFrameRawBatch : List GamepadFrameRaw → Session Nat
  | [] => pure 0
  | [frame] => do
    if (← checkedUpdate (GamepadSlot.fullStateEvent frame)) then pure 1 else pure 0
  | frames => do
    let (slotIdx, gp) ← gamepadWithCachedSlot
    checkedBatch slotIdx frames gp [] none 0

def setFrameRawBatchUnchecked : List GamepadFrameRaw → Session Nat
  | [] => pure 0
  | [frame] => do
    setFrameRawUnchecked frame
    pure 1
  | frames => do
    let hidId ← hidIdOfGamepad
    onWriter (.discard (CoalescingWriter.pushGamepadInputBatchFromFields hidId frames))
    pure frames.length

def setFrameRawPackedBatch : List Payload → Session Nat
  | [] => pure 0
  | [payload] => do
    setFrameRawPacked payload
    pure 1
  | frames => do
    let hidId ← hidIdOfGamepad
    pushGamepadBatch hidId frames
    pure frames.length

def setScreenSize (w h : UInt16) : Session Unit :=
  .update fun s => { s with screenW := w, screenH := h }

/-- `keyboard`: the driver itself, edited by the caller; not opened is a panic. -/
def editKeyboard (edit : KeyboardHid → KeyboardHid) : Session Unit := do
  match (← .read).kbd with
  | some kbd => .update fun s => { s with kbd := some (edit kbd) }
  | none => .crash

def editMouse (edit : MouseHid → MouseHid) : Session Unit := do
  match (← .read).mouse with
  | some mouse => .update fun s => { s with mouse := some (edit mouse) }
  | none => .crash

def editGamepad (edit : GamepadHid → GamepadHid) : Session Unit := do
  match (← .read).gamepad with
  | some gamepad => .update fun s => { s with gamepad := some (edit gamepad) }
  | none => .crash

end HidSession

end HidConnect
