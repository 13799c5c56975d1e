import HidConnect.Session.Intents

/-! The commands a client sends to the dispatcher thread, and what the dispatcher makes of each. -/
namespace HidConnect
open Fallible

def touchBatchFrames : Nat := 24
def keyboardBatchFrames : Nat := 32
def androidKeyBatchFrames : Nat := 32
def mouseBatchFrames : Nat := 32
def scrollBatchFrames : Nat := 32

structure TouchFrame where
  action : UInt8
  pointerId : UInt64
  x : Int32
  y : Int32
  pressure : Float32

structure KeyboardFrame where
  scancode : UInt8
  pressed : Bool
  mods : Modifiers

structure AndroidKeyFrame where
  action : UInt8
  keycode : UInt32
  repeats : UInt32
  metastate : UInt32

structure MouseFrame where
  dx : Int32
  dy : Int32
  buttons : UInt8

structure ScrollFrame where
  x : Int32
  y : Int32
  hscroll : Float32
  vscroll : Float32
  buttons : UInt32

/-- The slot a waiter blocks on, by its identity. -/
abbrev FlushSlot := Nat

inductive HidCommand where
  | typeText (s : String)
  | typeTextStrict (s : String)
  | key (scancode : UInt8) (pressed : Bool) (mods : Modifiers)
  | keyTap (scancode : UInt8) (mods : Modifiers)
  | keyBatchFixed (len : UInt8) (frames : Vector KeyboardFrame keyboardBatchFrames)
  | mouseMotion (dx dy : Int32) (buttons : UInt8)
  | mouseButtons (buttons : UInt8)
  | mouseScroll (hscroll vscroll : Float32)
  | mouseBatchFixed (len : UInt8) (frames : Vector MouseFrame mouseBatchFrames)
  | injectKeycode (action : UInt8) (keycode repeats metastate : UInt32)
  | androidKeyTap (keycode metastate : UInt32)
  | androidKeyBatchFixed (len : UInt8) (frames : Vector AndroidKeyFrame androidKeyBatchFrames)
  | backOrScreenOn (action : UInt8)
  | multitouchDown (id : UInt64) (x y : Int32) (pressure : Float32)
  | multitouchMove (id : UInt64) (x y : Int32) (pressure : Float32)
  | multitouchUp (id : UInt64)
  | multitouchCancel (id : UInt64)
  | touchBatchFixed (len : UInt8) (frames : Vector TouchFrame touchBatchFrames)
  | injectScroll (x y : Int32) (hscroll vscroll : Float32) (buttons : UInt32)
  | injectScrollBatchFixed (len : UInt8) (frames : Vector ScrollFrame scrollBatchFrames)
  | gamepadButton (btn : GamepadButton) (pressed : Bool)
  | gamepadButtons (buttons : UInt32)
  | gamepadStick (axis : GamepadAxis) (value : Float32)
  | gamepadStickRaw (axis : GamepadAxis) (value : Int16)
  | gamepadLeftStickRaw (x y : Int16)
  | gamepadRightStickRaw (x y : Int16)
  | gamepadTriggersRaw (left right : Int16)
  | gamepadSticksRaw (leftX leftY rightX rightY leftTrigger rightTrigger : Int16)
  | gamepadFrameRaw (frame : GamepadFrameRaw)
  | gamepadFrameRawUnchecked (frame : GamepadFrameRaw)
  | gamepadFrameRawBatch (frames : List GamepadFrameRaw)
  | gamepadFrameRawBatchFixed (len : UInt8)
      (frames : Vector GamepadFrameRaw directGamepadBatchFrames)
  | gamepadFrameRawBatchFixedUnchecked (len : UInt8)
      (frames : Vector GamepadFrameRaw directGamepadBatchFrames)
  | gamepadFrameRawBatchUnchecked (frames : List GamepadFrameRaw)
  | gamepadPackedFrame (frame : Payload)
  | gamepadPackedFrameBatch (frames : List Payload)
  | gamepadPackedFrameBatchFixed (len : UInt8) (frames : Vector Payload directGamepadBatchFrames)
  | setScreenSize (width height : UInt16)
  | setScreenPower (on : Bool)
  | showNotifications
  | showQuickSettings
  | collapsePanels
  | rotateDevice
  | resizeDisplay (width height : UInt16)
  | setTorch (on : Bool)
  | cameraZoomIn
  | cameraZoomOut
  | openHardKeyboardSettings
  | resetVideo
  | aiConfig (flags : UInt8) (sampleIntervalMs featureDim : UInt16)
  | aiQuery (sinceTimestampMs : UInt64)
  | aiPause
  | launchApp (name : String)
  | setClipboard (text : String) (paste : Bool)
  | setClipboardSequenced (sequence : UInt64) (text : String) (paste : Bool)
  | getClipboard (copyKey : UInt8)
  | flushAck (seq : UInt64) (slot : FlushSlot)
  | flush
  | close

/-- The dispatcher thread: its session, the first error of a command since the last answered
flush, and the slots it has notified. -/
structure Dispatcher where
  session : HidSession
  pendingError : Option Error
  notified : List (FlushSlot × Result Nat)

/-- The dispatcher has no caller to return an error to. -/
abbrev Dispatch := Method Empty Dispatcher

namespace Dispatcher

/-- A call whose `Result` is looked at. A panic is no result. -/
def call {α : Type} (m : Session α) : Dispatch (Result α) := ⟨fun d =>
  match m.run d.session with
  | (.panic, s) => (.panic, { d with session := s })
  | (r, s) => (.ok r, { d with session := s })⟩

def recordFirstError {α : Type} (result : Result α) : Dispatch Unit :=
  .update fun d =>
    match d.pendingError, result with
    | none, .err e => { d with pendingError := some e }
    | _, _ => d

/-- Call the session and record its error. -/
def attempt {α : Type} (m : Session α) : Dispatch Unit := do
  let result ← call m
  recordFirstError result

/-- `&frames[..len as usize]` -/
def slice {α : Type} {n : Nat} (frames : Vector α n) (len : UInt8) : Dispatch (List α) :=
  if len.toNat ≤ n then pure (frames.toList.take len.toNat) else .crash

/-- The frames of a fixed batch one by one; an error does not stop the batch. -/
def eachOf {α : Type} {n : Nat} (frames : Vector α n) (len : UInt8) (m : α → Session Unit) :
    Dispatch Unit := do
  let frames ← slice frames len
  .forEach frames fun frame => attempt (m frame)

/-- The frames of a fixed batch in one call. -/
def allOf {α : Type} {n : Nat} (frames : Vector α n) (len : UInt8) (m : List α → Session Nat) :
    Dispatch Unit := do
  let frames ← slice frames len
  attempt (m frames)

/-- `slot.notify(result)` -/
def notify (slot : FlushSlot) (result : Result Nat) : Dispatch Unit :=
  .update fun d => { d with notified := d.notified ++ [(slot, result)] }

/-- The first error of an earlier command is the answer; the flush's own error then waits for the
next one. -/
def flushAck (slot : FlushSlot) : Dispatch Unit := do
  let priorError := (← .read).pendingError
  .update fun d => { d with pendingError := none }
  let flushResult ← call HidSession.flushNow
  match priorError with
  | some err => do
    match flushResult with
    | .err flushErr => .update fun d => { d with pendingError := some flushErr }
    | _ => pure ()
    notify slot (.err err)
  | none => notify slot flushResult

/-- A command other than `Close`. -/
def perform : HidCommand → Dispatch Unit
  | .typeText s => attempt (HidSession.typeText s)
  | .typeTextStrict s => attempt (HidSession.typeTextStrict s)
  | .key scancode pressed mods => attempt (HidSession.key scancode pressed mods)
  | .keyTap scancode mods => attempt do
    HidSession.key scancode true mods
    HidSession.key scancode false .empty
  | .keyBatchFixed len frames => eachOf frames len fun frame =>
    HidSession.key frame.scancode frame.pressed frame.mods
  | .mouseMotion dx dy buttons => attempt (HidSession.mouseMotion dx dy buttons)
  | .mouseButtons buttons => attempt (HidSession.mouseButtons buttons)
  | .mouseScroll hscroll vscroll => attempt (HidSession.mouseScroll hscroll vscroll)
  | .mouseBatchFixed len frames => eachOf frames len fun frame =>
    HidSession.mouseMotion frame.dx frame.dy frame.buttons
  | .injectKeycode action keycode repeats metastate =>
    attempt (HidSession.injectKeycode action keycode repeats metastate)
  | .androidKeyTap keycode metastate => attempt (HidSession.tapAndroidKeycode keycode metastate)
  | .androidKeyBatchFixed len frames => eachOf frames len fun frame =>
    HidSession.injectKeycode frame.action frame.keycode frame.repeats frame.metastate
  | .backOrScreenOn action => attempt (HidSession.send (.backOrScreenOn ⟨action⟩))
  | .multitouchDown id x y pressure =>
    attempt (HidSession.injectTouchAction TouchAction.down id x y pressure)
  | .multitouchMove id x y pressure =>
    attempt (HidSession.injectTouchAction TouchAction.move id x y pressure)
  | .multitouchUp id => attempt (HidSession.injectTouchAction TouchAction.up id 0 0 0)
  | .multitouchCancel id => attempt (HidSession.cancelTouch id)
  | .touchBatchFixed len frames => eachOf frames len fun frame =>
    HidSession.injectTouch frame.action frame.pointerId frame.x frame.y frame.pressure
  | .injectScroll x y hscroll vscroll buttons =>
    attempt (HidSession.injectScroll x y hscroll vscroll buttons)
  | .injectScrollBatchFixed len frames => eachOf frames len fun frame =>
    HidSession.injectScroll frame.x frame.y frame.hscroll frame.vscroll frame.buttons
  | .gamepadButton btn pressed => attempt (HidSession.setButton btn pressed)
  | .gamepadButtons buttons => attempt (HidSession.setButtons buttons)
  | .gamepadStick axis value => attempt (HidSession.setStick axis value)
  | .gamepadStickRaw axis value => attempt (HidSession.setStickRaw axis value)
  | .gamepadLeftStickRaw x y => attempt (HidSession.setLeftStickRaw x y)
  | .gamepadRightStickRaw x y => attempt (HidSession.setRightStickRaw x y)
  | .gamepadTriggersRaw left right => attempt (HidSession.setTriggersRaw left right)
  | .gamepadSticksRaw leftX leftY rightX rightY leftTrigger rightTrigger =>
    attempt (HidSession.setSticksRaw leftX leftY rightX rightY leftTrigger rightTrigger)
  | .gamepadFrameRaw frame => attempt (HidSession.setFrameRaw frame)
  | .gamepadFrameRawUnchecked frame => attempt (HidSession.setFrameRawUncheckedFrame frame)
  | .gamepadFrameRawBatch frames => attempt (HidSession.setFrameRawBatch frames)
  | .gamepadFrameRawBatchFixed len frames => allOf frames len HidSession.setFrameRawBatch
  | .gamepadFrameRawBatchFixedUnchecked len frames =>
    allOf frames len HidSession.setFrameRawBatchUnchecked
  | .gamepadFrameRawBatchUnchecked frames => attempt (HidSession.setFrameRawBatchUnchecked frames)
  | .gamepadPackedFrame frame => attempt (HidSession.setFrameRawPacked frame)
  | .gamepadPackedFrameBatch frames => attempt (HidSession.setFrameRawPackedBatch frames)
  | .gamepadPackedFrameBatchFixed len frames => allOf frames len HidSession.setFrameRawPackedBatch
  | .setScreenSize width height => .discard (call (HidSession.setScreenSize width height))
  | .setScreenPower on => attempt (HidSession.send (.setDisplayPower ⟨on⟩))
  | .showNotifications => attempt HidSession.showNotifications
  | .showQuickSettings => attempt HidSession.showQuickSettings
  | .collapsePanels => attempt HidSession.collapsePanels
  | .rotateDevice => attempt HidSession.rotateDevice
  | .resizeDisplay width height => attempt (HidSession.resizeDisplay width height)
  | .setTorch on => attempt (HidSession.setTorch on)
  | .cameraZoomIn => attempt HidSession.cameraZoomIn
  | .cameraZoomOut => attempt HidSession.cameraZoomOut
  | .openHardKeyboardSettings => attempt HidSession.openHardKeyboardSettings
  | .resetVideo => attempt HidSession.resetVideo
  | .aiConfig flags sampleIntervalMs featureDim =>
    attempt (HidSession.send (.aiConfig { flags, sampleIntervalMs, featureDim }))
  | .aiQuery sinceTimestampMs => attempt (HidSession.send (.aiQuery ⟨sinceTimestampMs⟩))
  | .aiPause => attempt (HidSession.send .aiPause)
  | .launchApp name => attempt (HidSession.send (.startApp ⟨name⟩))
  | .setClipboard text paste =>
    attempt (HidSession.send (.setClipboard { sequence := 0, paste, text }))
  | .setClipboardSequenced sequence text paste =>
    attempt (HidSession.send (.setClipboard { sequence, paste, text }))
  | .getClipboard copyKey => attempt (HidSession.requestClipboard copyKey)
  | .flushAck _ slot => flushAck slot
  | .flush => attempt HidSession.flushNow
  | .close => .discard (call HidSession.close)

/-- `dispatch_to_session`: perform the command, and say whether the loop is to stop. -/
def dispatchToSession (cmd : HidCommand) : Dispatch Bool := do
  perform cmd
  match cmd with
  | .close => pure true
  | _ => pure false

end Dispatcher

end HidConnect
