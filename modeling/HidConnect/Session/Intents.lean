import HidConnect.Session

/-! What an agent asks of a session: keys, panels, clipboard, and the touch gestures. -/
namespace HidConnect
open Fallible

namespace HidSession

/- One control message each. -/

def setScreenPower (on : Bool) : Session Unit := send (.setDisplayPower ⟨on⟩)

def injectKeycode (action : UInt8) (keycode repeats metastate : UInt32) : Session Unit :=
  send (.injectKeycode { action, keycode, repeats, metastate })

def injectAndroidKeycode (action : UInt8) (keycode repeats metastate : UInt32) : Session Unit :=
  injectKeycode action keycode repeats metastate

def injectAndroidKeyEvent (action : UInt8) (keycode repeats metastate : UInt32) : Session Unit :=
  injectAndroidKeycode action keycode repeats metastate

def tapAndroidKeycode (keycode metastate : UInt32) : Session Unit := do
  injectKeycode AndroidKeyAction.down keycode 0 metastate
  injectKeycode AndroidKeyAction.up keycode 0 metastate

def backOrScreenOn (action : UInt8) : Session Unit := send (.backOrScreenOn ⟨action⟩)

def showNotifications : Session Unit := send .expandNotificationPanel
def showQuickSettings : Session Unit := send .expandSettingsPanel
def collapsePanels : Session Unit := send .collapsePanels
def rotateDevice : Session Unit := send .rotateDevice
def resizeDisplay (w h : UInt16) : Session Unit := send (.resizeDisplay ⟨w, h⟩)
def setTorch (on : Bool) : Session Unit := send (.cameraSetTorch ⟨on⟩)
def cameraZoomIn : Session Unit := send .cameraZoomIn
def cameraZoomOut : Session Unit := send .cameraZoomOut
def openHardKeyboardSettings : Session Unit := send .openHardKeyboardSettings
def resetVideo : Session Unit := send .resetVideo

def launchApp (name : String) : Session Unit := send (.startApp ⟨name⟩)

def setClipboard (text : String) (paste : Bool) : Session Unit :=
  send (.setClipboard { sequence := 0, paste, text })

def requestClipboard (copyKey : UInt8) : Session Unit := send (.getClipboard ⟨copyKey⟩)
def requestClipboardKey (copyKey : UInt8) : Session Unit := requestClipboard copyKey
def getClipboard : Session Unit := requestClipboardKey 0

/- Touch and scroll. -/

def touchMsg (s : HidSession) (action : UInt8) (pointerId : UInt64) (x y : Int32)
    (pressure : Float32) : ControlMessage :=
  .injectTouchEvent {
    action, pointerId, x, y, screenW := s.screenW, screenH := s.screenH, pressure
    actionButton := 0, buttons := 0 }

def injectTouch (action : UInt8) (pointerId : UInt64) (x y : Int32) (pressure : Float32) :
    Session Unit := do
  let s ← .read
  send (s.touchMsg action pointerId x y pressure)

def injectTouchAction (action : UInt8) (pointerId : UInt64) (x y : Int32) (pressure : Float32) :
    Session Unit :=
  injectTouch action pointerId x y pressure

def cancelTouch (pointerId : UInt64) : Session Unit :=
  injectTouchAction TouchAction.cancel pointerId 0 0 0

def injectScroll (x y : Int32) (hscroll vscroll : Float32) (buttons : UInt32) : Session Unit := do
  let s ← .read
  send (.injectScrollEvent {
    x, y, screenW := s.screenW, screenH := s.screenH, hscroll, vscroll, buttons })

def scroll (x y : Int32) (hscroll vscroll : Float32) : Session Unit :=
  injectScroll x y hscroll vscroll 0

/-- The drop of an armed `TouchGuard`: lift what is pressed, the last finger first. -/
def releasePressed (pressed : List UInt64) : Session Unit :=
  .forEach pressed.reverse fun pid => .ignore (injectTouch TouchAction.up pid 0 0 0)

/-- The guard tracks the finger from the moment its DOWN went out. -/
def tapPointer (pointerId : UInt64) (x y : Int32) : Session Unit := do
  injectTouch TouchAction.down pointerId x y 1
  .rollback (injectTouch TouchAction.up pointerId x y 0) (releasePressed [pointerId])

def tap (x y : Int32) : Session Unit := tapPointer 0 x y

/-- `(base + delta * t).round()` for one coordinate of a moving finger. -/
def interpolate (base target : Int32) (t : Float32) : Int32 :=
  (base.toFloat32 + (target - base).toFloat32 * t).round.toInt32

/-- The sample times `i / steps` for `i` from `first`, up to and without `last`. -/
def sampleTimes (steps : UInt32) (first last : Nat) : List Float32 :=
  (List.range' first (last - first)).map fun i => i.toUInt32.toFloat32 / steps.toFloat32

def atLeastTwo (steps : UInt32) : UInt32 := if steps < 2 then 2 else steps

def moveAlong (pointerId : UInt64) (origin target : Int32 × Int32) (steps : UInt32) :
    Session Unit :=
  .forEach (sampleTimes steps 1 steps.toNat) fun t =>
    injectTouch TouchAction.move pointerId (interpolate origin.1 target.1 t)
      (interpolate origin.2 target.2 t) 1

def swipePointer (pointerId : UInt64) (origin target : Int32 × Int32) (steps : UInt32) :
    Session Unit := do
  let steps := atLeastTwo steps
  injectTouch TouchAction.down pointerId origin.1 origin.2 1
  moveAlong pointerId origin target steps
  injectTouch TouchAction.move pointerId target.1 target.2 1
  injectTouch TouchAction.up pointerId target.1 target.2 0

def swipe (origin target : Int32 × Int32) (steps : UInt32) : Session Unit :=
  swipePointer 0 origin target steps

def doubleTap (x y : Int32) : Session Unit := do
  injectTouch TouchAction.down 0 x y 1
  injectTouch TouchAction.up 0 x y 0
  injectTouch TouchAction.down 0 x y 1
  injectTouch TouchAction.up 0 x y 0

/-- The hold between the two events is a sleep. -/
def longPress (x y : Int32) : Session Unit := do
  injectTouch TouchAction.down 0 x y 1
  injectTouch TouchAction.up 0 x y 0

def threeFingers : List UInt64 := [0, 1, 2]

def threeFingerScreenshot : Session Unit := do
  let s ← .read
  let w := s.screenW.toUInt32.toInt32
  let h := s.screenH.toUInt32.toInt32
  let column (id : UInt64) : Int32 := w / 4 * (id.toUInt32.toInt32 + 1)
  .forEach threeFingers fun id => injectTouch TouchAction.down id (column id) (h / 4) 1
  .forEach (List.range' 1 10) fun step => .forEach threeFingers fun id =>
    injectTouch TouchAction.move id (column id) (h / 4 + h / 2 * step.toUInt32.toInt32 / 10) 1
  .forEach threeFingers fun id => injectTouch TouchAction.up id (column id) (h * 3 / 4) 0

/-- The dwell at both ends is a sleep. -/
def drag (origin target : Int32 × Int32) (steps : UInt32) : Session Unit := do
  let steps := atLeastTwo steps
  injectTouch TouchAction.down 0 origin.1 origin.2 1
  moveAlong 0 origin target steps
  injectTouch TouchAction.move 0 target.1 target.2 1
  injectTouch TouchAction.up 0 target.1 target.2 0

end HidSession

/- The ten-finger handle borrowed from a session. -/

structure MultitouchHandle where
  session : HidSession
  active : Vector Bool 10

namespace MultitouchHandle

abbrev Multitouch := Method Error MultitouchHandle

/-- A handle knows of no finger that went down before it. -/
def new (session : HidSession) : MultitouchHandle :=
  { session, active := Vector.replicate 10 false }

def isActive (h : MultitouchHandle) (id : UInt64) : Bool :=
  if inside : id.toNat < 10 then h.active[id.toNat] else false

def onSession {α : Type} (m : Session α) : Multitouch α :=
  .zoom (·.session) (fun s h => { h with session := s }) m

def checkId (id : UInt64) : Multitouch (Fin 10) :=
  if h : id.toNat < 10 then pure ⟨id.toNat, h⟩
  else .fail (.pointerIdOutOfRange id (maxPointers - 1))

def setActive (id : Fin 10) (on : Bool) : Multitouch Unit :=
  .update fun h => { h with active := h.active.set id on }

def down (id : UInt64) (x y : Int32) (pressure : Float32) : Multitouch Unit := do
  let i ← checkId id
  if (← .read).active[i] then .fail (.pointerAlreadyDown id)
  else do
    onSession (HidSession.injectTouch TouchAction.down id x y pressure)
    setActive i true

def moveTo (id : UInt64) (x y : Int32) (pressure : Float32) : Multitouch Unit := do
  let i ← checkId id
  if (← .read).active[i] then
    onSession (HidSession.injectTouch TouchAction.move id x y pressure)
  else .fail (.pointerNotActive id)

def lift (action : UInt8) (id : UInt64) : Multitouch Unit := do
  let i ← checkId id
  if (← .read).active[i] then do
    onSession (HidSession.injectTouch action id 0 0 0)
    setActive i false
  else .fail (.pointerNotActive id)

def up (id : UInt64) : Multitouch Unit := lift TouchAction.up id
def cancel (id : UInt64) : Multitouch Unit := lift TouchAction.cancel id

structure Path where
  id : UInt64
  origin : Int32 × Int32
  target : Int32 × Int32

def movePath (p : Path) (t : Float32) : Multitouch Unit :=
  onSession (HidSession.injectTouch TouchAction.move p.id
    (HidSession.interpolate p.origin.1 p.target.1 t)
    (HidSession.interpolate p.origin.2 p.target.2 t) 1)

def pinch (p0 p1 : Path) (steps : UInt32) : Multitouch Unit := do
  let steps := HidSession.atLeastTwo steps
  let i0 ← checkId p0.id
  let i1 ← checkId p1.id
  let h ← .read
  if h.active[i0] && h.active[i1] then
    .forEach (HidSession.sampleTimes steps 1 (steps.toNat + 1)) fun t => do
      movePath p0 t
      movePath p1 t
  else .fail (.pointerNotActive (if h.active[i0] then p1.id else p0.id))

def releaseAll : Multitouch Unit :=
  .forEach (List.finRange 10) fun i => do
    if (← .read).active[i] then do
      onSession (HidSession.injectTouch TouchAction.up i.val.toUInt64 0 0 0)
      setActive i false
    else pure ()

def flushNow : Multitouch Nat := onSession HidSession.flushNow

end MultitouchHandle

namespace HidSession

def multitouch {α : Type} (m : Method Error MultitouchHandle α) : Session α :=
  .zoom (fun s => { session := s, active := Vector.replicate 10 false }) (fun h _ => h.session) m

def pinch (cx cy startRadius endRadius : Int32) (steps : UInt32) : Session Unit :=
  multitouch do
    MultitouchHandle.down 0 (cx - startRadius) cy 1
    MultitouchHandle.down 1 (cx + startRadius) cy 1
    MultitouchHandle.pinch
      { id := 0, origin := (cx - startRadius, cy), target := (cx - endRadius, cy) }
      { id := 1, origin := (cx + startRadius, cy), target := (cx + endRadius, cy) } steps
    MultitouchHandle.up 0
    MultitouchHandle.up 1

/-- Lift the first `n` fingers, the last one first; errors are swallowed. -/
def releaseAll (n : Nat) : Session Unit :=
  .forEach (List.range n).reverse fun id =>
    .ignore (injectTouch TouchAction.up id.toUInt64 0 0 0)

/-- Press the fingers in order; when one fails, those already pressed are lifted. -/
def pressAll : Nat → List (Int32 × Int32) → Session Unit
  | _, [] => pure ()
  | id, (x, y) :: rest => do
    .rollback (injectTouch TouchAction.down id.toUInt64 x y 1) (releaseAll id)
    pressAll (id + 1) rest

def multiFingerTap (points : List (Int32 × Int32)) : Session Unit := do
  let fingers := points.length
  if 2 ≤ fingers ∧ fingers ≤ 10 then do
    pressAll 0 points
    .rollback
      (.forEach (List.range fingers) fun id => injectTouch TouchAction.up id.toUInt64 0 0 0)
      (releaseAll fingers)
  else .fail (.pointerIdOutOfRange fingers.toUInt64 (maxPointers - 1))

end HidSession

end HidConnect
