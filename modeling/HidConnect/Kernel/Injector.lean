import HidConnect.Kernel.Observation
import HidConnect.Session.Intents

/-! The injector of the bridge: every action, one at a time or a batch at once. -/
namespace HidConnect
open Fallible
open Kernel (Action)

/-- `i32::unsigned_abs` -/
def unsignedAbs (v : Int32) : UInt32 := v.toInt.natAbs.toUInt32

namespace ActionInjector

def new (session : HidSession) : ActionInjector := { session, nextId := 0, batchDepth := 0 }

def tap (id : ActionId) (batchDepth : UInt32) (x y : Int32) : Bridging Unit := rejecting id do
  HidSession.injectTouch TouchAction.down 0 x y 1
  HidSession.injectTouch TouchAction.up 0 x y 0
  maybeFlush batchDepth

def pxPerStep : UInt32 := 40
def maxSteps : UInt32 := 256

/-- A sample every 16 ms or every 40 px, whichever makes more of them. -/
def swipeSteps (x1 y1 x2 y2 : Int32) (durMs : UInt32) : UInt32 :=
  let distance := max (unsignedAbs (x2 - x1)) (unsignedAbs (y2 - y1))
  min maxSteps (max 2 (max (durMs / 16) (distance / pxPerStep)))

def swipe (id : ActionId) (batchDepth : UInt32) (x1 y1 x2 y2 : Int32) (durMs : UInt32) :
    Bridging Unit := rejecting id do
  HidSession.swipe (x1, y1) (x2, y2) (swipeSteps x1 y1 x2 y2 durMs)
  maybeFlush batchDepth

def pressKey (id : ActionId) (batchDepth : UInt32) (code : UInt32) : Bridging Unit := rejecting id do
  HidSession.injectAndroidKeyEvent AndroidKeyAction.down code 0 0
  HidSession.injectAndroidKeyEvent AndroidKeyAction.up code 0 0
  maybeFlush batchDepth

def injectRaw (id : ActionId) (batchDepth : UInt32) (bytes : List UInt8) : Bridging Unit :=
  rejecting id do
    HidSession.injectRawGamepadReport bytes
    maybeFlush batchDepth

def gamepadFrame (id : ActionId) (batchDepth : UInt32) (report : Vector UInt8 15) : Bridging Unit :=
  injectRaw id batchDepth report.toList

def launch (id : ActionId) (batchDepth : UInt32) (target : String) : Bridging Unit := rejecting id do
  HidSession.launchApp target
  maybeFlush batchDepth

def setClipboard (id : ActionId) (batchDepth : UInt32) (text : String) (paste : Bool) :
    Bridging Unit := rejecting id do
  HidSession.setClipboard text paste
  maybeFlush batchDepth

section Apply
/- How a character is shown for debugging. -/
variable (showChar : Char → String)

def mapped (id : ActionId) (batchDepth : UInt32) : Action → Bridging Unit
  | .tap x y _ => tap id batchDepth x y
  | .swipe x1 y1 x2 y2 durMs _ => swipe id batchDepth x1 y1 x2 y2 durMs
  | .typeText text _ => typeText showChar id batchDepth text
  | .key code _ => pressKey id batchDepth code
  | .gamepadFrame report _ => gamepadFrame id batchDepth report
  | .launch target _ _ => launch id batchDepth target
  | .setClipboard text paste _ => setClipboard id batchDepth text paste
  | .injectRaw bytes _ => injectRaw id batchDepth bytes
  | .tapSelector .. | .wait .. | .getUiRepr .. | .dumpObservation .. | .localizeText ..
  | .detectElement .. | .ground .. | .askVisual .. =>
    .fail (.rejected id .notImplemented
      "action requires daemon-side resolver or custom wire path; route via protocol::Frame::request")

/-- The outcome is the rejection if there is one. -/
def apply (action : Action) : Method Empty ActionInjector BridgeOutcome := ⟨fun injector =>
  let id := injector.nextId
  let (result, session) := (mapped showChar id injector.batchDepth action).run injector.session
  let outcome := match result with
    | .ok () => .ok (.ok id)
    | .err rejection => .ok rejection
    | .panic => .panic
  (outcome, { injector with session, nextId := id + 1 })⟩

theorem apply_typeText (text : String) (deadlineMs : UInt32) :
    apply showChar (.typeText text deadlineMs) = applyTypeText showChar text := rfl

/-- The actions up to the first that fails, with the outcomes so far. -/
def applyEach : List Action → List BridgeOutcome →
    Method Empty ActionInjector (List BridgeOutcome × Option Nat)
  | [], outcomes => pure (outcomes, none)
  | action :: rest, outcomes => do
    let outcome ← apply showChar action
    if outcome.landed then applyEach rest (outcomes ++ [outcome])
    else pure (outcomes ++ [outcome], some outcomes.length)

/-- `saturating_add(1)` and `saturating_sub(1)` -/
def deeper (depth : UInt32) : UInt32 := if depth = UInt32.ofNat (2 ^ 32 - 1) then depth else depth + 1
def shallower (depth : UInt32) : UInt32 := if depth = 0 then depth else depth - 1

/-- The part of a batch that comes before its flush. -/
def stageMany (actions : List Action) :
    Method Empty ActionInjector (List BridgeOutcome × Option Nat) := do
  .update fun injector => { injector with batchDepth := deeper injector.batchDepth }
  let staged ← applyEach showChar actions []
  .update fun injector => { injector with batchDepth := shallower injector.batchDepth }
  pure staged

/-- The error of the flush, if it fails. -/
def terminalFlush : Method Empty ActionInjector (Option Error) := ⟨fun injector =>
  match HidSession.flushNow.run injector.session with
  | (.ok _, session) => (.ok none, { injector with session })
  | (.err e, session) => (.ok (some e), { injector with session })
  | (.panic, session) => (.panic, { injector with session })⟩

/-- A flush that fails adds an outcome of its own, unless an action has failed. -/
def applyMany (actions : List Action) :
    Method Empty ActionInjector (List BridgeOutcome × Option Nat) := do
  let (outcomes, firstFailure) ← stageMany showChar actions
  if (← .read).batchDepth = 0 then
    match ← terminalFlush, firstFailure with
    | some e, none =>
      pure (outcomes ++ [rejectSession (UInt64.ofNat (2 ^ 64 - 1)) e], some outcomes.length)
    | _, firstFailure => pure (outcomes, firstFailure)
  else pure (outcomes, firstFailure)

end Apply

end ActionInjector

end HidConnect
