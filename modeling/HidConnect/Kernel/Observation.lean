import HidConnect.Ai
import HidConnect.Kernel.Bridge
import Mathlib.Data.List.Infix

/-! What the kernel observes of a device, the predicates over it, and the actions of an agent. -/
namespace HidConnect.Kernel

abbrev PlanId := UInt64
abbrev StepId := UInt32

structure ScreenId where
  digest : Vector UInt8 16
  deriving DecidableEq

structure A11yTree where
  windowId : Option UInt32
  topActivity : Option String
  nodeCount : UInt32
  json : String
  deriving DecidableEq

structure FrameSnapshot where
  width : UInt16
  height : UInt16
  codec : UInt8
  isKeyframe : Bool
  pts : UInt64
  sceneChangeScore : F32
  png : Option (List UInt8)
  deriving DecidableEq

structure DeviceState where
  focusedWindow : UInt32
  focusedNode : UInt32
  screenOn : Bool
  uptimeMs : UInt64
  deriving DecidableEq

def DeviceState.unknown (uptimeMs : UInt64) : DeviceState :=
  { focusedWindow := 0, focusedNode := 0xFFFFFFFF, screenOn := true, uptimeMs }

structure ForegroundApp where
  package : String
  activity : String
  focused : Bool
  sinceMs : UInt64
  deriving DecidableEq

inductive DeviceEvent where
  | activityResumed (component : String)
  | activityPaused (component : String)
  | windowFocusChanged (windowId : UInt32)
  | packageAdded (pkg : String)
  | packageRemoved (pkg : String)
  | configurationChanged
  | sceneChangeDetected (score : F32)
  | notificationPosted (key : String)
  | clipboardChanged
  | actionCompleted (actionId : ActionId) (landed : Bool) (elapsedMs : UInt32)
  | planCompleted (planId : PlanId) (allLanded : Bool) (elapsedMs : UInt32)
  | uptime (uptimeMs : UInt64)
  deriving DecidableEq

structure Observation where
  seq : Nat
  timestampMs : UInt64
  a11y : Option A11yTree
  frame : Option FrameSnapshot
  state : DeviceState
  events : List DeviceEvent
  foregroundApp : Option ForegroundApp
  deriving DecidableEq

/-- `Observation::default()` -/
def Observation.initial : Observation :=
  { seq := 0, timestampMs := 0, a11y := none, frame := none, state := .unknown 0, events := [],
    foregroundApp := none }

inductive EventKind where
  | activityResumed | activityPaused | windowFocusChanged | packageAdded | packageRemoved
  | configurationChanged | sceneChangeDetected | notificationPosted | clipboardChanged
  deriving DecidableEq

def EventKind.fromEvent : DeviceEvent → Option EventKind
  | .activityResumed _ => some .activityResumed
  | .activityPaused _ => some .activityPaused
  | .windowFocusChanged _ => some .windowFocusChanged
  | .packageAdded _ => some .packageAdded
  | .packageRemoved _ => some .packageRemoved
  | .configurationChanged => some .configurationChanged
  | .sceneChangeDetected _ => some .sceneChangeDetected
  | .notificationPosted _ => some .notificationPosted
  | .clipboardChanged => some .clipboardChanged
  | .actionCompleted _ _ _ | .planCompleted _ _ _ | .uptime _ => none

/- Comparison of floats by their bits. -/

def isNan (x : F32) : Bool := 0x7F800000 < x &&& 0x7FFFFFFF

/-- Both zeros are ranked 0. -/
def rank (x : F32) : Int :=
  if x < 0x80000000 then x.toNat else -(x &&& 0x7FFFFFFF).toNat

def lessThan (x y : F32) : Bool := !isNan x && !isNan y && decide (rank x < rank y)

/-- The bits of `0.05`. -/
def sceneStableScore : F32 := 0x3D4CCCCD

inductive Predicate where
  | textAppears (text : String) (nodeId : Option UInt32) (timeoutMs : UInt32)
  | activity (component : String) (timeoutMs : UInt32)
  | sceneStable (durationMs timeoutMs : UInt32)
  | a11yIdle (durationMs timeoutMs : UInt32)
  | selectorMatches (selector : String) (timeoutMs : UInt32)
  | eventFires (kind : EventKind) (timeoutMs : UInt32)
  deriving DecidableEq

namespace Observation

def treeContains (obs : Observation) (text : String) : Bool :=
  match obs.a11y with
  | none => false
  | some a11y => decide (text.toList <:+: a11y.json.toList)

def containsText (obs : Observation) (text : String) : Bool := obs.treeContains text

def activityMatches (obs : Observation) (component : String) : Bool :=
  match obs.a11y.bind A11yTree.topActivity with
  | none => false
  | some top => top == component

def hasSceneStableEvent (obs : Observation) (durationMs timeoutMs : UInt32) : Bool :=
  if timeoutMs < durationMs then false
  else obs.events.any fun
    | .sceneChangeDetected score => lessThan score sceneStableScore
    | _ => false

def hasA11yIdleEvent (obs : Observation) (durationMs timeoutMs : UInt32) : Bool :=
  if timeoutMs < durationMs then false
  else obs.events.any (· == .configurationChanged) || obs.a11y.any fun a => 0 < a.nodeCount

def selectorMatches (obs : Observation) (selector : String) : Bool := obs.treeContains selector

def containsEventKind (obs : Observation) (kind : EventKind) : Bool :=
  obs.events.any fun ev => EventKind.fromEvent ev == some kind

end Observation

/-- What `on_observation` decides for one predicate. -/
def Predicate.matched (obs : Observation) : Predicate → Bool
  | textAppears text _ _ => obs.containsText text
  | activity component _ => obs.activityMatches component
  | sceneStable durationMs timeoutMs => obs.hasSceneStableEvent durationMs timeoutMs
  | a11yIdle durationMs timeoutMs => obs.hasA11yIdleEvent durationMs timeoutMs
  | selectorMatches selector _ => obs.selectorMatches selector
  | eventFires kind _ => obs.containsEventKind kind

inductive LaunchBy where
  | component (name : String)
  | package (name : String)
  | intent (action : String) (data mimeType : Option String)
  deriving DecidableEq

inductive ObservationComponent where
  | a11y | frame | state | events | forceKeyframe
  deriving DecidableEq

structure Rect where
  x : Int32
  y : Int32
  width : Int32
  height : Int32
  deriving DecidableEq

inductive Action where
  | tap (x y : Int32) (deadlineMs : UInt32)
  | tapSelector (selector : String) (deadlineMs : UInt32)
  | typeText (text : String) (deadlineMs : UInt32)
  | key (code deadlineMs : UInt32)
  | swipe (x1 y1 x2 y2 : Int32) (durMs deadlineMs : UInt32)
  | gamepadFrame (report : Vector UInt8 15) (deadlineMs : UInt32)
  | launch (target : String) (launchBy : LaunchBy) (deadlineMs : UInt32)
  | setClipboard (text : String) (paste : Bool) (deadlineMs : UInt32)
  | wait (predicate : Predicate) (deadlineMs : UInt32)
  | getUiRepr (screenId : Option ScreenId) (deadlineMs : UInt32)
  | dumpObservation (components : List ObservationComponent) (deadlineMs : UInt32)
  | injectRaw (bytes : List UInt8) (deadlineMs : UInt32)
  | localizeText (query : String) (region : Option Rect) (deadlineMs : UInt32)
  | detectElement (className : String) (confidenceMin : UInt8) (region : Option Rect)
      (deadlineMs : UInt32)
  | ground (text : String) (imageFrameId : UInt64) (deadlineMs : UInt32)
  | askVisual (question : String) (imageFrameId : UInt64) (deadlineMs : UInt32)
  deriving DecidableEq

inductive A11yNodeChangeKind where
  | added | removed | textChanged | visibilityChanged | boundsChanged
  deriving DecidableEq

structure A11yNodeDiff where
  nodeId : UInt32
  kind : A11yNodeChangeKind
  newText : Option String
  newVisible : Option Bool
  deriving DecidableEq

structure FrameDiff where
  total : F32
  regions : Vector F32 4
  sceneChange : F32
  source : FrameSnapshot
  deriving DecidableEq

structure GroundTruth where
  a11yDiff : List A11yNodeDiff
  frameDiff : Option FrameDiff
  focus : Option UInt32
  sceneChange : F32
  events : List DeviceEvent
  deriving DecidableEq

structure ActionResult where
  id : ActionId
  landed : Bool
  groundTruth : GroundTruth
  elapsedMs : UInt32
  code : Option AtomicErrorCode
  retryable : Bool
  deriving DecidableEq

/-- `ActionResult::default()` -/
def ActionResult.blank : ActionResult :=
  { id := 0, landed := false, elapsedMs := 0, code := none, retryable := false,
    groundTruth := { a11yDiff := [], frameDiff := none, focus := none, sceneChange := 0, events := [] } }

end HidConnect.Kernel
