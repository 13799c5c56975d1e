import HidConnect.Session

/-! The bridge of the kernel: actions of an agent as calls of a session, and their outcomes. -/
namespace HidConnect
open Fallible

/-- The texts that an error is displayed as. -/
def Error.display : Error → String
  | scancodeOutOfRange scancode =>
    "scancode 0x" ++ String.ofList (Nat.toDigits 16 scancode.toNat) ++ " is out of HID keyboard range"
  | controlMessageTooLarge size max =>
    "control message too large: " ++ toString size ++ " bytes (max " ++ toString max ++ ")"
  | nameTooLong size => "device name too long: " ++ toString size ++ " bytes (max 127)"
  | reportDescTooLong size => "report descriptor too long: " ++ toString size ++ " bytes (max 65535)"
  | unknownGamepad id => "unknown gamepad id " ++ toString id
  | noGamepadSlot => "no free gamepad slot (max 8)"
  | transport message => "transport error: " ++ message
  | bufferFullCritical => "control buffer full; cannot drop non-droppable message"
  | sessionLifecycle reason => "session lifecycle error: " ++ reason
  | pointerIdOutOfRange id max =>
    "multitouch pointer id " ++ toString id ++ " is out of range (max " ++ toString max ++ ")"
  | pointerNotActive id => "multitouch pointer " ++ toString id ++ " is not active"
  | pointerAlreadyDown id => "multitouch pointer " ++ toString id ++ " is already down"
  | dispatcherDown reason => "hid dispatcher not running: " ++ reason
  | agentTimeout reason => "agent wait timed out: " ++ reason

inductive AtomicErrorCode where
  | selectorMiss | kernelError | timeout | permissionDenied | appNotForeground | notImplemented
  deriving DecidableEq, Repr

def AtomicErrorCode.asStr : AtomicErrorCode → String
  | selectorMiss => "selector_miss"
  | kernelError => "kernel_error"
  | timeout => "timeout"
  | permissionDenied => "permission_denied"
  | appNotForeground => "app_not_foreground"
  | notImplemented => "not_implemented"

abbrev ActionId := UInt64

structure BridgeOutcome where
  id : ActionId
  landed : Bool
  error : Option String
  code : Option AtomicErrorCode
  deriving DecidableEq, Repr

namespace BridgeOutcome

def ok (id : ActionId) : BridgeOutcome := { id, landed := true, error := none, code := none }

def rejected (id : ActionId) (code : AtomicErrorCode) (reason : String) : BridgeOutcome :=
  { id, landed := false, error := some (code.asStr ++ ": " ++ reason), code := some code }

end BridgeOutcome

def classifySessionError : Error → AtomicErrorCode
  | .controlMessageTooLarge _ _ | .nameTooLong _ | .reportDescTooLong _ | .scancodeOutOfRange _
  | .pointerIdOutOfRange _ _ => .permissionDenied
  | .unknownGamepad _ | .noGamepadSlot | .sessionLifecycle _ | .pointerNotActive _
  | .pointerAlreadyDown _ | .bufferFullCritical | .dispatcherDown _ => .notImplemented
  | .agentTimeout _ => .timeout
  | .transport _ => .kernelError

def rejectSession (id : ActionId) (err : Error) : BridgeOutcome :=
  .rejected id (classifySessionError err) err.display

structure ActionInjector where
  session : HidSession
  nextId : UInt64
  batchDepth : UInt32

/-- The code of one action. A rejection is returned at once, so it takes the place of the error. -/
abbrev Bridging := Method BridgeOutcome HidSession

/-- `if let Err(e) = … { return reject_session(id, &e) }` -/
def rejecting {α : Type} (id : ActionId) (m : Session α) : Bridging α := ⟨fun s =>
  match m.run s with
  | (.ok a, s) => (.ok a, s)
  | (.err e, s) => (.err (rejectSession id e), s)
  | (.panic, s) => (.panic, s)⟩

namespace ActionInjector

/-- In a batch the bytes are left to the flush behind its last action. -/
def maybeFlush (batchDepth : UInt32) : Session Unit :=
  if batchDepth = 0 then .discard HidSession.flushNow else pure ()

section TypeText
/- How a character is shown for debugging. -/
variable (showChar : Char → String)

def refusal (id : ActionId) (ch : Char) : BridgeOutcome :=
  .rejected id .permissionDenied
    ("char " ++ showChar ch ++ " has no US-QWERTY scancode; use SetClipboard + paste")

def typeChar (id : ActionId) (ch : Char) : Bridging Unit :=
  match Scancode.tryFromChar ch with
  | (none, _) => .fail (refusal showChar id ch)
  | (some scancode, mods) => do
    rejecting id (HidSession.key scancode.toU8 true mods)
    rejecting id (HidSession.key scancode.toU8 false mods)

def typeText (id : ActionId) (batchDepth : UInt32) (text : String) : Bridging Unit := do
  .forEach text.toList (typeChar showChar id)
  rejecting id (maybeFlush batchDepth)

/-- `apply` on `Action::TypeText`: the outcome is the rejection if there is one. -/
def applyTypeText (text : String) : Method Empty ActionInjector BridgeOutcome := ⟨fun injector =>
  let id := injector.nextId
  let (result, session) := (typeText showChar id injector.batchDepth text).run injector.session
  let outcome := match result with
    | .ok () => .ok (.ok id)
    | .err rejection => .ok rejection
    | .panic => .panic
  (outcome, { injector with session, nextId := id + 1 })⟩

end TypeText

end ActionInjector

end HidConnect
