import HidConnect.Client.Command
import HidConnect.Session.Panics

/-! Which commands take the dispatcher thread down. -/
namespace HidConnect
open Fallible

/-- A fixed batch is no longer than its array, and the cap of a clipboard text does not fall inside
a character. -/
def HidCommand.Sound : HidCommand → Prop
  | .keyBatchFixed len _ => len.toNat ≤ keyboardBatchFrames
  | .mouseBatchFixed len _ => len.toNat ≤ mouseBatchFrames
  | .androidKeyBatchFixed len _ => len.toNat ≤ androidKeyBatchFrames
  | .touchBatchFixed len _ => len.toNat ≤ touchBatchFrames
  | .injectScrollBatchFixed len _ => len.toNat ≤ scrollBatchFrames
  | .gamepadFrameRawBatchFixed len _ | .gamepadFrameRawBatchFixedUnchecked len _
  | .gamepadPackedFrameBatchFixed len _ => len.toNat ≤ directGamepadBatchFrames
  | .setClipboard text _ | .setClipboardSequenced _ text _ =>
    CutsBetween text (controlMsgMaxSize - 14)
  | _ => True

namespace Dispatcher

theorem call_run {α : Type} {m : Session α} {d : Dispatcher}
    (calm : (m.run d.session).1.isPanic = false) :
    (call m).run d = (.ok (m.run d.session).1, { d with session := (m.run d.session).2 }) := by
  unfold call
  rcases hr : m.run d.session with ⟨r, s⟩
  rw [hr] at calm
  cases r with
  | ok a => simp [hr]
  | err e => simp [hr]
  | panic => contradiction

theorem neverPanics_call {α : Type} {m : Session α} (h : Method.NeverPanics m) :
    Method.NeverPanics (call m) := by
  intro d
  rw [call_run (h d.session)]
  rfl

theorem neverPanics_attempt {α : Type} {m : Session α} (h : Method.NeverPanics m) :
    Method.NeverPanics (attempt m) :=
  (neverPanics_call h).bind fun _ => Method.neverPanics_update _

theorem attempt_panics {α : Type} {m : Session α} (d : Dispatcher)
    (h : (m.run d.session).1 = .panic) : ((attempt m).run d).1 = .panic := by
  refine Method.run_bind_panics ?_
  unfold call
  rcases hr : m.run d.session with ⟨r, s⟩
  rw [hr] at h
  obtain rfl : r = .panic := h
  simp [hr]

theorem attempt_send_iff (msg : ControlMessage) (d : Dispatcher) :
    ((attempt (HidSession.send msg)).run d).1.isPanic = false ↔ msg.CutsWhole := by
  constructor
  · intro calm
    by_contra inside
    rw [attempt_panics d (HidSession.send_panics inside _)] at calm
    contradiction
  · exact fun whole => neverPanics_attempt (HidSession.neverPanics_send whole) d

section Fixed
variable {α : Type} {n : Nat} (frames : Vector α n) (len : UInt8)

/-- What is done with the slice does not panic, so the batch panics exactly when slicing does. -/
theorem sliced_iff {f : List α → Dispatch Unit} (h : ∀ xs, Method.NeverPanics (f xs))
    (d : Dispatcher) :
    ((slice frames len >>= f).run d).1.isPanic = false ↔ len.toNat ≤ n := by
  rw [slice]
  by_cases fits : len.toNat ≤ n
  · rw [if_pos fits]
    exact ⟨fun _ => fits, fun _ => h _ d⟩
  · rw [if_neg fits]
    exact ⟨fun calm => (nomatch calm), fun fits' => (fits fits').elim⟩

theorem eachOf_iff {m : α → Session Unit} (h : ∀ a, Method.NeverPanics (m a)) (d : Dispatcher) :
    ((eachOf frames len m).run d).1.isPanic = false ↔ len.toNat ≤ n :=
  sliced_iff frames len (fun xs => Method.neverPanics_forEach (fun a => neverPanics_attempt (h a)) xs)
    d

theorem allOf_iff {m : List α → Session Nat} (h : ∀ xs, Method.NeverPanics (m xs))
    (d : Dispatcher) : ((allOf frames len m).run d).1.isPanic = false ↔ len.toNat ≤ n :=
  sliced_iff frames len (fun xs => neverPanics_attempt (h xs)) d

end Fixed

theorem neverPanics_flushAck (slot : FlushSlot) : Method.NeverPanics (flushAck slot) := by
  refine Method.neverPanics_read.bind fun _ => (Method.neverPanics_update _).bind fun _ =>
    (neverPanics_call HidSession.neverPanics_flushNow).bind fun _ => ?_
  split
  · dsimp only
    split
    · exact (Method.neverPanics_update _).bind fun _ => Method.neverPanics_update _
    · exact Method.neverPanics_update _
  · exact Method.neverPanics_update _

theorem cutsWhole_clipboard {sequence : UInt64} {paste : Bool} {text : String} :
    (ControlMessage.setClipboard { sequence, paste, text }).CutsWhole ↔
      CutsBetween text (controlMsgMaxSize - 14) :=
  ⟨fun whole => whole _ rfl, fun cut c capped => by cases capped; exact cut⟩

theorem perform_iff (cmd : HidCommand) (d : Dispatcher) :
    ((perform cmd).run d).1.isPanic = false ↔ cmd.Sound := by
  have calm {m : Dispatch Unit} (h : Method.NeverPanics m) : (m.run d).1.isPanic = false ↔ True :=
    iff_true_intro (h d)
  have sends {msg : ControlMessage} (h : msg.cappedText = none) :
      ((attempt (HidSession.send msg)).run d).1.isPanic = false ↔ True :=
    calm (neverPanics_attempt (HidSession.neverPanics_textless h))
  have updates (event : GamepadSlot → Option GamepadSlot) :
      ((attempt (Method.discard (HidSession.checkedUpdate event))).run d).1.isPanic = false ↔ True :=
    calm (neverPanics_attempt (HidSession.neverPanics_checkedUpdate event).discard)
  cases cmd with
  | typeText s => exact calm (neverPanics_attempt (HidSession.neverPanics_typeText s))
  | typeTextStrict s => exact calm (neverPanics_attempt (HidSession.neverPanics_typeTextStrict s))
  | key scancode pressed mods => exact calm (neverPanics_attempt (HidSession.neverPanics_key _ _ _))
  | keyTap scancode mods =>
    exact calm (neverPanics_attempt ((HidSession.neverPanics_key _ _ _).bind fun _ =>
      HidSession.neverPanics_key _ _ _))
  | keyBatchFixed len frames =>
    exact eachOf_iff frames len (fun _ => HidSession.neverPanics_key _ _ _) d
  | mouseMotion dx dy buttons =>
    exact calm (neverPanics_attempt (HidSession.neverPanics_mouse fun _ =>
      HidSession.neverPanics_pushReport _))
  | mouseButtons buttons =>
    exact calm (neverPanics_attempt (HidSession.neverPanics_mouse fun _ =>
      HidSession.neverPanics_pushReport _))
  | mouseScroll hscroll vscroll =>
    exact calm (neverPanics_attempt (HidSession.neverPanics_mouseScroll _ _))
  | mouseBatchFixed len frames =>
    exact eachOf_iff frames len (fun _ => HidSession.neverPanics_mouse fun _ =>
      HidSession.neverPanics_pushReport _) d
  | androidKeyTap keycode metastate =>
    exact calm (neverPanics_attempt ((HidSession.neverPanics_textless rfl).bind fun _ =>
      HidSession.neverPanics_textless rfl))
  | androidKeyBatchFixed len frames =>
    exact eachOf_iff frames len (fun _ => HidSession.neverPanics_textless rfl) d
  | multitouchDown id x y pressure =>
    exact calm (neverPanics_attempt (HidSession.neverPanics_injectTouch _ _ _ _ _))
  | multitouchMove id x y pressure =>
    exact calm (neverPanics_attempt (HidSession.neverPanics_injectTouch _ _ _ _ _))
  | multitouchUp id => exact calm (neverPanics_attempt (HidSession.neverPanics_injectTouch _ _ _ _ _))
  | multitouchCancel id =>
    exact calm (neverPanics_attempt (HidSession.neverPanics_injectTouch _ _ _ _ _))
  | touchBatchFixed len frames =>
    exact eachOf_iff frames len (fun _ => HidSession.neverPanics_injectTouch _ _ _ _ _) d
  | injectScroll x y hscroll vscroll buttons =>
    exact calm (neverPanics_attempt (HidSession.neverPanics_injectScroll _ _ _ _ _))
  | injectScrollBatchFixed len frames =>
    exact eachOf_iff frames len (fun _ => HidSession.neverPanics_injectScroll _ _ _ _ _) d
  | gamepadButton btn pressed => exact updates _
  | gamepadButtons buttons => exact updates _
  | gamepadStick axis value => exact updates _
  | gamepadStickRaw axis value => exact updates _
  | gamepadLeftStickRaw x y => exact updates _
  | gamepadRightStickRaw x y => exact updates _
  | gamepadTriggersRaw left right => exact updates _
  | gamepadSticksRaw leftX leftY rightX rightY leftTrigger rightTrigger => exact updates _
  | gamepadFrameRaw frame => exact updates _
  | gamepadFrameRawUnchecked frame =>
    exact calm (neverPanics_attempt (HidSession.neverPanics_setFrameRawUnchecked frame))
  | gamepadFrameRawBatch frames =>
    exact calm (neverPanics_attempt (HidSession.neverPanics_setFrameRawBatch frames))
  | gamepadFrameRawBatchFixed len frames =>
    exact allOf_iff frames len HidSession.neverPanics_setFrameRawBatch d
  | gamepadFrameRawBatchFixedUnchecked len frames =>
    exact allOf_iff frames len HidSession.neverPanics_setFrameRawBatchUnchecked d
  | gamepadFrameRawBatchUnchecked frames =>
    exact calm (neverPanics_attempt (HidSession.neverPanics_setFrameRawBatchUnchecked frames))
  | gamepadPackedFrame frame =>
    exact calm (neverPanics_attempt (HidSession.neverPanics_setFrameRawPacked frame))
  | gamepadPackedFrameBatch frames =>
    exact calm (neverPanics_attempt (HidSession.neverPanics_setFrameRawPackedBatch frames))
  | gamepadPackedFrameBatchFixed len frames =>
    exact allOf_iff frames len HidSession.neverPanics_setFrameRawPackedBatch d
  | setScreenSize width height =>
    exact calm (neverPanics_call (Method.neverPanics_update _)).discard
  | setClipboard text paste => exact (attempt_send_iff _ d).trans cutsWhole_clipboard
  | setClipboardSequenced sequence text paste =>
    exact (attempt_send_iff _ d).trans cutsWhole_clipboard
  | flushAck seq slot => exact calm (neverPanics_flushAck slot)
  | flush => exact calm (neverPanics_attempt HidSession.neverPanics_flushNow)
  | close => exact calm (neverPanics_call HidSession.neverPanics_close).discard
  | _ => exact sends rfl

theorem dispatch_isPanic (cmd : HidCommand) (d : Dispatcher) :
    ((dispatchToSession cmd).run d).1.isPanic = ((perform cmd).run d).1.isPanic := by
  unfold dispatchToSession
  rw [Method.run_bind]
  rcases (perform cmd).run d with ⟨r, t⟩
  cases r with
  | ok u => cases cmd <;> rfl
  | err e => rfl
  | panic => rfl

end Dispatcher

/-- A command is dispatched without a panic exactly when it is sound, whatever the state of the
session and the answers of its transport. -/
theorem command_survives (cmd : HidCommand) (d : Dispatcher) :
    ((Dispatcher.dispatchToSession cmd).run d).1.isPanic = false ↔ cmd.Sound := by
  rw [Dispatcher.dispatch_isPanic]
  exact Dispatcher.perform_iff cmd d

def idleDispatcher (s : HidSession) : Dispatcher :=
  { session := s, pendingError := none, notified := [] }

/-- A batch of 33 keys in an array of 32. -/
theorem long_batch_panics :
    ((Dispatcher.dispatchToSession (.keyBatchFixed 33
      (Vector.replicate keyboardBatchFrames ⟨4, true, .empty⟩))).run
        (idleDispatcher (HidSession.start .steady id .kbdOnly))).1 = .panic := by
  decide +kernel

end HidConnect
