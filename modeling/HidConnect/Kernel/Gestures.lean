import HidConnect.Kernel.Refused
import HidConnect.Session.Overflow

/-! The arithmetic of every gesture loop: the session's, the ten-finger handle's, the client's and the
bridge's. Coordinates are taken as they come, and their differences may not fit. -/
namespace HidConnect
open Fallible

namespace ActionInjector

/-- The step density is computed from differences that are checked; its own operations are divisions by
constants, which do not overflow. -/
def swipeIn (profile : Profile) (id : ActionId) (batchDepth : UInt32) (x1 y1 x2 y2 : Int32)
    (durMs : UInt32) : Bridging Unit := rejecting id do
  profile.sub x2 x1
  profile.sub y2 y1
  HidSession.swipePointerIn profile 0 (x1, y1) (x2, y2) (swipeSteps x1 y1 x2 y2 durMs)
  maybeFlush batchDepth

theorem swipeIn_release (id : ActionId) (batchDepth : UInt32) (x1 y1 x2 y2 : Int32) (durMs : UInt32) :
    swipeIn .release id batchDepth x1 y1 x2 y2 durMs = swipe id batchDepth x1 y1 x2 y2 durMs := by
  rw [swipeIn, HidSession.swipePointerIn_release, swipe, HidSession.swipe]
  rfl

theorem panics_rejecting {α : Type} (id : ActionId) (m : Session α) (s : HidSession) :
    Method.Panics (rejecting id m) s ↔ Method.Panics m s := by
  rw [Method.Panics, Method.Panics, rejecting_run]
  cases (m.run s).1 <;> rfl

theorem neverPanics_maybeFlush (batchDepth : UInt32) : Method.NeverPanics (maybeFlush batchDepth) := by
  unfold maybeFlush
  split
  · exact HidSession.neverPanics_flushNow.discard
  · exact Method.neverPanics_pure _

/-- The bridge looks at the ends before anything is sent. -/
theorem panics_swipe (id : ActionId) (batchDepth : UInt32) (x1 y1 x2 y2 : Int32) (durMs : UInt32)
    (s : HidSession) : Method.Panics (swipeIn .dev id batchDepth x1 y1 x2 y2 durMs) s ↔
      ¬EndsFit (x1, y1) (x2, y2) := by
  rw [swipeIn, panics_rejecting, Profile.panics_sub, Profile.panics_sub, ← or_assoc, ← not_and_or,
    Method.panics_bind_calm fun _ => neverPanics_maybeFlush batchDepth, HidSession.panics_swipePointer]
  constructor
  · rintro (far | ⟨-, far⟩)
    · exact far
    · exact far
  · exact .inl

end ActionInjector

/-- No operation of a swipe or a drag overflows, and where it completes, in either build, it has sent
what it should. -/
def SwipeMeets (gesture : Profile → Session Unit) (pointerId : UInt64) (origin target : Int32 × Int32)
    (steps : UInt32) (s : HidSession) : Prop :=
  ¬Method.Panics (gesture .dev) s ∧ ∀ profile s', (gesture profile).run s = (.ok (), s') →
    HidSession.Swiped s pointerId origin target steps s'

theorem swipeMeets_iff (pointerId : UInt64) (origin target : Int32 × Int32) (steps : UInt32)
    (s : HidSession) :
    SwipeMeets (fun profile => HidSession.swipePointerIn profile pointerId origin target steps)
        pointerId origin target steps s ↔
      (HidSession.SendsAll s [HidSession.touchDown pointerId origin] → EndsFit origin target) := by
  rw [SwipeMeets, HidSession.panics_swipePointer, not_and_not_right]
  refine and_iff_left fun profile s' run => HidSession.swipePointer_swiped ?_
  have calm : ¬Method.Panics (HidSession.swipePointerIn profile pointerId origin target steps) s := by
    rw [Method.Panics, run]
    exact Bool.false_ne_true
  rw [← HidSession.asserts_swipePointer profile pointerId origin target steps s calm]
  exact run

inductive GestureCall where
  | swipePointer (pointerId : UInt64) (origin target : Int32 × Int32) (steps : UInt32)
  | drag (origin target : Int32 × Int32) (steps : UInt32)
  | pinch (cx cy startRadius endRadius : Int32) (steps : UInt32)
  | multitouchPinch (p0 p1 : MultitouchHandle.Path) (steps : UInt32)
  | lerp (a b : Int32) (t : Float32)
  | bridgeSwipe (id : ActionId) (batchDepth : UInt32) (x1 y1 x2 y2 : Int32) (durMs : UInt32)

namespace GestureCall

/-- No operation overflows, and a swipe or a drag that completes has sent what it should. -/
def Meets (h : MultitouchHandle) : GestureCall → Prop
  | swipePointer pointerId origin target steps =>
    SwipeMeets (fun profile => HidSession.swipePointerIn profile pointerId origin target steps)
      pointerId origin target steps h.session
  | drag origin target steps =>
    SwipeMeets (fun profile => HidSession.dragIn profile origin target steps) 0 origin target steps
      h.session
  | pinch cx cy startRadius endRadius steps =>
    ¬Method.Panics (HidSession.pinchIn .dev cx cy startRadius endRadius steps) h.session
  | multitouchPinch p0 p1 steps => ¬Method.Panics (MultitouchHandle.pinchIn .dev p0 p1 steps) h
  | lerp a b t => ¬Method.Panics (lerpI32 .dev a b t : Method Error Unit Int32) ()
  | bridgeSwipe id batchDepth x1 y1 x2 y2 durMs =>
    ¬Method.Panics (ActionInjector.swipeIn .dev id batchDepth x1 y1 x2 y2 durMs) h.session

/-- The differences that the gesture comes to fit: those of its ends, where the DOWN in front of them is
sent; of a pinch those of the centre and the radii. -/
def Fits (h : MultitouchHandle) : GestureCall → Prop
  | swipePointer pointerId origin target _ =>
    HidSession.SendsAll h.session [HidSession.touchDown pointerId origin] → EndsFit origin target
  | drag origin target _ =>
    HidSession.SendsAll h.session [HidSession.touchDown 0 origin] → EndsFit origin target
  | pinch cx cy startRadius endRadius _ => HidSession.PinchFits h.session cx cy startRadius endRadius
  | multitouchPinch p0 p1 _ => h.isActive p0.id = true → h.isActive p1.id = true →
    EndsFit p0.origin p0.target ∧ EndsFit p1.origin p1.target
  | lerp a b _ => FitsI32 (b.toInt - a.toInt)
  | bridgeSwipe _ _ x1 y1 x2 y2 _ => EndsFit (x1, y1) (x2, y2)

end GestureCall

/-- The arithmetic of a gesture is that of the integers exactly if its differences fit. What a swipe or a
drag sends does not depend on it. -/
theorem gesture_arithmetic_iff (call : GestureCall) (h : MultitouchHandle) :
    call.Meets h ↔ call.Fits h := by
  cases call with
  | swipePointer pointerId origin target steps => exact swipeMeets_iff pointerId origin target steps _
  | drag origin target steps => exact swipeMeets_iff 0 origin target steps _
  | pinch cx cy startRadius endRadius steps =>
    rw [GestureCall.Meets, HidSession.panics_pinch, not_not]
    rfl
  | multitouchPinch p0 p1 steps =>
    rw [GestureCall.Meets, MultitouchHandle.panics_pinch, not_and, not_and, not_not]
    rfl
  | lerp a b t =>
    rw [GestureCall.Meets, lerpI32, Profile.panics_sub,
      or_iff_left ((Method.neverPanics_pure _).not_panics ()), not_not]
    rfl
  | bridgeSwipe id batchDepth x1 y1 x2 y2 durMs =>
    rw [GestureCall.Meets, ActionInjector.panics_swipe, not_not]
    rfl

/-- From the left edge of the coordinates to the right one, and between two points of the client. -/
theorem full_width_overflows :
    Method.Panics (ActionInjector.swipeIn .dev 0 0 Int32.minValue 0 Int32.maxValue 0 16)
        (HidSession.afterOpen .steady id .none) ∧
      Method.Panics (lerpI32 .dev Int32.minValue Int32.maxValue 0 : Method Error Unit Int32) () := by
  constructor
  · rw [ActionInjector.panics_swipe]
    decide
  · exact Profile.panics_sub.mpr (.inl (by decide))

end HidConnect
