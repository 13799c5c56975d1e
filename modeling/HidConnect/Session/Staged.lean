import HidConnect.Coalesce.Staged
import HidConnect.Session.Close

/-! The calls of a session as calls of the queue that its writer is. -/
namespace HidConnect
open Fallible

namespace HidSession

/-- The call of a session is a call of the queue of its writer. -/
def Drains (s s' : HidSession) : Prop := CoalescingWriter.Drains s.transport s'.transport

instance : IsPreorder HidSession Drains where
  refl s := refl_of CoalescingWriter.Drains s.transport
  trans _ _ _ first second := trans_of CoalescingWriter.Drains first second

theorem drains_onWriter {α : Type} {m : Coalescing α} (h : ∀ w, CoalescingWriter.Drains w (m.run w).2) :
    Method.Keeps Drains (onWriter m) := fun s => h s.transport

theorem drains_send (msg : ControlMessage) : Method.Keeps Drains (send msg) :=
  drains_onWriter fun w => (CoalescingWriter.stages_push msg w).drains

theorem drains_flushNow : Method.Keeps Drains flushNow :=
  drains_onWriter fun w => (CoalescingWriter.stages_flushNow w).drains

theorem drains_same {s s' : HidSession} (h : s'.transport = s.transport) : Drains s s' := by
  rw [Drains, h]
  exact refl_of CoalescingWriter.Drains s.transport

theorem drains_lift {α : Type} (r : Result α) : Method.Keeps Drains (.lift r : Session α) :=
  fun s => refl_of Drains s

theorem drains_okOr {α : Type} (e : Error) (o : Option α) :
    Method.Keeps Drains (.okOr e o : Session α) := by
  cases o with
  | none => exact Method.keeps_fail e
  | some a => exact Method.keeps_pure a

/- What the injector calls. -/

theorem drains_injectTouch (action : UInt8) (pointerId : UInt64) (x y : Int32) (pressure : Float32) :
    Method.Keeps Drains (injectTouch action pointerId x y pressure) :=
  Method.keeps_read.bind fun _ => drains_send _

theorem drains_swipe (origin target : Int32 × Int32) (steps : UInt32) :
    Method.Keeps Drains (swipe origin target steps) :=
  (drains_injectTouch _ _ _ _ _).bind fun _ =>
    (Method.keeps_forEach _ fun _ _ => drains_injectTouch _ _ _ _ _).bind fun _ =>
      (drains_injectTouch _ _ _ _ _).bind fun _ => drains_injectTouch _ _ _ _ _

theorem drains_key (scancode : UInt8) (pressed : Bool) (mods : Modifiers) :
    Method.Keeps Drains (key scancode pressed mods) := by
  refine Method.keeps_read.bind fun s => (drains_okOr _ _).bind fun kbd => ?_
  dsimp only
  exact Method.Keeps.bind (fun _ => drains_same rfl) fun _ => (drains_lift _).bind fun _ => drains_send _

theorem drains_injectRawGamepadReport (payload : List UInt8) :
    Method.Keeps Drains (injectRawGamepadReport payload) := by
  unfold injectRawGamepadReport
  split
  · exact Method.keeps_fail _
  · split
    · exact Method.keeps_fail _
    · have hidId : Method.Keeps Drains hidIdOfGamepad := by
        refine Method.keeps_read.bind fun s => ?_
        split
        · exact Method.keeps_fail _
        · exact drains_okOr _ _
      exact hidId.bind fun _ => drains_onWriter fun w =>
        (CoalescingWriter.stages_pushUhidInput _ _ _ w).drains

/- Opening, which is closing too where it fails. -/

theorem drains_openDevices (req : OpenRequest) : Method.Keeps Drains (openDevices req) := by
  rw [openDevices_eq]
  refine Method.keeps_forEach _ fun d _ s => ?_
  have pushed := (CoalescingWriter.stages_push d.create s.transport).drains
  rw [openDevice_run]
  rcases hp : (CoalescingWriter.push d.create).run s.transport with ⟨r, w⟩
  rw [hp] at pushed
  cases r with
  | ok _ => exact pushed
  | err e => exact pushed
  | panic => exact pushed

theorem drains_tryCloseAll : Method.Keeps Drains tryCloseAll := by
  intro s
  cases live : s.closed with
  | true =>
    rw [tryCloseAll, Method.run_read_bind, live]
    exact refl_of Drains s
  | false =>
    obtain ⟨-, transport, -⟩ := tryCloseAll_outcome live
    have pushes : Method.Keeps CoalescingWriter.Drains (CoalescingWriter.pushAll s.farewells) :=
      Method.keeps_forEach _ fun msg _ w => (CoalescingWriter.stages_push msg w).drains
    rw [Drains, transport]
    exact pushes s.transport

theorem tidy_afterOpen (t : Transport) (clock : Nat → Nat) (req : OpenRequest) :
    (afterOpen t clock req).transport.Tidy := by
  have began : (start t clock req).transport.Tidy := by
    intro _
    unfold start
    dsimp only
    split <;> rfl
  have opened := drains_openDevices req (start t clock req)
  unfold afterOpen «open»
  split
  case h_1 s run =>
    rw [run] at opened
    exact CoalescingWriter.Drains.tidy opened began
  case h_2 r s _ run =>
    rw [run] at opened
    have dropped : Drains s s.drop := by
      unfold drop
      refine trans_of Drains ?_ (drains_flushNow _)
      split
      · exact refl_of Drains s
      · exact drains_tryCloseAll s
    exact CoalescingWriter.Drains.tidy (trans_of Drains opened dropped) began

end HidSession

end HidConnect
