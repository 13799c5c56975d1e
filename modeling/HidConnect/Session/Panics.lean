import HidConnect.Control.Text
import HidConnect.Session.Lifecycle
import HidConnect.Session.Intents

/-! Which calls of a session can panic: only the sending of a text that is cut inside a
character. -/
namespace HidConnect
open Fallible

namespace CoalescingWriter

theorem neverPanics_deliver (bytes : List UInt8) : Method.NeverPanics (Transport.deliver bytes) := by
  refine Method.NeverPanics.bind (fun t => ?_) fun _ t => ?_
  · unfold Transport.writeAll
    dsimp only
    split <;> rfl
  · unfold Transport.flush
    dsimp only
    split <;> rfl

theorem neverPanics_now : Method.NeverPanics now := fun _ => rfl

theorem neverPanics_stampFlush : Method.NeverPanics stampFlush :=
  neverPanics_now.bind fun _ => Method.neverPanics_update _

theorem neverPanics_writeThrough (bytes : List UInt8) : Method.NeverPanics (writeThrough bytes) :=
  (neverPanics_deliver bytes).zoom.bind fun _ => Method.neverPanics_update _

theorem neverPanics_flushNow : Method.NeverPanics flushNow := by
  refine Method.neverPanics_read.bind fun _ => ?_
  dsimp only
  split
  · exact neverPanics_stampFlush.bind fun _ => Method.neverPanics_pure _
  · exact (neverPanics_deliver _).zoom.bind fun _ => (Method.neverPanics_update _).bind fun _ =>
      neverPanics_stampFlush.bind fun _ => (Method.neverPanics_update _).bind fun _ =>
        Method.neverPanics_pure _

theorem neverPanics_flushIfWindow (otherwise : FlushReason) :
    Method.NeverPanics (flushIfWindow otherwise) := by
  refine Method.NeverPanics.bind (neverPanics_now.bind fun _ => Method.neverPanics_read.bind
    fun _ => Method.neverPanics_pure _) fun _ => Method.neverPanics_read.bind fun _ => ?_
  split
  · exact neverPanics_flushNow.bind fun _ => Method.neverPanics_pure _
  · exact Method.neverPanics_pure _

theorem neverPanics_flushIfDue : Method.NeverPanics flushIfDue := by
  refine Method.neverPanics_read.bind fun _ => ?_
  split
  · exact neverPanics_flushNow.bind fun _ => Method.neverPanics_pure _
  · exact neverPanics_flushIfWindow _

theorem neverPanics_writeDirect (bytes : List UInt8) : Method.NeverPanics (writeDirect bytes) :=
  (neverPanics_writeThrough bytes).bind fun _ => neverPanics_stampFlush

theorem neverPanics_extendAll (parts : List (List UInt8)) :
    Method.NeverPanics (onPending (extendAll parts)) :=
  (Method.neverPanics_forEach (fun _ => Method.neverPanics_update _) parts).zoom

theorem neverPanics_inputToBuf (id : UInt16) (size : Nat) (data : List UInt8) :
    Method.NeverPanics (onPending (pushUhidInputToBuf id size data)) := by
  refine Method.NeverPanics.zoom ?_
  unfold pushUhidInputToBuf
  split
  · exact Method.neverPanics_fail _
  · exact Method.neverPanics_forEach (fun _ => Method.neverPanics_update _) _

theorem encodeUhidInputToArray_calm (id : UInt16) (size : Nat) (data : List UInt8) :
    (encodeUhidInputToArray id size data).isPanic = false := by
  unfold encodeUhidInputToArray
  split <;> rfl

theorem neverPanics_pushUhidInput (id size : UInt16) (data : List UInt8) :
    Method.NeverPanics (pushUhidInput id size data) := by
  refine Method.neverPanics_read.bind fun _ => (Method.neverPanics_update _).bind fun _ => ?_
  split
  · exact (Method.neverPanics_lift (encodeUhidInputToArray_calm _ _ _)).bind fun _ =>
      (neverPanics_writeDirect _).bind fun _ => Method.neverPanics_pure _
  · exact (neverPanics_inputToBuf _ _ _).bind fun _ => neverPanics_flushIfDue

theorem neverPanics_pushGamepadInput (id : UInt16) (data : Payload) :
    Method.NeverPanics (pushGamepadInput id data) := by
  refine Method.neverPanics_read.bind fun _ => (Method.neverPanics_update _).bind fun _ => ?_
  split
  · exact (neverPanics_writeDirect _).bind fun _ => Method.neverPanics_pure _
  · exact (neverPanics_extendAll _).bind fun _ => neverPanics_flushIfDue

theorem neverPanics_pushGamepadInputFields (id : UInt16) (frame : GamepadFrameRaw) :
    Method.NeverPanics (pushGamepadInputFields id frame) := by
  refine Method.neverPanics_read.bind fun _ => (Method.neverPanics_update _).bind fun _ => ?_
  split
  · exact (neverPanics_writeDirect _).bind fun _ => Method.neverPanics_pure _
  · exact (neverPanics_extendAll _).bind fun _ => neverPanics_flushIfDue

theorem neverPanics_writeChunks (chunks : List (List (List (List UInt8)))) (raw : List UInt8)
    (serialized : Nat) : Method.NeverPanics (writeChunks chunks raw serialized) := by
  induction chunks generalizing raw serialized with
  | nil => exact Method.neverPanics_pure _
  | cons chunk rest ih =>
    refine Method.NeverPanics.bind (Method.NeverPanics.zoom fun t => ?_) fun _ => ih _ _
    unfold Transport.writeAll
    dsimp only
    split <;> rfl

theorem neverPanics_pushLimited (frames : List (List (List UInt8))) (reason : FlushReason) :
    Method.NeverPanics (pushLimited frames reason) := by
  induction frames generalizing reason with
  | nil => exact Method.neverPanics_pure _
  | cons frame rest ih =>
    refine (neverPanics_extendAll frame).bind fun _ => Method.neverPanics_read.bind fun _ => ?_
    split
    · exact neverPanics_flushNow.bind fun _ => ih _
    · exact ih _

theorem neverPanics_pushBatch (frames : List (List (List UInt8))) :
    Method.NeverPanics (pushBatch frames) := by
  refine Method.neverPanics_read.bind fun _ => (Method.neverPanics_update _).bind fun _ => ?_
  split
  · refine (neverPanics_writeChunks _ _ _).bind fun _ => Method.NeverPanics.bind
      (Method.NeverPanics.zoom fun t => ?_) fun _ => (Method.neverPanics_update _).bind fun _ =>
        neverPanics_stampFlush.bind fun _ => Method.neverPanics_pure _
    unfold Transport.flush
    dsimp only
    split <;> rfl
  · refine Method.neverPanics_read.bind fun _ => ?_
    split
    · exact (Method.neverPanics_forEach neverPanics_extendAll _).bind fun _ =>
        neverPanics_flushIfWindow _
    · exact (neverPanics_pushLimited _ _).bind fun _ => neverPanics_flushIfWindow _

theorem neverPanics_pushGamepadInputBatch (id : UInt16) (batch : List Payload) :
    Method.NeverPanics (pushGamepadInputBatch id batch) := by
  match batch with
  | [] => exact Method.neverPanics_pure _
  | [data] => exact neverPanics_pushGamepadInput id data
  | _ :: _ :: _ => exact neverPanics_pushBatch _

theorem neverPanics_pushGamepadInputBatchFromFields (id : UInt16) (frames : List GamepadFrameRaw) :
    Method.NeverPanics (pushGamepadInputBatchFromFields id frames) := by
  match frames with
  | [] => exact Method.neverPanics_pure _
  | [frame] => exact neverPanics_pushGamepadInputFields id frame
  | _ :: _ :: _ => exact neverPanics_pushBatch _

section Messages
variable {msg : ControlMessage}

theorem neverPanics_toScratch (whole : msg.CutsWhole) :
    Method.NeverPanics (pushMessageToScratch msg) :=
  (Method.neverPanics_update _).bind fun _ =>
    (ControlMessage.neverPanics_serializeInto whole).zoom.bind fun _ => Method.neverPanics_pure _

theorem neverPanics_writeScratch (whole : msg.CutsWhole) {stamp : Coalescing Unit}
    (calm : Method.NeverPanics stamp) : Method.NeverPanics (writeScratch msg stamp) :=
  (neverPanics_toScratch whole).bind fun _ => Method.neverPanics_read.bind fun _ =>
    (Method.neverPanics_update _).bind fun _ => (neverPanics_writeThrough _).bind fun _ => calm

theorem neverPanics_pushDirect (whole : msg.CutsWhole) : Method.NeverPanics (pushDirect msg) := by
  refine (Method.neverPanics_update _).bind fun _ => ?_
  split
  · exact (Method.neverPanics_lift (encodeUhidInputToArray_calm _ _ _)).bind fun _ =>
      (neverPanics_writeDirect _).bind fun _ => Method.neverPanics_pure _
  · exact (neverPanics_writeScratch whole neverPanics_stampFlush).bind fun _ =>
      Method.neverPanics_pure _

theorem neverPanics_bufferMessage (whole : msg.CutsWhole) :
    Method.NeverPanics (bufferMessage msg) := by
  unfold bufferMessage
  split
  · exact neverPanics_inputToBuf _ _ _
  · exact (neverPanics_toScratch whole).bind fun _ => Method.neverPanics_read.bind fun _ =>
      Method.NeverPanics.zoom (Method.neverPanics_update _)

theorem neverPanics_push (whole : msg.CutsWhole) : Method.NeverPanics (push msg) := by
  refine Method.neverPanics_read.bind fun _ => ?_
  split
  · exact neverPanics_pushDirect whole
  · refine (Method.neverPanics_update _).bind fun _ => ?_
    split
    · exact neverPanics_flushNow.bind fun _ =>
        (neverPanics_writeScratch whole (Method.neverPanics_pure _)).bind fun _ =>
          Method.neverPanics_pure _
    · exact (neverPanics_bufferMessage whole).bind fun _ => neverPanics_flushIfDue

/-- The text is serialized before anything is written, so a bad cut panics whatever the writer
holds. -/
theorem push_panics (inside : ¬msg.CutsWhole) (w : CoalescingWriter) :
    ((push msg).run w).1 = .panic := by
  have panic := ControlMessage.serialize_panics inside
  have scratch (w : CoalescingWriter) : ((pushMessageToScratch msg).run w).1 = .panic := by
    rw [pushMessageToScratch, Method.run_update_bind]
    refine Method.run_bind_panics ?_
    rw [onScratch, Method.run_zoom]
    exact ControlMessage.serializeInto_panic panic _
  have pushed (plain : ∀ i, msg ≠ .uhidInput i) (droppable : msg.isCritical = false) :
      ((push msg).run w).1 = .panic := by
    cases mode : w.direct with
    | true =>
      rw [push_direct_run plain mode]
      exact Method.run_bind_panics (Method.run_bind_panics (scratch _))
    | false =>
      rw [push, Method.run_read_bind, mode, if_neg Bool.false_ne_true, countPushed,
        Method.run_update_bind, droppable, if_neg Bool.false_ne_true,
        bufferMessage_plain plain]
      exact Method.run_bind_panics (Method.run_bind_panics (scratch _))
  cases msg with
  | injectText t => exact pushed (by simp) rfl
  | setClipboard s => exact pushed (by simp) rfl
  | _ => exact (inside fun c capped => by cases capped).elim

end Messages

end CoalescingWriter

namespace HidSession

theorem neverPanics_onWriter {α : Type} {m : Coalescing α} (h : Method.NeverPanics m) :
    Method.NeverPanics (onWriter m) :=
  fun s => h s.transport

theorem neverPanics_send {msg : ControlMessage} (whole : msg.CutsWhole) :
    Method.NeverPanics (send msg) :=
  neverPanics_onWriter (CoalescingWriter.neverPanics_push whole).discard

theorem send_panics {msg : ControlMessage} (inside : ¬msg.CutsWhole) (s : HidSession) :
    ((send msg).run s).1 = .panic := by
  rw [send, onWriter, Method.run_zoom, Method.run_discard,
    CoalescingWriter.push_panics inside]
  rfl

theorem neverPanics_textless {msg : ControlMessage} (h : msg.cappedText = none) :
    Method.NeverPanics (send msg) :=
  neverPanics_send fun _ capped => nomatch h.symm.trans capped

theorem neverPanics_flushNow : Method.NeverPanics flushNow :=
  neverPanics_onWriter CoalescingWriter.neverPanics_flushNow

/- Keyboard and mouse. -/

theorem neverPanics_key (scancode : UInt8) (pressed : Bool) (mods : Modifiers) :
    Method.NeverPanics (key scancode pressed mods) := by
  intro s
  rw [key, Method.run_read_bind]
  cases s.kbd with
  | none => rfl
  | some k =>
    have sends : Method.NeverPanics (do
        let msg ← .lift ((KeyboardHid.keyEvent scancode pressed mods).run k).1
        send msg : Session Unit) := by
      rcases k.keyEvent_run scancode pressed mods with ⟨_, t, data, run⟩ | ⟨_, run⟩
      · rw [run]
        exact fun s => neverPanics_textless rfl s
      · rw [run]
        exact fun _ => rfl
    exact sends _

theorem neverPanics_keyTap (scancode : UInt8) (mods : Modifiers) :
    Method.NeverPanics (keyTap scancode mods) :=
  (neverPanics_key _ _ _).bind fun _ => neverPanics_key _ _ _

theorem neverPanics_typeText (text : String) : Method.NeverPanics (typeText text) := by
  refine Method.neverPanics_forEach (fun ch => ?_) _
  split
  · exact neverPanics_keyTap _ _
  · exact Method.neverPanics_pure _

theorem neverPanics_typeTextStrict (text : String) :
    Method.NeverPanics (typeTextStrict text) := by
  refine Method.neverPanics_forEach (fun ch => ?_) _
  split
  · exact neverPanics_keyTap _ _
  · exact Method.neverPanics_fail _

theorem neverPanics_pushReport (report : HidReport) : Method.NeverPanics (pushReport report) :=
  neverPanics_onWriter (CoalescingWriter.neverPanics_pushUhidInput _ _ _).discard

theorem neverPanics_mouse {α : Type} {f : MouseHid → Session α}
    (h : ∀ m, Method.NeverPanics (f m)) : Method.NeverPanics (do
      let m ← .okOr mouseNotOpen (← .read).mouse
      f m : Session α) :=
  Method.neverPanics_read.bind fun _ => (Method.neverPanics_okOr _ _).bind h

theorem neverPanics_mouseScroll (hscroll vscroll : Float32) :
    Method.NeverPanics (mouseScroll hscroll vscroll) := by
  refine neverPanics_mouse fun m => ?_
  dsimp only
  refine (Method.neverPanics_update _).bind fun _ => ?_
  split
  · exact Method.neverPanics_pure _
  · exact (neverPanics_pushReport _).bind fun _ => Method.neverPanics_pure _

/- Touch and scroll. -/

theorem neverPanics_injectTouch (action : UInt8) (pointerId : UInt64) (x y : Int32)
    (pressure : Float32) : Method.NeverPanics (injectTouch action pointerId x y pressure) :=
  Method.neverPanics_read.bind fun _ => neverPanics_textless rfl

theorem neverPanics_injectScroll (x y : Int32) (hscroll vscroll : Float32) (buttons : UInt32) :
    Method.NeverPanics (injectScroll x y hscroll vscroll buttons) :=
  Method.neverPanics_read.bind fun _ => neverPanics_textless rfl

/- Gamepad. -/

theorem neverPanics_cachedSlot : Method.NeverPanics gamepadWithCachedSlot := by
  refine Method.neverPanics_read.bind fun s => ?_
  split
  · exact Method.neverPanics_fail _
  · exact (Method.neverPanics_okOr _ _).bind fun _ => (Method.neverPanics_okOr _ _).bind fun _ =>
      Method.neverPanics_pure _

theorem neverPanics_hidIdOfGamepad : Method.NeverPanics hidIdOfGamepad := by
  refine Method.neverPanics_read.bind fun s => ?_
  split
  · exact Method.neverPanics_fail _
  · exact Method.neverPanics_okOr _ _

theorem neverPanics_pushGamepad (hidId : UInt16) (payload : Payload) :
    Method.NeverPanics (pushGamepad hidId payload) :=
  neverPanics_onWriter (CoalescingWriter.neverPanics_pushGamepadInput _ _).discard

theorem neverPanics_pushGamepadBatch (hidId : UInt16) (batch : List Payload) :
    Method.NeverPanics (pushGamepadBatch hidId batch) :=
  neverPanics_onWriter (CoalescingWriter.neverPanics_pushGamepadInputBatch _ _).discard

theorem neverPanics_checkedUpdate (event : GamepadSlot → Option GamepadSlot) :
    Method.NeverPanics (checkedUpdate event) := by
  refine neverPanics_cachedSlot.bind fun cached => (Method.neverPanics_update _).bind fun _ => ?_
  split
  · exact (neverPanics_pushGamepad _ _).bind fun _ => Method.neverPanics_pure _
  · exact Method.neverPanics_pure _

theorem neverPanics_checkedBatch (i : SlotIdx) (frames : List GamepadFrameRaw) (gp : GamepadHid)
    (batch : List Payload) (batchId : Option UInt16) (sent : Nat) :
    Method.NeverPanics (checkedBatch i frames gp batch batchId sent) := by
  induction frames generalizing gp batch batchId sent with
  | nil =>
    unfold checkedBatch
    split
    · split
      · exact Method.neverPanics_pure _
      · exact (neverPanics_pushGamepadBatch _ _).bind fun _ => Method.neverPanics_pure _
    · exact Method.neverPanics_pure _
  | cons frame rest ih =>
    rw [checkedBatch]
    refine (Method.neverPanics_update _).bind fun _ => ?_
    split
    · exact ih _ _ _ _
    · dsimp only
      split
      · exact (neverPanics_pushGamepadBatch _ _).bind fun _ => ih _ _ _ _
      · exact ih _ _ _ _

theorem neverPanics_setFrameRawBatch (frames : List GamepadFrameRaw) :
    Method.NeverPanics (setFrameRawBatch frames) := by
  match frames with
  | [] => exact Method.neverPanics_pure _
  | [frame] =>
    refine (neverPanics_checkedUpdate _).bind fun changed => ?_
    split <;> exact Method.neverPanics_pure _
  | _ :: _ :: _ => exact neverPanics_cachedSlot.bind fun _ => neverPanics_checkedBatch _ _ _ _ _ _

theorem neverPanics_setFrameRawUnchecked (frame : GamepadFrameRaw) :
    Method.NeverPanics (setFrameRawUnchecked frame) :=
  neverPanics_hidIdOfGamepad.bind fun _ =>
    neverPanics_onWriter (CoalescingWriter.neverPanics_pushGamepadInputFields _ _).discard

theorem neverPanics_setFrameRawPacked (payload : Payload) :
    Method.NeverPanics (setFrameRawPacked payload) :=
  neverPanics_hidIdOfGamepad.bind fun _ => neverPanics_pushGamepad _ _

theorem neverPanics_setFrameRawBatchUnchecked (frames : List GamepadFrameRaw) :
    Method.NeverPanics (setFrameRawBatchUnchecked frames) := by
  match frames with
  | [] => exact Method.neverPanics_pure _
  | [frame] =>
    exact (neverPanics_setFrameRawUnchecked frame).bind fun _ => Method.neverPanics_pure _
  | _ :: _ :: _ =>
    exact neverPanics_hidIdOfGamepad.bind fun _ => (neverPanics_onWriter
      (CoalescingWriter.neverPanics_pushGamepadInputBatchFromFields _ _).discard).bind fun _ =>
        Method.neverPanics_pure _

theorem neverPanics_setFrameRawPackedBatch (frames : List Payload) :
    Method.NeverPanics (setFrameRawPackedBatch frames) := by
  match frames with
  | [] => exact Method.neverPanics_pure _
  | [payload] =>
    exact (neverPanics_setFrameRawPacked payload).bind fun _ => Method.neverPanics_pure _
  | _ :: _ :: _ =>
    exact neverPanics_hidIdOfGamepad.bind fun _ => (neverPanics_pushGamepadBatch _ _).bind fun _ =>
      Method.neverPanics_pure _

/- Closing. -/

theorem neverPanics_close : Method.NeverPanics close := by
  intro s
  cases live : s.closed with
  | true =>
    rw [close, tryCloseAll, Method.run_read_bind, live]
    rfl
  | false =>
    rw [close, (tryCloseAll_outcome live).1]
    have pushes (msgs : List ControlMessage) (all : CoalescingWriter.AllCritical msgs) :
        Method.NeverPanics (CoalescingWriter.pushAll msgs) := by
      induction msgs with
      | nil => exact Method.neverPanics_pure _
      | cons msg rest ih =>
        have whole : msg.CutsWhole := by
          rw [← ControlMessage.serialize_isPanic_iff, (all msg (List.mem_cons_self ..)).1.eq]
          rfl
        exact (CoalescingWriter.neverPanics_push whole).discard.bind fun _ =>
          ih fun m hm => all m (List.mem_cons_of_mem _ hm)
    exact pushes _ (allCritical_farewells s) s.transport

end HidSession

end HidConnect
