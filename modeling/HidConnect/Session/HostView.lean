import HidConnect.Session.Chord
import HidConnect.Session.DeviceLife
import HidConnect.Hid.Descriptor

/-! What the host shows of a session's keyboard: the bytes on the wire, split into reports and read by
the report descriptor, against the key events that the calls so far have made. -/
namespace HidConnect
open Fallible

namespace HidSession

/- Which operations leave the keyboard's driver alone. -/

def SameKeyboard (s s' : HidSession) : Prop := s'.kbd = s.kbd

instance : IsPreorder HidSession SameKeyboard where
  refl _ := rfl
  trans _ _ _ first second := second.trans first

theorem sameKeyboard_onWriter {α : Type} (m : Coalescing α) :
    Method.Keeps SameKeyboard (onWriter m) := fun _ => rfl

theorem sameKeyboard_okOr {α : Type} (e : Error) (o : Option α) :
    Method.Keeps SameKeyboard (.okOr e o : Session α) := by
  cases o with
  | none => exact Method.keeps_fail e
  | some a => exact Method.keeps_pure a

theorem sameKeyboard_injectTouch (action : UInt8) (pointerId : UInt64) (x y : Int32)
    (pressure : Float32) : Method.Keeps SameKeyboard (injectTouch action pointerId x y pressure) :=
  Method.keeps_read.bind fun _ => sameKeyboard_onWriter _

theorem sameKeyboard_touches {ι : Type} (xs : List ι) {touch : ι → Session Unit}
    (h : ∀ x, Method.Keeps SameKeyboard (touch x)) :
    Method.Keeps SameKeyboard (.forEach xs touch) :=
  Method.keeps_forEach xs fun x _ => h x

theorem sameKeyboard_swipePointer (pointerId : UInt64) (origin target : Int32 × Int32)
    (steps : UInt32) : Method.Keeps SameKeyboard (swipePointer pointerId origin target steps) :=
  (sameKeyboard_injectTouch _ _ _ _ _).bind fun _ =>
    (sameKeyboard_touches _ fun _ => sameKeyboard_injectTouch _ _ _ _ _).bind fun _ =>
      (sameKeyboard_injectTouch _ _ _ _ _).bind fun _ => sameKeyboard_injectTouch _ _ _ _ _

theorem sameKeyboard_threeFingerScreenshot : Method.Keeps SameKeyboard threeFingerScreenshot :=
  Method.Keeps.bind Method.keeps_read fun _ =>
    Method.Keeps.bind (sameKeyboard_touches _ fun _ => sameKeyboard_injectTouch _ _ _ _ _) fun _ =>
      Method.Keeps.bind
        (sameKeyboard_touches _ fun _ =>
          sameKeyboard_touches _ fun _ => sameKeyboard_injectTouch _ _ _ _ _)
        fun _ => sameKeyboard_touches _ fun _ => sameKeyboard_injectTouch _ _ _ _ _

theorem sameKeyboard_releaseAll (n : Nat) : Method.Keeps SameKeyboard (releaseAll n) :=
  sameKeyboard_touches _ fun _ => Method.keeps_ignore (sameKeyboard_injectTouch _ _ _ _ _)

theorem sameKeyboard_pressAll (id : Nat) (points : List (Int32 × Int32)) :
    Method.Keeps SameKeyboard (pressAll id points) := by
  induction points generalizing id with
  | nil => exact Method.keeps_pure ()
  | cons point rest ih =>
    have press := (sameKeyboard_injectTouch TouchAction.down id.toUInt64 point.1 point.2 1).rollback
      (sameKeyboard_releaseAll id)
    exact press.bind fun _ => ih (id + 1)

theorem sameKeyboard_multitouch {α : Type} {m : Method Error MultitouchHandle α}
    (h : Method.Keeps (fun h h' : MultitouchHandle => SameKeyboard h.session h'.session) m) :
    Method.Keeps SameKeyboard (multitouch m) :=
  Method.keeps_zoom (fun _ _ kept => kept) h

end HidSession

namespace MultitouchHandle
open HidSession

def SameKeyboard (h h' : MultitouchHandle) : Prop := HidSession.SameKeyboard h.session h'.session

instance : IsPreorder MultitouchHandle SameKeyboard where
  refl _ := rfl
  trans _ _ _ first second := second.trans first

theorem sameKeyboard_onSession {α : Type} {m : Session α}
    (h : Method.Keeps HidSession.SameKeyboard m) : Method.Keeps SameKeyboard (onSession m) :=
  Method.keeps_zoom (fun _ _ kept => kept) h

theorem sameKeyboard_checkId (id : UInt64) : Method.Keeps SameKeyboard (checkId id) := by
  unfold checkId
  split
  · exact Method.keeps_pure _
  · exact Method.keeps_fail _

theorem sameKeyboard_touch (action : UInt8) (id : UInt64) (x y : Int32) (pressure : Float32)
    (i : Fin 10) (on : Bool) : Method.Keeps SameKeyboard (do
      onSession (injectTouch action id x y pressure)
      setActive i on : Multitouch Unit) :=
  (sameKeyboard_onSession (sameKeyboard_injectTouch _ _ _ _ _)).bind fun _ =>
    Method.keeps_update fun _ => rfl

theorem sameKeyboard_down (id : UInt64) (x y : Int32) (pressure : Float32) :
    Method.Keeps SameKeyboard (down id x y pressure) := by
  refine (sameKeyboard_checkId id).bind fun i => Method.keeps_read.bind fun h => ?_
  split
  · exact Method.keeps_fail _
  · exact sameKeyboard_touch _ _ _ _ _ _ _

theorem sameKeyboard_lift (action : UInt8) (id : UInt64) :
    Method.Keeps SameKeyboard (lift action id) := by
  refine (sameKeyboard_checkId id).bind fun i => Method.keeps_read.bind fun h => ?_
  split
  · exact sameKeyboard_touch _ _ _ _ _ _ _
  · exact Method.keeps_fail _

theorem sameKeyboard_pinch (p0 p1 : Path) (steps : UInt32) :
    Method.Keeps SameKeyboard (pinch p0 p1 steps) := by
  refine (sameKeyboard_checkId _).bind fun _ => (sameKeyboard_checkId _).bind fun _ =>
    Method.keeps_read.bind fun _ => ?_
  split
  · have moves (p : Path) (t : Float32) : Method.Keeps SameKeyboard (movePath p t) :=
      sameKeyboard_onSession (sameKeyboard_injectTouch _ _ _ _ _)
    exact Method.keeps_forEach _ fun t _ => (moves p0 t).bind fun _ => moves p1 t
  · exact Method.keeps_fail _

end MultitouchHandle

namespace HidSession

theorem sameKeyboard_gesture (gesture : Gesture) : Method.Keeps SameKeyboard gesture.run := by
  have touch (action : UInt8) (id : UInt64) (x y : Int32) (pressure : Float32) :=
    sameKeyboard_injectTouch action id x y pressure
  cases gesture with
  | tapPointer pointerId x y =>
    exact (touch _ _ _ _ _).bind fun _ => (touch _ _ _ _ _).rollback
      (sameKeyboard_touches _ fun _ => Method.keeps_ignore (touch _ _ _ _ _))
  | swipePointer pointerId origin target steps => exact sameKeyboard_swipePointer _ _ _ _
  | doubleTap x y =>
    exact (touch _ _ _ _ _).bind fun _ => (touch _ _ _ _ _).bind fun _ =>
      (touch _ _ _ _ _).bind fun _ => touch _ _ _ _ _
  | longPress x y => exact (touch _ _ _ _ _).bind fun _ => touch _ _ _ _ _
  | threeFingerScreenshot => exact sameKeyboard_threeFingerScreenshot
  | drag origin target steps => exact sameKeyboard_swipePointer 0 origin target steps
  | pinch cx cy startRadius endRadius steps =>
    exact sameKeyboard_multitouch <| (MultitouchHandle.sameKeyboard_down _ _ _ _).bind fun _ =>
      (MultitouchHandle.sameKeyboard_down _ _ _ _).bind fun _ =>
        (MultitouchHandle.sameKeyboard_pinch _ _ _).bind fun _ =>
          (MultitouchHandle.sameKeyboard_lift _ _).bind fun _ =>
            MultitouchHandle.sameKeyboard_lift _ _
  | multiFingerTap points =>
    rw [Gesture.run, multiFingerTap]
    split
    · refine (sameKeyboard_pressAll 0 points).bind fun _ => Method.Keeps.rollback ?_
        (sameKeyboard_releaseAll _)
      exact sameKeyboard_touches _ fun _ => touch _ _ _ _ _
    · exact Method.keeps_fail _

theorem sameKeyboard_hidId : Method.Keeps SameKeyboard hidIdOfGamepad := by
  refine Method.keeps_read.bind fun s => ?_
  split
  · exact Method.keeps_fail _
  · exact sameKeyboard_okOr _ _

theorem sameKeyboard_cachedSlot : Method.Keeps SameKeyboard gamepadWithCachedSlot := by
  refine Method.keeps_read.bind fun s => ?_
  split
  · exact Method.keeps_fail _
  · exact (sameKeyboard_okOr _ _).bind fun _ => (sameKeyboard_okOr _ _).bind fun _ =>
      Method.keeps_pure _

theorem sameKeyboard_storeGamepad (gp : GamepadHid) :
    Method.Keeps SameKeyboard (.update fun s => { s with gamepad := some gp } : Session Unit) :=
  fun _ => rfl

theorem sameKeyboard_checkedUpdate (event : GamepadSlot → Option GamepadSlot) :
    Method.Keeps SameKeyboard (checkedUpdate event) := by
  refine sameKeyboard_cachedSlot.bind fun found => ?_
  refine Method.Keeps.bind (sameKeyboard_storeGamepad _) fun _ => ?_
  split
  · exact (sameKeyboard_onWriter _).bind fun _ => Method.keeps_pure _
  · exact Method.keeps_pure _

theorem sameKeyboard_checkedBatch (i : SlotIdx) (frames : List GamepadFrameRaw) (gp : GamepadHid)
    (batch : List Payload) (batchId : Option UInt16) (sent : Nat) :
    Method.Keeps SameKeyboard (checkedBatch i frames gp batch batchId sent) := by
  induction frames generalizing gp batch batchId sent with
  | nil =>
    rw [checkedBatch_nil]
    split
    · split
      · exact Method.keeps_pure _
      · exact (sameKeyboard_onWriter _).bind fun _ => Method.keeps_pure _
    · exact Method.keeps_pure _
  | cons frame rest ih =>
    rw [checkedBatch_cons]
    refine Method.Keeps.bind (sameKeyboard_storeGamepad _) fun _ => ?_
    split
    · exact ih _ _ _ _
    · split
      · exact (sameKeyboard_onWriter _).bind fun _ => ih _ _ _ _
      · exact ih _ _ _ _

theorem sameKeyboard_gamepadOp (op : GamepadOp) : Method.Keeps SameKeyboard op.run := by
  have pushed {α : Type} (m : UInt16 → Coalescing α) :
      Method.Keeps SameKeyboard (hidIdOfGamepad >>= fun hidId => onWriter (m hidId)) :=
    sameKeyboard_hidId.bind fun _ => sameKeyboard_onWriter _
  cases op with
  | update u =>
    rw [GamepadOp.run, u.run_eq]
    exact Method.keeps_discard (sameKeyboard_checkedUpdate _)
  | setFrameRawBatch frames =>
    apply Method.keeps_discard
    rcases frames with _ | ⟨frame, _ | ⟨second, rest⟩⟩
    · exact Method.keeps_pure 0
    · refine (sameKeyboard_checkedUpdate _).bind fun sent => ?_
      split
      · exact Method.keeps_pure 1
      · exact Method.keeps_pure 0
    · exact sameKeyboard_cachedSlot.bind fun _ => sameKeyboard_checkedBatch _ _ _ _ _ _
  | setFrameRawUnchecked frame => exact pushed _
  | setFrameRawUncheckedFrame frame => exact pushed _
  | setFrameRawPacked payload => exact pushed _
  | injectRawGamepadReport payload =>
    rw [GamepadOp.run, injectRawGamepadReport]
    split
    · exact Method.keeps_fail _
    · split
      · exact Method.keeps_fail _
      · exact pushed _
  | setFrameRawBatchUnchecked frames =>
    apply Method.keeps_discard
    rcases frames with _ | ⟨frame, _ | ⟨second, rest⟩⟩
    · exact Method.keeps_pure 0
    · exact (pushed _).bind fun _ => Method.keeps_pure 1
    · exact sameKeyboard_hidId.bind fun _ => (sameKeyboard_onWriter _).bind fun _ =>
        Method.keeps_pure _
  | setFrameRawPackedBatch frames =>
    apply Method.keeps_discard
    rcases frames with _ | ⟨payload, _ | ⟨second, rest⟩⟩
    · exact Method.keeps_pure 0
    · exact (pushed _).bind fun _ => Method.keeps_pure 1
    · exact sameKeyboard_hidId.bind fun _ => (sameKeyboard_onWriter _).bind fun _ =>
        Method.keeps_pure _

theorem sameKeyboard_mouse {α : Type} {f : MouseHid → Session α}
    (h : ∀ m, Method.Keeps SameKeyboard (f m)) :
    Method.Keeps SameKeyboard (do
      let mouse ← .okOr mouseNotOpen (← Method.read).mouse
      f mouse : Session α) :=
  Method.keeps_read.bind fun _ => (sameKeyboard_okOr _ _).bind fun m => h m

theorem sameKeyboard_mouseScroll (hscroll vscroll : Float32) :
    Method.Keeps SameKeyboard (mouseScroll hscroll vscroll) := by
  refine sameKeyboard_mouse fun m => ?_
  have stored : Method.Keeps SameKeyboard (.update fun s => { s with
      mouse := some (m.generateInputFromScroll hscroll vscroll).2 } : Session Unit) := fun _ => rfl
  refine stored.bind fun _ => ?_
  split
  · exact Method.keeps_pure _
  · exact (sameKeyboard_onWriter _).bind fun _ => Method.keeps_pure _

/-- Neither a key event, nor an edit of the driver by hand, nor the close. -/
def Unkeyed : SessionOp → Prop
  | .key _ _ _ | .typeText _ | .typeTextStrict _ | .keyChord _ _ => False
  | .editKeyboard _ | .close => False
  | _ => True

theorem sameKeyboard_op {op : SessionOp} (unkeyed : Unkeyed op) :
    Method.Keeps SameKeyboard op.run := by
  cases op with
  | send msg => exact sameKeyboard_onWriter _
  | flushNow => exact sameKeyboard_onWriter _
  | setScreenSize w h => exact fun _ => rfl
  | editMouse edit =>
    refine Method.keeps_read.bind fun s => ?_
    split
    · exact fun _ => rfl
    · exact Method.keeps_crash
  | editGamepad edit =>
    refine Method.keeps_read.bind fun s => ?_
    split
    · exact fun _ => rfl
    · exact Method.keeps_crash
  | mouseMotion dx dy buttonsState => exact sameKeyboard_mouse fun _ => sameKeyboard_onWriter _
  | mouseButtons buttonsState => exact sameKeyboard_mouse fun _ => sameKeyboard_onWriter _
  | mouseScroll hscroll vscroll => exact Method.keeps_discard (sameKeyboard_mouseScroll _ _)
  | mouseFrameBatch frames =>
    rw [SessionOp.run, mouseFrameBatch]
    refine Method.keeps_discard ?_
    split
    · exact Method.keeps_pure _
    · exact sameKeyboard_mouse fun _ =>
        (Method.keeps_forEach _ fun _ _ => sameKeyboard_onWriter _).bind fun _ => Method.keeps_pure _
  | gamepad op => exact sameKeyboard_gamepadOp op
  | tapAndroidKeycode keycode metastate =>
    exact (sameKeyboard_onWriter _).bind fun _ => sameKeyboard_onWriter _
  | injectTouch action pointerId x y pressure => exact sameKeyboard_injectTouch _ _ _ _ _
  | injectScroll x y hscroll vscroll buttons =>
    exact Method.keeps_read.bind fun _ => sameKeyboard_onWriter _
  | gesture gesture => exact sameKeyboard_gesture gesture
  | _ => contradiction

theorem quiet_of_allowed {s : HidSession} (pad : s.gamepadHidId ≠ some hidIdKeyboard)
    {msgs : List ControlMessage}
    (allowed : ∀ msg ∈ msgs, Allowed { keys := False, moves := True, raw := False } s msg) :
    keyReports (msgs.map eventOfMessage) = [] := by
  refine List.filterMap_eq_nil_iff.mpr fun event he => ?_
  obtain ⟨msg, hm, rfl⟩ := List.mem_map.mp he
  have allowed := allowed msg hm
  cases msg with
  | uhidInput i =>
    have other : i.id ≠ hidIdKeyboard := by
      rintro own
      rw [Allowed, own] at allowed
      rcases allowed with raw | ⟨_, keys, _⟩ | ⟨mouse, _⟩ | ⟨_, named | ⟨slot, _, bound⟩⟩
      · exact raw
      · exact keys
      · exact absurd mouse (by decide)
      · exact pad named
      · exact (by decide : ∀ slot : SlotIdx, GamepadHid.slotHidId slot ≠ hidIdKeyboard) slot bound
    exact if_neg other
  | _ => rfl

end HidSession

/- The key events that an operation makes. -/

def charPresses (ch : Char) : List KeyPress :=
  match Scancode.tryFromChar ch with
  | (some sc, mods) => [⟨sc.toU8, true, mods⟩, ⟨sc.toU8, false, mods⟩]
  | (none, _) => []

def SessionOp.presses : SessionOp → List KeyPress
  | .key scancode pressed mods => [⟨scancode, pressed, mods⟩]
  | .typeText text => text.toList.flatMap charPresses
  | .typeTextStrict text => (text.toList.takeWhile HidSession.supported).flatMap charPresses
  | .keyChord mods scancode =>
    [⟨scancode, true, mods⟩, ⟨scancode, false, mods⟩] ++ [HidSession.release scancode]
  | _ => []

/-- The report of the last event that the keyboard accepts: all keys that are held by then. -/
def shownReport (presses : List KeyPress) : Option KeyReport :=
  (presses.filter fun p => KeyboardHid.accepts p.scancode).getLast?.map fun p =>
    [p.modifiers.bits, 0] ++ keySlots (KeyboardHid.heldAfter presses)

namespace KeyboardHid

theorem heldAfter_snoc (presses : List KeyPress) (p : KeyPress) :
    heldAfter (presses ++ [p]) =
      if accepts p.scancode then p.hold (heldAfter presses) else heldAfter presses := by
  simp [heldAfter, List.foldl_append]

theorem shownReport_accepted (presses : List KeyPress) {p : KeyPress}
    (valid : accepts p.scancode = true) : shownReport (presses ++ [p]) =
      some ([p.modifiers.bits, 0] ++ keySlots (p.hold (heldAfter presses))) := by
  rw [shownReport, heldAfter_snoc, if_pos valid, List.filter_append, List.filter_singleton, valid]
  simp

theorem shownReport_refused (presses : List KeyPress) {p : KeyPress}
    (bad : accepts p.scancode = false) : shownReport (presses ++ [p]) = shownReport presses := by
  simp [shownReport, heldAfter_snoc, bad]

theorem press_accepted (k : KeyboardHid) {p : KeyPress} (valid : accepts p.scancode = true) :
    press k p = k.after p := by
  rw [press, injectKey_run, if_pos valid]

theorem press_refused (k : KeyboardHid) {p : KeyPress} (bad : accepts p.scancode = false) :
    press k p = k := by
  simp [press, injectKey_run, bad]

end KeyboardHid

namespace HidSession

/-- Over a transport that never fails, the keyboard is what the events have made of it, and so is
the last of its reports. -/
structure Showing (presses : List KeyPress) (s : HidSession) : Prop where
  keyboard : s.kbd = some (Run.after KeyboardHid.press .new presses)
  pad : s.gamepadHidId ≠ some hidIdKeyboard
  working : Working s
  stream : ∃ d sent held, CoalescingWriter.Carries d s.transport sent held ∧
    [Device.create .keyboard] <+: sent ++ held ∧
      (keyReports ((sent ++ held).map eventOfMessage)).getLast? = shownReport presses

namespace Showing
variable {presses : List KeyPress} {s : HidSession}

theorem delivered (h : Showing presses s) :
    (keyReports s.delivered).getLast? = shownReport presses := by
  obtain ⟨d, sent, held, carries, -, shown⟩ := h.stream
  rw [delivered_of_carries carries h.working, shown]

theorem accepted (h : Showing presses s) {p : KeyPress}
    (valid : KeyboardHid.accepts p.scancode = true) :
    ∃ s', (keyPress p).run s = (.ok (), s') ∧ Showing (presses ++ [p]) s' := by
  obtain ⟨d, sent, held, carries, created, shown⟩ := h.stream
  have eight := length_pressReport (Run.after KeyboardHid.press .new presses) p
  obtain ⟨s', sent', held', run, kbd, carries', joined, working⟩ := key_report h.keyboard carries
    h.working eight (KeyboardHid.keyEvent_after _ valid)
  refine ⟨s', run, ?_⟩
  have stays := keeps_key (g := anyReport) p.scancode p.pressed p.modifiers (fun _ => trivial) s
  rw [run] at stays
  constructor
  case keyboard => rw [kbd, Run.after_append, Run.after, Run.after, KeyboardHid.press_accepted _ valid]
  case pad => rw [stays.same.hidId]; exact h.pad
  case working => exact working
  case stream =>
    refine ⟨d, sent', held', carries', joined ▸ created.trans (List.prefix_append _ _), ?_⟩
    have one := keyReports_messages (List.forall_mem_singleton.mpr eight)
    rw [joined, List.map_append, keyReports, List.filterMap_append, ← keyReports, ← keyReports, one,
      KeyboardHid.shownReport_accepted presses valid, KeyboardHid.held_after, KeyboardHid.held_run]
    exact List.getLast?_concat ..

theorem refused (h : Showing presses s) {p : KeyPress}
    (bad : KeyboardHid.accepts p.scancode = false) : Showing (presses ++ [p]) s where
  keyboard := by
    rw [h.keyboard, Run.after_append, Run.after, Run.after, KeyboardHid.press_refused _ bad]
  pad := h.pad
  working := h.working
  stream := by
    rw [KeyboardHid.shownReport_refused presses bad]
    exact h.stream

theorem all (h : Showing presses s) (more : List KeyPress)
    (valid : ∀ p ∈ more, KeyboardHid.accepts p.scancode = true) :
    ∃ s', (Method.forEach more keyPress).run s = (.ok (), s') ∧ Showing (presses ++ more) s' := by
  induction more generalizing presses s with
  | nil => exact ⟨s, rfl, by simpa using h⟩
  | cons p rest ih =>
    obtain ⟨s₁, first, h₁⟩ := h.accepted (valid p (List.mem_cons_self ..))
    obtain ⟨s', run, h'⟩ := ih h₁ fun q hq => valid q (List.mem_cons_of_mem _ hq)
    refine ⟨s', ?_, by simpa using h'⟩
    rw [Method.forEach_cons, Method.run_bind_ok first, run]

theorem key (h : Showing presses s) (p : KeyPress) :
    Showing (presses ++ [p]) ((keyPress p).run s).2 := by
  cases valid : KeyboardHid.accepts p.scancode with
  | true =>
    obtain ⟨s', run, after⟩ := h.accepted valid
    rw [run]
    exact after
  | false =>
    obtain ⟨e, run⟩ := keyPress_refused (s := s) (p := p) (.inr valid)
    rw [run]
    exact h.refused valid

theorem typeChar (h : Showing presses s) (ch : Char) :
    ∃ s', (HidSession.typeChar ch).run s = (.ok (), s') ∧ Showing (presses ++ charPresses ch) s' := by
  unfold HidSession.typeChar charPresses
  rcases hc : Scancode.tryFromChar ch with ⟨o, mods⟩
  cases o with
  | none => exact ⟨s, rfl, by simpa using h⟩
  | some sc =>
    have inside := inside_of_char hc
    have valid : KeyboardHid.accepts sc.toU8 = true := by
      simp only [KeyboardHid.accepts, Bool.or_eq_true, decide_eq_true_eq]
      omega
    obtain ⟨s', run, after⟩ := h.all [⟨sc.toU8, true, mods⟩, ⟨sc.toU8, false, mods⟩]
      (by simp [valid])
    rw [Method.forEach_cons, Method.forEach_cons, Method.forEach_nil, Method.bind_pure_unit] at run
    exact ⟨s', run, after⟩

theorem typeText (h : Showing presses s) (chars : List Char) :
    ∃ s', (Method.forEach chars HidSession.typeChar).run s = (.ok (), s') ∧
      Showing (presses ++ chars.flatMap charPresses) s' := by
  induction chars generalizing presses s with
  | nil => exact ⟨s, rfl, by simpa using h⟩
  | cons ch rest ih =>
    obtain ⟨s₁, first, h₁⟩ := h.typeChar ch
    obtain ⟨s', run, h'⟩ := ih h₁
    refine ⟨s', ?_, by simpa using h'⟩
    rw [Method.forEach_cons, Method.run_bind_ok first, run]

theorem keyChord (h : Showing presses s) (mods : Modifiers) (scancode : UInt8) :
    Showing (presses ++ ([⟨scancode, true, mods⟩, ⟨scancode, false, mods⟩] ++ [release scancode]))
      ((HidSession.keyChord mods scancode).run s).2 := by
  rw [keyChord_eq]
  cases valid : KeyboardHid.accepts scancode with
  | true =>
    obtain ⟨s', run, after⟩ := h.all
      ([⟨scancode, true, mods⟩, ⟨scancode, false, mods⟩] ++ [release scancode])
      (by simp [release, valid])
    rw [Method.run_rollback_ok run]
    exact after
  | false =>
    obtain ⟨e, first⟩ := keyPress_refused (s := s) (p := ⟨scancode, true, mods⟩) (.inr valid)
    obtain ⟨e', again⟩ := keyPress_refused (s := s) (p := release scancode) (.inr valid)
    have same : ((Method.forEach ([⟨scancode, true, mods⟩, ⟨scancode, false, mods⟩] ++
        [release scancode]) keyPress).rollback (Method.ignore (keyPress (release scancode)))).run s =
          (.err e, s) := by
      simp [Method.rollback, Method.ignore, Method.run_bind, first, again]
    rw [same]
    have three := ((h.refused (p := ⟨scancode, true, mods⟩) valid).refused
      (p := ⟨scancode, false, mods⟩) valid).refused (p := release scancode) valid
    simpa using three

theorem unkeyed (h : Showing presses s) {op : SessionOp} (unkeyed : Unkeyed op)
    (within : Within { keys := False, moves := True, raw := False } op) :
    Showing presses (step s op) := by
  obtain ⟨d, sent, held, carries, created, shown⟩ := h.stream
  have stays : Stays _ s (step s op) := keeps_op within s
  have kbd : (step s op).kbd = s.kbd := sameKeyboard_op unkeyed s
  obtain ⟨landed, sent', held', carries', joined, allowed, -⟩ := stays.stream d sent held carries
  constructor
  case keyboard => rw [kbd, h.keyboard]
  case pad => rw [stays.same.hidId]; exact h.pad
  case working => exact stays.working carries h.working
  case stream =>
    refine ⟨d, sent', held', carries', joined ▸ created.trans (List.prefix_append _ _), ?_⟩
    rw [joined, List.map_append, keyReports, List.filterMap_append, ← keyReports, ← keyReports,
      quiet_of_allowed h.pad allowed, List.append_nil, shown]

theorem op (h : Showing presses s) {op : SessionOp} (own : Within ownReports op)
    (byDriver : ∀ edit, op ≠ .editKeyboard edit) :
    Showing (presses ++ op.presses) (step s op) := by
  have others (quiet : Unkeyed op) (within : Within { keys := False, moves := True, raw := False } op)
      (none : op.presses = []) : Showing (presses ++ op.presses) (step s op) := by
    rw [none, List.append_nil]
    exact h.unkeyed quiet within
  cases op with
  | key scancode pressed mods => exact h.key ⟨scancode, pressed, mods⟩
  | typeText text =>
    obtain ⟨s', run, after⟩ := h.typeText text.toList
    have state : step s (.typeText text) = s' := congrArg Prod.snd run
    rw [state]
    exact after
  | typeTextStrict text =>
    obtain ⟨s', run, after⟩ := h.typeText (text.toList.takeWhile supported)
    have state : step s (.typeTextStrict text) = s' := congrArg Prod.snd (typeTextStrict_run run)
    rw [state]
    exact after
  | keyChord mods scancode => exact h.keyChord mods scancode
  | editKeyboard edit => exact absurd rfl (byDriver edit)
  | close => contradiction
  | mouseFrameBatch frames => exact others trivial (fun _ => trivial) rfl
  | send msg =>
    refine others trivial ?_ rfl
    cases msg with
    | uhidCreate c => contradiction
    | uhidDestroy d => contradiction
    | uhidInput i => exact own
    | _ => trivial
  | editGamepad edit => exact others trivial own rfl
  | _ => exact others trivial trivial rfl

theorem ops (h : Showing presses s) {ops : List SessionOp}
    (own : ∀ op ∈ ops, Within ownReports op ∧ ∀ edit, op ≠ .editKeyboard edit) :
    Showing (presses ++ ops.flatMap SessionOp.presses) (Run.after step s ops) := by
  induction ops generalizing presses s with
  | nil =>
    rw [List.flatMap_nil, List.append_nil]
    exact h
  | cons op rest ih =>
    obtain ⟨within, byDriver⟩ := own op (List.mem_cons_self ..)
    have later := ih (h.op within byDriver) fun o ho => own o (List.mem_cons_of_mem _ ho)
    rw [List.flatMap_cons, ← List.append_assoc]
    exact later

theorem opened {t : Transport} (clock : Nat → Nat) {req : OpenRequest} (fresh : t.wire = [])
    (never : t.NeverFails) (wanted : req.kbd = true) : Showing [] (afterOpen t clock req) := by
  obtain ⟨-, working, d, w, state, carries⟩ := opened_working clock req fresh never
  have quiet (ds : List Device) : keyReports ((ds.map Device.create).map eventOfMessage) = [] := by
    induction ds with
    | nil => rfl
    | cons d rest ih => cases d <;> exact ih
  constructor
  case working => exact working
  case keyboard =>
    rw [state, OpenRequest.requested, wanted]
    cases req.mouse <;> cases req.gamepad <;> rfl
  case pad =>
    rw [state, OpenRequest.requested, wanted]
    have none : (Option.none : Option UInt16) ≠ some hidIdKeyboard := (Option.some_ne_none _).symm
    have other : some hidIdGamepadFirst ≠ some hidIdKeyboard := by decide
    cases req.gamepad
    · cases req.mouse <;> exact none
    · cases req.mouse <;> exact other
  case stream =>
    rw [state]
    refine ⟨d, _, _, carries, ?_, ?_⟩
    · rw [OpenRequest.requested, wanted, List.append_nil]
      exact List.prefix_append _ _
    · rw [List.append_nil, quiet]
      rfl

theorem announced (h : Showing presses s) : ∃ rest, (flushNow.run s).2.transport.transport.wire =
    (Device.create .keyboard).bytes ++ rest := by
  obtain ⟨d, sent, held, carries, ⟨rest, created⟩, -⟩ := h.stream
  obtain ⟨effect, flushed⟩ := CoalescingWriter.flushNow_effect carries
  have after := flushed (effect.total h.working (List.forall_mem_nil _))
  refine ⟨encodeAll rest, after.wire.trans ?_⟩
  rw [← created]
  rfl

end Showing

end HidSession

/-- The wire starts with the announcement of a keyboard, and a host that takes it reads of the last
keyboard report the keys that the events leave held, and the modifiers of the last accepted one. -/
def HostShows (wire : List UInt8) (presses : List KeyPress) : Prop :=
  ∃ create rest l, KeyboardHid.openMessage none = .ok create ∧ wire = create.bytes ++ rest ∧
    HidHost.receive (fun _ => none) create hidIdKeyboard = some l ∧
    ((keyReports (readEvents wire)).getLast?).map l.read =
      ((presses.filter fun p => KeyboardHid.accepts p.scancode).getLast?).map (fun p =>
        some (keyboardControls p.modifiers (keySlots (KeyboardHid.heldAfter presses)))) ∧
    ∀ mods, keysOn (keyboardControls mods (keySlots (KeyboardHid.heldAfter presses))) =
      if (KeyboardHid.heldAfter presses).card ≤ keyboardMaxKeys then
        ((KeyboardHid.heldAfter presses).erase 0).sort
      else List.replicate keyboardMaxKeys scHidErrorRollOver.toNat

open HidSession

theorem HidSession.Showing.host {presses : List KeyPress} {s : HidSession}
    (h : Showing presses s) : HostShows (flushNow.run s).2.transport.transport.wire presses := by
  obtain ⟨rest, announced⟩ := h.announced
  obtain ⟨l, parsed, inputs⟩ := Option.map_eq_some_iff.mp layout_keyboard
  refine ⟨_, rest, l, rfl, announced, ?_, ?_, fun mods =>
    keysOn_keyboardControls mods (KeyboardHid.heldAfter_lt presses)⟩
  · rw [HidHost.receive, Function.update_self, parsed]
  · have last : (keyReports (readEvents (flushNow.run s).2.transport.transport.wire)).getLast? =
        shownReport presses := h.delivered
    rw [last, shownReport, Option.map_map]
    refine congrFun (congrArg Option.map (funext fun p => ?_)) _
    exact read_keyboard inputs p.modifiers (length_keySlots _)
      (keySlots_le (KeyboardHid.heldAfter_lt presses))

/-- Over a transport that never fails, whatever the calls between open and close: the host shows the
keyboard as all key events so far have left it. -/
theorem host_shows_keyboard (t : Transport) (clock : Nat → Nat) (req : OpenRequest)
    (fresh : t.wire = []) (never : t.NeverFails) (wanted : req.kbd = true) (ops : List SessionOp)
    (own : ∀ op ∈ ops, Within ownReports op ∧ ∀ edit, op ≠ .editKeyboard edit) :
    let s := Run.after step (afterOpen t clock req) ops
    HostShows (flushNow.run s).2.transport.transport.wire (ops.flatMap SessionOp.presses) :=
  ((Showing.opened clock fresh never wanted).ops own).host

/-- A key that stays down under a chord, between moves of the mouse. -/
theorem host_shows_chord :
    let ops : List SessionOp := [.key 4 true .empty, .mouseMotion 3 4 0, .keyChord .lshift 6]
    let s := Run.after step (afterOpen .steady id .all) ops
    HostShows (flushNow.run s).2.transport.transport.wire (ops.flatMap SessionOp.presses) := by
  intro ops
  refine host_shows_keyboard .steady id .all rfl Transport.steady_neverFails rfl ops ?_
  simp only [ops, List.forall_mem_cons, List.not_mem_nil]
  exact ⟨⟨fun _ => trivial, nofun⟩, ⟨trivial, nofun⟩, ⟨fun _ => trivial, nofun⟩,
    fun _ none => absurd none id⟩

end HidConnect
