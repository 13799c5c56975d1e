import HidConnect.Coalesce.Critical
import HidConnect.Session.Intents

/-! The operations of a session as data, and what every one of them leaves alone: the devices stay
as they are, and the stream grows by messages of open devices. -/
namespace HidConnect
open Fallible

/-- The checked updates of one gamepad report. -/
inductive CheckedUpdate where
  | setStick (axis : GamepadAxis) (value : Float32)
  | setStickRaw (axis : GamepadAxis) (raw : Int16)
  | setButtons (buttons : UInt32)
  | setButton (btn : GamepadButton) (pressed : Bool)
  | setFrameRaw (frame : GamepadFrameRaw)
  | setLeftStickRaw (x y : Int16)
  | setRightStickRaw (x y : Int16)
  | setTriggersRaw (left right : Int16)
  | setSticksRaw (leftX leftY rightX rightY leftTrigger rightTrigger : Int16)

namespace CheckedUpdate

def run : CheckedUpdate → Session Unit
  | setStick axis value => HidSession.setStick axis value
  | setStickRaw axis raw => HidSession.setStickRaw axis raw
  | setButtons buttons => HidSession.setButtons buttons
  | setButton btn pressed => HidSession.setButton btn pressed
  | setFrameRaw frame => HidSession.setFrameRaw frame
  | setLeftStickRaw x y => HidSession.setLeftStickRaw x y
  | setRightStickRaw x y => HidSession.setRightStickRaw x y
  | setTriggersRaw left right => HidSession.setTriggersRaw left right
  | setSticksRaw lx ly rx ry lt rt => HidSession.setSticksRaw lx ly rx ry lt rt

def event : CheckedUpdate → GamepadSlot → Option GamepadSlot
  | setStick axis value => GamepadSlot.axisEvent axis (clamp value (-1) 1 * 32767).toInt16
  | setStickRaw axis raw => GamepadSlot.axisEvent axis raw
  | setButtons buttons => GamepadSlot.buttonsEvent buttons
  | setButton btn pressed => GamepadSlot.buttonEvent btn pressed
  | setFrameRaw frame => GamepadSlot.fullStateEvent frame
  | setLeftStickRaw x y => GamepadSlot.leftStick x y
  | setRightStickRaw x y => GamepadSlot.rightStick x y
  | setTriggersRaw left right => GamepadSlot.triggers left right
  | setSticksRaw lx ly rx ry lt rt => GamepadSlot.sticks lx ly rx ry lt rt

theorem run_eq (u : CheckedUpdate) :
    u.run = Method.discard (HidSession.checkedUpdate u.event) := by
  cases u <;> rfl

theorem settles (u : CheckedUpdate) : Settles u.event := by
  cases u with
  | setStick axis value => exact GamepadSlot.settles_axisEvent axis _
  | setStickRaw axis raw => exact GamepadSlot.settles_axisEvent axis raw
  | setButtons buttons => exact GamepadSlot.settles_buttonsEvent buttons
  | setButton btn pressed => exact GamepadSlot.settles_buttonEvent btn pressed
  | setFrameRaw frame => exact GamepadSlot.settles_fullStateEvent frame
  | setLeftStickRaw x y => exact GamepadSlot.settles_leftStick x y
  | setRightStickRaw x y => exact GamepadSlot.settles_rightStick x y
  | setTriggersRaw left right => exact GamepadSlot.settles_triggers left right
  | setSticksRaw lx ly rx ry lt rt => exact GamepadSlot.settles_sticks lx ly rx ry lt rt

end CheckedUpdate

inductive GamepadOp where
  | update (u : CheckedUpdate)
  | setFrameRawBatch (frames : List GamepadFrameRaw)
  | setFrameRawUnchecked (frame : GamepadFrameRaw)
  | setFrameRawUncheckedFrame (frame : GamepadFrameRaw)
  | setFrameRawPacked (payload : Payload)
  | injectRawGamepadReport (payload : List UInt8)
  | setFrameRawBatchUnchecked (frames : List GamepadFrameRaw)
  | setFrameRawPackedBatch (frames : List Payload)

def GamepadOp.run : GamepadOp → Session Unit
  | update u => u.run
  | setFrameRawBatch frames => .discard (HidSession.setFrameRawBatch frames)
  | setFrameRawUnchecked frame => HidSession.setFrameRawUnchecked frame
  | setFrameRawUncheckedFrame frame => HidSession.setFrameRawUncheckedFrame frame
  | setFrameRawPacked payload => HidSession.setFrameRawPacked payload
  | injectRawGamepadReport payload => HidSession.injectRawGamepadReport payload
  | setFrameRawBatchUnchecked frames => .discard (HidSession.setFrameRawBatchUnchecked frames)
  | setFrameRawPackedBatch frames => .discard (HidSession.setFrameRawPackedBatch frames)

inductive Gesture where
  | tapPointer (pointerId : UInt64) (x y : Int32)
  | swipePointer (pointerId : UInt64) (origin target : Int32 × Int32) (steps : UInt32)
  | doubleTap (x y : Int32)
  | longPress (x y : Int32)
  | threeFingerScreenshot
  | drag (origin target : Int32 × Int32) (steps : UInt32)
  | pinch (cx cy startRadius endRadius : Int32) (steps : UInt32)
  | multiFingerTap (points : List (Int32 × Int32))

def Gesture.run : Gesture → Session Unit
  | tapPointer pointerId x y => HidSession.tapPointer pointerId x y
  | swipePointer pointerId origin target steps =>
    HidSession.swipePointer pointerId origin target steps
  | doubleTap x y => HidSession.doubleTap x y
  | longPress x y => HidSession.longPress x y
  | threeFingerScreenshot => HidSession.threeFingerScreenshot
  | drag origin target steps => HidSession.drag origin target steps
  | pinch cx cy startRadius endRadius steps =>
    HidSession.pinch cx cy startRadius endRadius steps
  | multiFingerTap points => HidSession.multiFingerTap points

/-- The public operations. An intent of one message is the `send` of that message, and a call of
the ten-finger handle is `injectTouch`. The three accessors hand out the driver for any edit. -/
inductive SessionOp where
  | send (msg : ControlMessage)
  | flushNow
  | close
  | setScreenSize (w h : UInt16)
  | editKeyboard (edit : KeyboardHid → KeyboardHid)
  | editMouse (edit : MouseHid → MouseHid)
  | editGamepad (edit : GamepadHid → GamepadHid)
  | key (scancode : UInt8) (pressed : Bool) (mods : Modifiers)
  | typeText (text : String)
  | typeTextStrict (text : String)
  | keyChord (mods : Modifiers) (scancode : UInt8)
  | mouseMotion (dx dy : Int32) (buttonsState : UInt8)
  | mouseButtons (buttonsState : UInt8)
  | mouseScroll (hscroll vscroll : Float32)
  | mouseFrameBatch (frames : List (Int32 × Int32 × UInt8))
  | gamepad (op : GamepadOp)
  | tapAndroidKeycode (keycode metastate : UInt32)
  | injectTouch (action : UInt8) (pointerId : UInt64) (x y : Int32) (pressure : Float32)
  | injectScroll (x y : Int32) (hscroll vscroll : Float32) (buttons : UInt32)
  | gesture (g : Gesture)

def SessionOp.run : SessionOp → Session Unit
  | send msg => HidSession.send msg
  | flushNow => .discard HidSession.flushNow
  | close => HidSession.close
  | setScreenSize w h => HidSession.setScreenSize w h
  | editKeyboard edit => HidSession.editKeyboard edit
  | editMouse edit => HidSession.editMouse edit
  | editGamepad edit => HidSession.editGamepad edit
  | key scancode pressed mods => HidSession.key scancode pressed mods
  | typeText text => HidSession.typeText text
  | typeTextStrict text => HidSession.typeTextStrict text
  | keyChord mods scancode => HidSession.keyChord mods scancode
  | mouseMotion dx dy buttonsState => HidSession.mouseMotion dx dy buttonsState
  | mouseButtons buttonsState => HidSession.mouseButtons buttonsState
  | mouseScroll hscroll vscroll => .discard (HidSession.mouseScroll hscroll vscroll)
  | mouseFrameBatch frames => .discard (HidSession.mouseFrameBatch frames)
  | gamepad op => op.run
  | tapAndroidKeycode keycode metastate => HidSession.tapAndroidKeycode keycode metastate
  | injectTouch action pointerId x y pressure =>
    HidSession.injectTouch action pointerId x y pressure
  | injectScroll x y hscroll vscroll buttons => HidSession.injectScroll x y hscroll vscroll buttons
  | gesture g => g.run

/- What an operation leaves alone. -/

def GamepadHid.bindings (g : GamepadHid) : Vector UInt32 maxGamepads := g.slots.map (·.gamepadId)

namespace HidSession

structure SameDevices (s s' : HidSession) : Prop where
  kbd : s'.kbd.isSome = s.kbd.isSome
  mouse : s'.mouse.isSome = s.mouse.isSome
  gamepad : s'.gamepad.map GamepadHid.bindings = s.gamepad.map GamepadHid.bindings
  slot : s'.gamepadSlot = s.gamepadSlot
  hidId : s'.gamepadHidId = s.gamepadHidId
  closed : s'.closed = s.closed

/-- What a call may report on: the keyboard, the mouse, or by hand. -/
structure Grant where
  keys : Prop
  moves : Prop
  raw : Prop

/-- A message that is no announcement, and is no report of a device that is not open. -/
def Allowed (g : Grant) (s : HidSession) : ControlMessage → Prop
  | .uhidCreate _ | .uhidDestroy _ => False
  | .uhidInput i => g.raw ∨
      (i.id = hidIdKeyboard ∧ g.keys ∧ s.kbd.isSome = true) ∨
      (i.id = hidIdMouse ∧ g.moves ∧ s.mouse.isSome = true) ∨
      (s.closed = false ∧ (s.gamepadHidId = some i.id ∨
        ∃ slotIdx, s.gamepadSlot = some slotIdx ∧ GamepadHid.slotHidId slotIdx = i.id))
  | _ => True

/-- The devices are the same, and the stream has grown by allowed messages. -/
structure Stays (g : Grant) (s s' : HidSession) : Prop where
  same : SameDevices s s'
  stream : ∀ d sent held, CoalescingWriter.Carries d s.transport sent held →
    ∃ landed sent' held', CoalescingWriter.Carries d s'.transport sent' held' ∧
      sent' ++ held' = sent ++ held ++ landed ∧ (∀ msg ∈ landed, Allowed g s msg) ∧
      s'.transport.transport.onWrite = s.transport.transport.onWrite ∧
      s'.transport.transport.onFlush = s.transport.transport.onFlush

variable {g : Grant}

theorem SameDevices.refl (s : HidSession) : SameDevices s s := ⟨rfl, rfl, rfl, rfl, rfl, rfl⟩

theorem SameDevices.trans {s t u : HidSession} (h : SameDevices s t) (h' : SameDevices t u) :
    SameDevices s u :=
  ⟨h'.kbd.trans h.kbd, h'.mouse.trans h.mouse, h'.gamepad.trans h.gamepad, h'.slot.trans h.slot,
    h'.hidId.trans h.hidId, h'.closed.trans h.closed⟩

theorem SameDevices.allowed {s t : HidSession} (h : SameDevices s t) (msg : ControlMessage) :
    Allowed g t msg ↔ Allowed g s msg := by
  cases msg <;> simp only [Allowed, h.kbd, h.mouse, h.slot, h.hidId, h.closed]

instance : IsPreorder HidSession (Stays g) where
  refl s := ⟨.refl s, fun _ sent held carries => ⟨[], sent, held, carries,
    (List.append_nil _).symm, List.forall_mem_nil _, rfl, rfl⟩⟩
  trans s t u h h' := by
    refine ⟨h.same.trans h'.same, fun d sent held carries => ?_⟩
    obtain ⟨landed, sent₁, held₁, carries₁, joined₁, ok₁, onWrite₁, onFlush₁⟩ :=
      h.stream d sent held carries
    obtain ⟨landed', sent₂, held₂, carries₂, joined₂, ok₂, onWrite₂, onFlush₂⟩ :=
      h'.stream d sent₁ held₁ carries₁
    refine ⟨landed ++ landed', sent₂, held₂, carries₂, ?_, ?_, onWrite₂.trans onWrite₁,
      onFlush₂.trans onFlush₁⟩
    · rw [joined₂, joined₁, List.append_assoc (sent ++ held)]
    · intro msg hm
      rcases List.mem_append.mp hm with hm | hm
      · exact ok₁ msg hm
      · exact (h.same.allowed msg).mp (ok₂ msg hm)

theorem stays_of_same {s s' : HidSession} (same : SameDevices s s')
    (writer : s'.transport = s.transport) : Stays g s s' := by
  refine ⟨same, fun d sent held carries => ?_⟩
  rw [writer]
  exact ⟨[], sent, held, carries, (List.append_nil _).symm, List.forall_mem_nil _, rfl, rfl⟩

theorem stays_onWriter {α : Type} {m : Coalescing α} {msgs : List ControlMessage} {n : Nat}
    (emits : ∀ d, CoalescingWriter.Emits d msgs n m) {s : HidSession}
    (allowed : ∀ msg ∈ msgs, Allowed g s msg) : Stays g s ((onWriter m).run s).2 := by
  refine ⟨⟨rfl, rfl, rfl, rfl, rfl, rfl⟩, fun d sent held carries => ?_⟩
  have effect := emits d s.transport sent held carries
  obtain ⟨landed, sent', held', carries', joined, part, _⟩ := effect.stream
  exact ⟨landed, sent', held', carries', joined, fun msg hm => allowed msg (part.subset hm),
    effect.onWrite, effect.onFlush⟩

theorem stays_send {msg : ControlMessage} {s : HidSession} (allowed : Allowed g s msg) :
    Stays g s ((send msg).run s).2 := by
  refine stays_onWriter (fun d => (CoalescingWriter.emits_push d msg).discard) fun m hm => ?_
  obtain rfl := List.mem_singleton.mp hm
  exact allowed

/- Touch: every gesture is a run of touch events. -/

theorem keeps_send {msg : ControlMessage} (allowed : ∀ s, Allowed g s msg) :
    Method.Keeps (Stays g) (send msg) :=
  fun s => stays_send (allowed s)

theorem keeps_injectTouch (action : UInt8) (pointerId : UInt64) (x y : Int32)
    (pressure : Float32) : Method.Keeps (Stays g) (injectTouch action pointerId x y pressure) :=
  Method.Keeps.bind Method.keeps_read fun _ => keeps_send fun _ => trivial

theorem keeps_releasePressed (pressed : List UInt64) :
    Method.Keeps (Stays g) (releasePressed pressed) :=
  Method.keeps_forEach _ fun _ _ => Method.keeps_ignore (keeps_injectTouch _ _ _ _ _)

theorem keeps_moveAlong (pointerId : UInt64) (origin target : Int32 × Int32) (steps : UInt32) :
    Method.Keeps (Stays g) (moveAlong pointerId origin target steps) :=
  Method.keeps_forEach _ fun _ _ => keeps_injectTouch _ _ _ _ _

theorem keeps_swipePointer (pointerId : UInt64) (origin target : Int32 × Int32)
    (steps : UInt32) : Method.Keeps (Stays g) (swipePointer pointerId origin target steps) :=
  Method.Keeps.bind (keeps_injectTouch _ _ _ _ _) fun _ =>
    Method.Keeps.bind (keeps_moveAlong _ _ _ _) fun _ =>
      Method.Keeps.bind (keeps_injectTouch _ _ _ _ _) fun _ => keeps_injectTouch _ _ _ _ _

theorem keeps_threeFingerScreenshot : Method.Keeps (Stays g) threeFingerScreenshot :=
  Method.Keeps.bind Method.keeps_read fun _ =>
    Method.Keeps.bind (Method.keeps_forEach _ fun _ _ => keeps_injectTouch _ _ _ _ _) fun _ =>
      Method.Keeps.bind
        (Method.keeps_forEach _ fun _ _ =>
          Method.keeps_forEach _ fun _ _ => keeps_injectTouch _ _ _ _ _)
        fun _ => Method.keeps_forEach _ fun _ _ => keeps_injectTouch _ _ _ _ _

theorem keeps_pressAll (id : Nat) (points : List (Int32 × Int32)) :
    Method.Keeps (Stays g) (pressAll id points) := by
  have releases (n : Nat) : Method.Keeps (Stays g) (releaseAll n) :=
    Method.keeps_forEach _ fun _ _ => Method.keeps_ignore (keeps_injectTouch _ _ _ _ _)
  induction points generalizing id with
  | nil => exact Method.keeps_pure ()
  | cons point rest ih =>
    exact Method.Keeps.bind ((keeps_injectTouch _ _ _ _ _).rollback (releases id)) fun _ =>
      ih (id + 1)

theorem keeps_multiFingerTap (points : List (Int32 × Int32)) :
    Method.Keeps (Stays g) (multiFingerTap points) := by
  have releases (n : Nat) : Method.Keeps (Stays g) (releaseAll n) :=
    Method.keeps_forEach _ fun _ _ => Method.keeps_ignore (keeps_injectTouch _ _ _ _ _)
  unfold multiFingerTap
  dsimp only
  split
  · refine Method.Keeps.bind (keeps_pressAll 0 points) fun _ => Method.Keeps.rollback ?_ (releases _)
    exact Method.keeps_forEach _ fun _ _ => keeps_injectTouch _ _ _ _ _
  · exact Method.keeps_fail _

end HidSession

/- The ten-finger handle keeps its session. -/

namespace MultitouchHandle
variable {g : HidSession.Grant}

def Stays (g : HidSession.Grant) (h h' : MultitouchHandle) : Prop :=
  HidSession.Stays g h.session h'.session

instance : IsPreorder MultitouchHandle (Stays g) where
  refl h := refl_of (HidSession.Stays g) h.session
  trans _ _ _ h h' := trans_of (HidSession.Stays g) h h'

theorem keeps_onSession {α : Type} {m : Session α} (h : Method.Keeps (HidSession.Stays g) m) :
    Method.Keeps (Stays g) (onSession m) :=
  Method.keeps_zoom (fun _ _ kept => kept) h

theorem keeps_checkId (id : UInt64) : Method.Keeps (Stays g) (checkId id) := by
  unfold checkId
  split
  · exact Method.keeps_pure _
  · exact Method.keeps_fail _

theorem keeps_setActive (id : Fin 10) (on : Bool) : Method.Keeps (Stays g) (setActive id on) :=
  Method.keeps_update fun h => refl_of (HidSession.Stays g) h.session

theorem keeps_down (id : UInt64) (x y : Int32) (pressure : Float32) :
    Method.Keeps (Stays g) (down id x y pressure) := by
  refine Method.Keeps.bind (keeps_checkId id) fun i => Method.Keeps.bind Method.keeps_read fun h => ?_
  split
  · exact Method.keeps_fail _
  · exact Method.Keeps.bind (keeps_onSession (HidSession.keeps_injectTouch _ _ _ _ _)) fun _ =>
      keeps_setActive _ _

theorem keeps_lift (action : UInt8) (id : UInt64) : Method.Keeps (Stays g) (lift action id) := by
  refine Method.Keeps.bind (keeps_checkId id) fun i => Method.Keeps.bind Method.keeps_read fun h => ?_
  split
  · exact Method.Keeps.bind (keeps_onSession (HidSession.keeps_injectTouch _ _ _ _ _)) fun _ =>
      keeps_setActive _ _
  · exact Method.keeps_fail _

theorem keeps_pinch (p0 p1 : Path) (steps : UInt32) :
    Method.Keeps (Stays g) (pinch p0 p1 steps) := by
  refine Method.Keeps.bind (keeps_checkId _) fun _ => Method.Keeps.bind (keeps_checkId _) fun _ =>
    Method.Keeps.bind Method.keeps_read fun _ => ?_
  split
  · refine Method.keeps_forEach _ fun _ _ => Method.Keeps.bind ?_ fun _ => ?_
    · exact keeps_onSession (HidSession.keeps_injectTouch _ _ _ _ _)
    · exact keeps_onSession (HidSession.keeps_injectTouch _ _ _ _ _)
  · exact Method.keeps_fail _

end MultitouchHandle

namespace HidSession
variable {g : Grant}

theorem keeps_multitouch {α : Type} {m : Method Error MultitouchHandle α}
    (h : Method.Keeps (MultitouchHandle.Stays g) m) : Method.Keeps (Stays g) (multitouch m) :=
  Method.keeps_zoom (fun _ _ kept => kept) h

theorem keeps_gesture (gesture : Gesture) : Method.Keeps (Stays g) gesture.run := by
  cases gesture with
  | tapPointer pointerId x y =>
    exact Method.Keeps.bind (keeps_injectTouch _ _ _ _ _) fun _ =>
      (keeps_injectTouch _ _ _ _ _).rollback (keeps_releasePressed _)
  | swipePointer pointerId origin target steps => exact keeps_swipePointer _ _ _ _
  | doubleTap x y =>
    exact Method.Keeps.bind (keeps_injectTouch _ _ _ _ _) fun _ =>
      Method.Keeps.bind (keeps_injectTouch _ _ _ _ _) fun _ =>
        Method.Keeps.bind (keeps_injectTouch _ _ _ _ _) fun _ => keeps_injectTouch _ _ _ _ _
  | longPress x y =>
    exact Method.Keeps.bind (keeps_injectTouch _ _ _ _ _) fun _ => keeps_injectTouch _ _ _ _ _
  | threeFingerScreenshot => exact keeps_threeFingerScreenshot
  | drag origin target steps => exact keeps_swipePointer 0 origin target steps
  | pinch cx cy startRadius endRadius steps =>
    exact keeps_multitouch (Method.Keeps.bind (MultitouchHandle.keeps_down _ _ _ _) fun _ =>
      Method.Keeps.bind (MultitouchHandle.keeps_down _ _ _ _) fun _ =>
        Method.Keeps.bind (MultitouchHandle.keeps_pinch _ _ _) fun _ =>
          Method.Keeps.bind (MultitouchHandle.keeps_lift _ _) fun _ =>
            MultitouchHandle.keeps_lift _ _)
  | multiFingerTap points => exact keeps_multiFingerTap points

/- Keyboard and mouse. -/

theorem key_run {s : HidSession} {k : KeyboardHid} (hk : s.kbd = some k) (scancode : UInt8)
    (pressed : Bool) (mods : Modifiers) :
    (key scancode pressed mods).run s =
      (do
        let msg ← .lift ((KeyboardHid.keyEvent scancode pressed mods).run k).1
        send msg : Session Unit).run
          { s with kbd := some ((KeyboardHid.keyEvent scancode pressed mods).run k).2 } := by
  rw [key, Method.run_read_bind, hk]
  rfl

theorem keeps_key (scancode : UInt8) (pressed : Bool) (mods : Modifiers)
    (granted : KeyboardHid.accepts scancode = true → g.keys) :
    Method.Keeps (Stays g) (key scancode pressed mods) := by
  intro s
  cases hk : s.kbd with
  | none =>
    rw [key, Method.run_read_bind, hk]
    exact refl_of (Stays g) s
  | some k =>
    have kept (k' : KeyboardHid) : Stays g s { s with kbd := some k' } :=
      stays_of_same ⟨by rw [hk]; rfl, rfl, rfl, rfl, rfl, rfl⟩ rfl
    rw [key_run hk]
    rcases k.keyEvent_run scancode pressed mods with ⟨accepted, t, data, run⟩ | ⟨_, run⟩
    · rw [run]
      have own : Allowed g { s with kbd := some t }
          (.uhidInput { id := hidIdKeyboard, size := 8, data }) :=
        Or.inr (.inl ⟨rfl, granted accepted, rfl⟩)
      exact trans_of (Stays g) (kept t) (stays_send own)
    · rw [run]
      exact kept k

theorem keeps_keyTap (scancode : UInt8) (mods : Modifiers)
    (granted : KeyboardHid.accepts scancode = true → g.keys) :
    Method.Keeps (Stays g) (keyTap scancode mods) :=
  Method.Keeps.bind (keeps_key _ _ _ granted) fun _ => keeps_key _ _ _ granted

def supported (ch : Char) : Bool := (Scancode.tryFromChar ch).1.isSome

theorem keeps_typeText (text : String)
    (granted : (∃ ch ∈ text.toList, supported ch = true) → g.keys) :
    Method.Keeps (Stays g) (typeText text) := by
  refine Method.keeps_forEach _ fun ch hch => ?_
  rcases hc : Scancode.tryFromChar ch with ⟨o, mods⟩
  cases o with
  | none => exact Method.keeps_pure ()
  | some sc => exact keeps_keyTap _ _ fun _ => granted ⟨ch, hch, by rw [supported, hc]; rfl⟩

/-- A text that starts with an unsupported character is refused before anything is typed. -/
theorem keeps_typeTextStrict (text : String)
    (granted : (∃ ch, text.toList.head? = some ch ∧ supported ch = true) → g.keys) :
    Method.Keeps (Stays g) (typeTextStrict text) := by
  unfold typeTextStrict
  cases ht : text.toList with
  | nil => exact Method.keeps_pure ()
  | cons first rest =>
    cases hf : supported first with
    | false =>
      unfold supported at hf
      rw [Method.forEach_cons]
      rcases hc : Scancode.tryFromChar first with ⟨o, mods⟩
      rw [hc] at hf
      cases o with
      | none => exact fun s => refl_of (Stays g) s
      | some sc => contradiction
    | true =>
      have keys : g.keys := granted ⟨first, by rw [ht]; rfl, hf⟩
      refine Method.keeps_forEach _ fun ch _ => ?_
      rcases hc : Scancode.tryFromChar ch with ⟨o, mods⟩
      cases o with
      | none => exact Method.keeps_fail _
      | some sc => exact keeps_keyTap _ _ fun _ => keys

theorem keeps_keyChord (mods : Modifiers) (scancode : UInt8)
    (granted : KeyboardHid.accepts scancode = true → g.keys) :
    Method.Keeps (Stays g) (keyChord mods scancode) := by
  refine Method.Keeps.rollback ?_ (Method.keeps_ignore (keeps_key _ _ _ granted))
  exact Method.Keeps.bind (keeps_key _ _ _ granted) fun _ =>
    Method.Keeps.bind (keeps_key _ _ _ granted) fun _ => keeps_key _ _ _ granted

/-- What holds from a state where the mouse is open. -/
def WithMouse (g : Grant) (s s' : HidSession) : Prop := s.mouse.isSome = true → Stays g s s'

instance : IsPreorder HidSession (WithMouse g) where
  refl s _ := refl_of (Stays g) s
  trans _ _ _ h h' isOpen :=
    trans_of (Stays g) (h isOpen) (h' ((h isOpen).same.mouse.trans isOpen))

theorem keeps_mouseReport {report : HidReport} (own : MouseHid.IsReport report)
    (moves : g.moves) : Method.Keeps (WithMouse g) (pushReport report) := by
  intro s isOpen
  obtain ⟨id, size⟩ := own
  have fits : FitsInput report.size.toNat report.data.toList := by
    rw [size, FitsInput, Vector.length_toList]
    decide
  refine stays_onWriter
    (fun d => (CoalescingWriter.emits_pushUhidInput d _ _ fits).discard) fun m hm => ?_
  obtain rfl := List.mem_singleton.mp hm
  exact Or.inr (.inr (.inl ⟨id, moves, isOpen⟩))

theorem keeps_mouse {α : Type} {f : MouseHid → Session α}
    (h : ∀ m, Method.Keeps (WithMouse g) (f m)) :
    Method.Keeps (Stays g) (do
      let mouse ← .okOr mouseNotOpen (← Method.read).mouse
      f mouse : Session α) := by
  intro s
  rw [Method.run_read_bind]
  cases hm : s.mouse with
  | none => exact refl_of (Stays g) s
  | some m => exact h m s (by rw [hm]; rfl)

theorem keeps_scrolled (out : Option HidReport × MouseHid)
    (own : ∀ report, out.1 = some report → MouseHid.IsReport report) (moves : g.moves) :
    Method.Keeps (WithMouse g) (do
      .update fun s => { s with mouse := some out.2 }
      match out.1 with
      | none => pure false
      | some report => do
        pushReport report
        pure true : Session Bool) := by
  have kept : Method.Keeps (WithMouse g)
      (.update fun s => { s with mouse := some out.2 } : Session Unit) :=
    Method.keeps_update fun _ isOpen => stays_of_same ⟨rfl, isOpen.symm, rfl, rfl, rfl, rfl⟩ rfl
  refine kept.bind fun _ => ?_
  cases hr : out.1 with
  | none => exact Method.keeps_pure _
  | some report =>
    exact (keeps_mouseReport (own report hr) moves).bind fun _ => Method.keeps_pure _

theorem keeps_mouseScroll (hscroll vscroll : Float32) (moves : g.moves) :
    Method.Keeps (Stays g) (mouseScroll hscroll vscroll) :=
  keeps_mouse fun m => keeps_scrolled (m.generateInputFromScroll hscroll vscroll)
    (fun _ h => MouseHid.scroll_isReport h) moves

theorem keeps_mouseFrameBatch (frames : List (Int32 × Int32 × UInt8))
    (granted : frames ≠ [] → g.moves) : Method.Keeps (Stays g) (mouseFrameBatch frames) := by
  unfold mouseFrameBatch
  split
  · exact Method.keeps_pure _
  · rename_i full
    refine keeps_mouse fun m => Method.Keeps.bind ?_ fun _ => Method.keeps_pure _
    exact Method.keeps_forEach _ fun frame _ => keeps_mouseReport ⟨rfl, rfl⟩ (granted full)

/- Gamepad. -/

theorem bindings_setSlot (gp : GamepadHid) (i : SlotIdx) {slot : GamepadSlot}
    (bound : slot.gamepadId = (gp.slot i).gamepadId) : (gp.setSlot i slot).bindings = gp.bindings := by
  ext j hj
  by_cases h : i.val = j
  · subst h
    simpa [GamepadHid.bindings, GamepadHid.setSlot] using congrArg UInt32.toNat bound
  · simp [GamepadHid.bindings, GamepadHid.setSlot, h]

theorem bindings_slotEvent (gp : GamepadHid) (i : SlotIdx)
    {event : GamepadSlot → Option GamepadSlot} (settles : Settles event) :
    (gp.slotEvent i event).2.bindings = gp.bindings := by
  cases he : event (gp.slot i) with
  | none => rw [GamepadHid.slotEvent_none he]
  | some slot =>
    rw [GamepadHid.slotEvent_some he]
    exact bindings_setSlot gp i (settles _ _ he).2

theorem gamepadWithCachedSlot_cases (s : HidSession) :
    (∃ e, gamepadWithCachedSlot.run s = (.err e, s)) ∨
    (s.closed = false ∧ ∃ i gp, s.gamepadSlot = some i ∧ s.gamepad = some gp ∧
      gamepadWithCachedSlot.run s = (.ok (i, gp), s)) := by
  unfold gamepadWithCachedSlot
  rw [Method.run_read_bind]
  cases hc : s.closed with
  | true => exact .inl ⟨_, rfl⟩
  | false =>
    cases hs : s.gamepadSlot with
    | none => exact .inl ⟨_, rfl⟩
    | some i =>
      cases hg : s.gamepad with
      | none => exact .inl ⟨_, rfl⟩
      | some gp => exact .inr ⟨rfl, i, gp, rfl, rfl, rfl⟩

theorem checkedUpdate_run {s : HidSession} {i : SlotIdx} {gp : GamepadHid}
    (run : gamepadWithCachedSlot.run s = (.ok (i, gp), s))
    (event : GamepadSlot → Option GamepadSlot) :
    (checkedUpdate event).run s =
      (match (gp.slotEvent i event).1 with
        | some (hidId, payload) => do
          pushGamepad hidId payload
          pure true
        | none => pure false : Session Bool).run
          { s with gamepad := some (gp.slotEvent i event).2 } := by
  rw [checkedUpdate, Method.run_bind_ok run]
  rfl

theorem stays_pushGamepadBatch {s : HidSession} {hidId : UInt16}
    (own : ∀ payload, Allowed g s (gamepadMessage hidId payload)) (batch : List Payload) :
    Stays g s ((pushGamepadBatch hidId batch).run s).2 := by
  refine stays_onWriter
    (fun d => (CoalescingWriter.emits_pushGamepadInputBatch d hidId batch).discard) fun m hm => ?_
  obtain ⟨payload, _, rfl⟩ := List.mem_map.mp hm
  exact own payload

theorem allowed_slot {s : HidSession} {i : SlotIdx} (live : s.closed = false)
    (slot : s.gamepadSlot = some i) (payload : Payload) :
    Allowed g s (gamepadMessage (GamepadHid.slotHidId i) payload) :=
  Or.inr (.inr (.inr ⟨live, .inr ⟨i, slot, rfl⟩⟩))

theorem stays_gamepad {s : HidSession} {gp gp' : GamepadHid} (hg : s.gamepad = some gp)
    (same : gp'.bindings = gp.bindings) : Stays g s { s with gamepad := some gp' } :=
  stays_of_same ⟨rfl, rfl, by rw [hg]; exact congrArg some same, rfl, rfl, rfl⟩ rfl

theorem keeps_checkedUpdate {event : GamepadSlot → Option GamepadSlot} (settles : Settles event) :
    Method.Keeps (Stays g) (checkedUpdate event) := by
  intro s
  rcases gamepadWithCachedSlot_cases s with ⟨e, run⟩ | ⟨live, i, gp, slot, hg, run⟩
  · rw [checkedUpdate, Method.run_bind_err run]
    exact refl_of (Stays g) s
  · rw [checkedUpdate_run run]
    refine trans_of (Stays g) (stays_gamepad hg (bindings_slotEvent gp i settles)) ?_
    cases he : event (gp.slot i) with
    | none =>
      rw [GamepadHid.slotEvent_none he]
      exact refl_of (Stays g) _
    | some next =>
      rw [GamepadHid.slotEvent_some he]
      dsimp only
      rw [Method.run_bind_pure]
      refine stays_onWriter
        (fun d => (CoalescingWriter.emits_pushGamepadInput d _ next.toPayload).discard) fun m hm => ?_
      obtain rfl := List.mem_singleton.mp hm
      exact allowed_slot live slot _

/- The loop of a checked batch, frame by frame. -/

theorem checkedBatch_nil (i : SlotIdx) (gp : GamepadHid) (batch : List Payload)
    (batchId : Option UInt16) (sent : Nat) :
    checkedBatch i [] gp batch batchId sent =
      match batchId with
      | some hidId =>
        if batch = [] then pure sent
        else do
          pushGamepadBatch hidId batch
          pure sent
      | none => pure sent := rfl

theorem checkedBatch_cons (i : SlotIdx) (frame : GamepadFrameRaw) (rest : List GamepadFrameRaw)
    (gp : GamepadHid) (batch : List Payload) (batchId : Option UInt16) (sent : Nat) :
    checkedBatch i (frame :: rest) gp batch batchId sent = (do
      let event := gp.slotEvent i (GamepadSlot.fullStateEvent frame)
      .update fun s => { s with gamepad := some event.2 }
      match event.1 with
      | none => checkedBatch i rest event.2 batch batchId sent
      | some (hidId, payload) =>
        if (batch ++ [payload]).length = directGamepadBatchFrames then do
          pushGamepadBatch (batchId.getD hidId) (batch ++ [payload])
          checkedBatch i rest event.2 [] (some (batchId.getD hidId)) (sent + 1)
        else
          checkedBatch i rest event.2 (batch ++ [payload]) (some (batchId.getD hidId))
            (sent + 1)) := rfl

theorem checkedBatch_same {i : SlotIdx} {frame : GamepadFrameRaw} {gp gp' : GamepadHid}
    (h : gp.slotEvent i (GamepadSlot.fullStateEvent frame) = (none, gp'))
    (rest : List GamepadFrameRaw) (batch : List Payload) (batchId : Option UInt16) (sent : Nat)
    (s : HidSession) :
    (checkedBatch i (frame :: rest) gp batch batchId sent).run s =
      (checkedBatch i rest gp' batch batchId sent).run { s with gamepad := some gp' } := by
  rw [checkedBatch_cons, h]
  rfl

theorem checkedBatch_changed {i : SlotIdx} {frame : GamepadFrameRaw} {gp gp' : GamepadHid}
    {hidId : UInt16} {payload : Payload}
    (h : gp.slotEvent i (GamepadSlot.fullStateEvent frame) = (some (hidId, payload), gp'))
    (rest : List GamepadFrameRaw) (batch : List Payload) (batchId : Option UInt16) (sent : Nat)
    (s : HidSession) :
    (checkedBatch i (frame :: rest) gp batch batchId sent).run s =
      (if (batch ++ [payload]).length = directGamepadBatchFrames then do
          pushGamepadBatch (batchId.getD hidId) (batch ++ [payload])
          checkedBatch i rest gp' [] (some (batchId.getD hidId)) (sent + 1)
        else checkedBatch i rest gp' (batch ++ [payload]) (some (batchId.getD hidId))
          (sent + 1) : Session Nat).run { s with gamepad := some gp' } := by
  rw [checkedBatch_cons, h]
  rfl

theorem slotEvent_hidId {gp gp' : GamepadHid} {i : SlotIdx}
    {event : GamepadSlot → Option GamepadSlot} {hidId : UInt16} {payload : Payload}
    (h : gp.slotEvent i event = (some (hidId, payload), gp')) : hidId = GamepadHid.slotHidId i := by
  cases he : event (gp.slot i) with
  | none =>
    rw [GamepadHid.slotEvent_none he] at h
    cases h
  | some slot =>
    rw [GamepadHid.slotEvent_some he] at h
    cases h
    rfl

theorem batchId_getD {i : SlotIdx} {batchId : Option UInt16}
    (own : ∀ id, batchId = some id → id = GamepadHid.slotHidId i) :
    batchId.getD (GamepadHid.slotHidId i) = GamepadHid.slotHidId i := by
  cases batchId with
  | none => rfl
  | some id => exact own id rfl

theorem stays_checkedBatch (i : SlotIdx) (frames : List GamepadFrameRaw) (gp : GamepadHid)
    (batch : List Payload) (batchId : Option UInt16) (sent : Nat) (s : HidSession)
    (live : s.closed = false) (slot : s.gamepadSlot = some i)
    (bound : s.gamepad.map GamepadHid.bindings = some gp.bindings)
    (own : ∀ id, batchId = some id → id = GamepadHid.slotHidId i) :
    Stays g s ((checkedBatch i frames gp batch batchId sent).run s).2 := by
  induction frames generalizing gp batch batchId sent s with
  | nil =>
    rw [checkedBatch_nil]
    cases batchId with
    | none => exact refl_of (Stays g) s
    | some id =>
      obtain rfl := own id rfl
      dsimp only
      split
      · exact refl_of (Stays g) s
      · rw [Method.run_bind_pure]
        exact stays_pushGamepadBatch (allowed_slot live slot) batch
  | cons frame rest ih =>
    have same := bindings_slotEvent gp i (GamepadSlot.settles_fullStateEvent frame)
    rcases he : gp.slotEvent i (GamepadSlot.fullStateEvent frame) with ⟨msg, gp'⟩
    rw [he] at same
    have kept : Stays g s { s with gamepad := some gp' } :=
      stays_of_same ⟨rfl, rfl, by rw [bound]; exact congrArg some same, rfl, rfl, rfl⟩ rfl
    have bound' : (some gp').map GamepadHid.bindings = some gp'.bindings := rfl
    refine trans_of (Stays g) kept ?_
    cases msg with
    | none =>
      rw [checkedBatch_same he]
      exact ih gp' batch batchId sent _ live slot bound' own
    | some report =>
      obtain ⟨hidId, payload⟩ := report
      obtain rfl := slotEvent_hidId he
      have own' : ∀ id, some (GamepadHid.slotHidId i) = some id → id = GamepadHid.slotHidId i :=
        fun id h => (Option.some.inj h).symm
      rw [checkedBatch_changed he, batchId_getD own]
      split
      · have pushed := stays_pushGamepadBatch (g := g) (s := { s with gamepad := some gp' })
          (allowed_slot live slot) (batch ++ [payload])
        rw [Method.run_bind]
        rcases hp : (pushGamepadBatch (GamepadHid.slotHidId i) (batch ++ [payload])).run
          { s with gamepad := some gp' } with ⟨r, t⟩
        rw [hp] at pushed
        cases r with
        | err e => exact pushed
        | panic => exact pushed
        | ok u =>
          have live' : t.closed = false := pushed.same.closed.trans live
          have slot' : t.gamepadSlot = some i := pushed.same.slot.trans slot
          exact trans_of (Stays g) pushed
            (ih gp' [] _ _ t live' slot' (pushed.same.gamepad.trans bound') own')
      · exact ih gp' _ _ _ _ live slot bound' own'

theorem setFrameRawBatch_many (first second : GamepadFrameRaw) (rest : List GamepadFrameRaw) :
    setFrameRawBatch (first :: second :: rest) = gamepadWithCachedSlot >>= fun (slotIdx, gp) =>
      checkedBatch slotIdx (first :: second :: rest) gp [] none 0 := rfl

theorem keeps_setFrameRawBatch (frames : List GamepadFrameRaw) :
    Method.Keeps (Stays g) (setFrameRawBatch frames) := by
  rcases frames with _ | ⟨frame, _ | ⟨second, rest⟩⟩
  · exact Method.keeps_pure _
  · refine (keeps_checkedUpdate (GamepadSlot.settles_fullStateEvent frame)).bind fun changed => ?_
    cases changed <;> exact Method.keeps_pure _
  · intro s
    rw [setFrameRawBatch_many]
    rcases gamepadWithCachedSlot_cases s with ⟨e, run⟩ | ⟨live, i, gp, slot, hg, run⟩
    · rw [Method.run_bind_err run]
      exact refl_of (Stays g) s
    · rw [Method.run_bind_ok run]
      exact stays_checkedBatch i _ gp [] none 0 s live slot (by rw [hg]; rfl) (by simp)

/- The unchecked forms ask only for the cached id. -/

theorem keeps_hidId {α : Type} {f : UInt16 → Session α}
    (h : ∀ s hidId, s.closed = false → s.gamepadHidId = some hidId → Stays g s ((f hidId).run s).2) :
    Method.Keeps (Stays g) (do
      let hidId ← hidIdOfGamepad
      f hidId : Session α) := by
  intro s
  rw [hidIdOfGamepad, Method.bind_assoc, Method.run_read_bind]
  cases hc : s.closed with
  | true => exact refl_of (Stays g) s
  | false =>
    cases hh : s.gamepadHidId with
    | none => exact refl_of (Stays g) s
    | some hidId => exact h s hidId hc hh

theorem allowed_hidId {s : HidSession} {hidId : UInt16} (live : s.closed = false)
    (own : s.gamepadHidId = some hidId) {i : UhidInput} (id : i.id = hidId) :
    Allowed g s (.uhidInput i) :=
  Or.inr (.inr (.inr ⟨live, .inl (by rw [own, id])⟩))

theorem keeps_setFrameRawUnchecked (frame : GamepadFrameRaw) :
    Method.Keeps (Stays g) (setFrameRawUnchecked frame) :=
  keeps_hidId fun s hidId live own => stays_onWriter
    (fun d => (CoalescingWriter.emits_pushGamepadInputFields d hidId frame).discard) fun m hm => by
      obtain rfl := List.mem_singleton.mp hm
      exact allowed_hidId live own rfl

theorem keeps_setFrameRawPacked (payload : Payload) :
    Method.Keeps (Stays g) (setFrameRawPacked payload) :=
  keeps_hidId fun s hidId live own => stays_onWriter
    (fun d => (CoalescingWriter.emits_pushGamepadInput d hidId payload).discard) fun m hm => by
      obtain rfl := List.mem_singleton.mp hm
      exact allowed_hidId live own rfl

theorem keeps_injectRawGamepadReport (payload : List UInt8) :
    Method.Keeps (Stays g) (injectRawGamepadReport payload) := by
  unfold injectRawGamepadReport
  split
  · exact Method.keeps_fail _
  · split
    · exact Method.keeps_fail _
    · rename_i short
      have fits := fitsInput_whole (Nat.not_lt.mp short)
      exact keeps_hidId fun s hidId live own => stays_onWriter
        (fun d => (CoalescingWriter.emits_pushUhidInput d hidId _ fits).discard) fun m hm => by
          obtain rfl := List.mem_singleton.mp hm
          exact allowed_hidId live own rfl

theorem keeps_setFrameRawBatchUnchecked (frames : List GamepadFrameRaw) :
    Method.Keeps (Stays g) (setFrameRawBatchUnchecked frames) := by
  match frames with
  | [] => exact Method.keeps_pure _
  | [frame] => exact (keeps_setFrameRawUnchecked frame).bind fun _ => Method.keeps_pure _
  | a :: b :: rest =>
    refine keeps_hidId fun s hidId live own => ?_
    rw [Method.run_bind_pure]
    refine stays_onWriter
      (fun d => (CoalescingWriter.emits_pushGamepadInputBatchFromFields d hidId _).discard)
      fun m hm => ?_
    obtain ⟨frame, _, rfl⟩ := List.mem_map.mp hm
    exact allowed_hidId live own rfl

theorem keeps_setFrameRawPackedBatch (frames : List Payload) :
    Method.Keeps (Stays g) (setFrameRawPackedBatch frames) := by
  match frames with
  | [] => exact Method.keeps_pure _
  | [payload] => exact (keeps_setFrameRawPacked payload).bind fun _ => Method.keeps_pure _
  | a :: b :: rest =>
    refine keeps_hidId fun s hidId live own => ?_
    rw [Method.run_bind_pure]
    exact stays_pushGamepadBatch (fun payload => allowed_hidId live own rfl) _

theorem keeps_gamepadOp (op : GamepadOp) : Method.Keeps (Stays g) op.run := by
  cases op with
  | update u =>
    rw [GamepadOp.run, u.run_eq]
    exact Method.keeps_discard (keeps_checkedUpdate u.settles)
  | setFrameRawBatch frames => exact Method.keeps_discard (keeps_setFrameRawBatch frames)
  | setFrameRawUnchecked frame => exact keeps_setFrameRawUnchecked frame
  | setFrameRawUncheckedFrame frame => exact keeps_setFrameRawUnchecked frame
  | setFrameRawPacked payload => exact keeps_setFrameRawPacked payload
  | injectRawGamepadReport payload => exact keeps_injectRawGamepadReport payload
  | setFrameRawBatchUnchecked frames =>
    exact Method.keeps_discard (keeps_setFrameRawBatchUnchecked frames)
  | setFrameRawPackedBatch frames =>
    exact Method.keeps_discard (keeps_setFrameRawPackedBatch frames)

/- A transport that never fails stays so. -/

def Working (s : HidSession) : Prop := s.transport.transport.NeverFails

theorem working_of_plans {s s' : HidSession} (working : Working s)
    (onWrite : s'.transport.transport.onWrite = s.transport.transport.onWrite)
    (onFlush : s'.transport.transport.onFlush = s.transport.transport.onFlush) : Working s' := by
  unfold Working Transport.NeverFails Transport.FlushOk at working ⊢
  rwa [onWrite, onFlush]

theorem Stays.working {s s' : HidSession} (h : Stays g s s') {d : Bool}
    {sent held : List ControlMessage} (carries : CoalescingWriter.Carries d s.transport sent held)
    (working : Working s) : Working s' := by
  obtain ⟨_, _, _, _, _, _, onWrite, onFlush⟩ := h.stream d sent held carries
  exact working_of_plans working onWrite onFlush

/- All operations. -/

/-- The operation reports within a grant, and announces nothing by hand. -/
def Within (g : Grant) : SessionOp → Prop
  | .send (.uhidCreate _) | .send (.uhidDestroy _) => False
  | .send (.uhidInput _) => g.raw
  | .close => False
  | .editGamepad edit => ∀ gp : GamepadHid, (edit gp).bindings = gp.bindings
  | .key scancode _ _ | .keyChord _ scancode => KeyboardHid.accepts scancode = true → g.keys
  | .typeText text => (∃ ch ∈ text.toList, supported ch = true) → g.keys
  | .typeTextStrict text => (∃ ch, text.toList.head? = some ch ∧ supported ch = true) → g.keys
  | .mouseMotion _ _ _ | .mouseButtons _ | .mouseScroll _ _ => g.moves
  | .mouseFrameBatch frames => frames ≠ [] → g.moves
  | _ => True

theorem keeps_op {op : SessionOp} (within : Within g op) : Method.Keeps (Stays g) op.run := by
  cases op with
  | send msg =>
    cases msg with
    | uhidCreate c => contradiction
    | uhidDestroy d => contradiction
    | uhidInput i => exact keeps_send fun _ => Or.inl within
    | _ => exact keeps_send fun _ => trivial
  | flushNow =>
    exact fun s => stays_onWriter (fun d => CoalescingWriter.emits_flushNow d) (List.forall_mem_nil _)
  | close => contradiction
  | setScreenSize w h => exact fun s => stays_of_same ⟨rfl, rfl, rfl, rfl, rfl, rfl⟩ rfl
  | editKeyboard edit =>
    intro s
    rw [SessionOp.run, editKeyboard, Method.run_read_bind]
    cases hk : s.kbd with
    | none => exact refl_of (Stays g) s
    | some k => exact stays_of_same ⟨by rw [hk]; rfl, rfl, rfl, rfl, rfl, rfl⟩ rfl
  | editMouse edit =>
    intro s
    rw [SessionOp.run, editMouse, Method.run_read_bind]
    cases hm : s.mouse with
    | none => exact refl_of (Stays g) s
    | some m => exact stays_of_same ⟨rfl, by rw [hm]; rfl, rfl, rfl, rfl, rfl⟩ rfl
  | editGamepad edit =>
    intro s
    rw [SessionOp.run, editGamepad, Method.run_read_bind]
    cases hg : s.gamepad with
    | none => exact refl_of (Stays g) s
    | some gp => exact stays_gamepad hg (within gp)
  | key scancode pressed mods => exact keeps_key scancode pressed mods within
  | typeText text => exact keeps_typeText text within
  | typeTextStrict text => exact keeps_typeTextStrict text within
  | keyChord mods scancode => exact keeps_keyChord mods scancode within
  | mouseMotion dx dy buttonsState =>
    exact keeps_mouse fun _ => keeps_mouseReport (MouseHid.motion_isReport _ _ _) within
  | mouseButtons buttonsState =>
    exact keeps_mouse fun _ => keeps_mouseReport (MouseHid.click_isReport _) within
  | mouseScroll hscroll vscroll =>
    exact Method.keeps_discard (keeps_mouseScroll hscroll vscroll within)
  | mouseFrameBatch frames => exact Method.keeps_discard (keeps_mouseFrameBatch frames within)
  | gamepad op => exact keeps_gamepadOp op
  | tapAndroidKeycode keycode metastate =>
    exact Method.Keeps.bind (keeps_send fun _ => trivial) fun _ => keeps_send fun _ => trivial
  | injectTouch action pointerId x y pressure => exact keeps_injectTouch _ _ _ _ _
  | injectScroll x y hscroll vscroll buttons =>
    exact Method.Keeps.bind Method.keeps_read fun _ => keeps_send fun _ => trivial
  | gesture gesture => exact keeps_gesture gesture

end HidSession

end HidConnect
