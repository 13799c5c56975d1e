import HidConnect.Hid.Report

/-! The gamepad driver: eight slots, each with the state last reported for it. -/
namespace HidConnect
open Fallible

/-- A fifteen-byte gamepad report. -/
abbrev Payload := Vector UInt8 hidMaxSize
abbrev SlotIdx := Fin maxGamepads

def buttonsMask : UInt32 := 0xFFFF
def buttonsAllMask : UInt32 := 0x000FFFFF

def axisRescale (v : Int16) : UInt16 := (v.toInt32 + 0x8000).toUInt32.toUInt16

/-- `(v.max(0) as u16).min(0x7FFF)` -/
def triggerRescale (v : Int16) : UInt16 :=
  let raised := (if v < 0 then 0 else v).toUInt16
  if raised ≤ 0x7FFF then raised else 0x7FFF

def leBytes (v : UInt16) : List UInt8 := Bytes.toLe 2 v.toNat

structure GamepadFrameRaw where
  buttons : UInt32
  leftX : Int16
  leftY : Int16
  rightX : Int16
  rightY : Int16
  leftTrigger : Int16
  rightTrigger : Int16
  deriving DecidableEq, Repr

def GamepadFrameRaw.pack (f : GamepadFrameRaw) : Payload :=
  padReport (leBytes (axisRescale f.leftX) ++ leBytes (axisRescale f.leftY) ++
    leBytes (axisRescale f.rightX) ++ leBytes (axisRescale f.rightY) ++
    leBytes (triggerRescale f.leftTrigger) ++ leBytes (triggerRescale f.rightTrigger) ++
    leBytes f.buttons.toUInt16 ++ [dpadHatValue f.buttons])

structure GamepadSlot where
  gamepadId : UInt32
  buttons : UInt32
  axisLeftX : UInt16
  axisLeftY : UInt16
  axisRightX : UInt16
  axisRightY : UInt16
  axisLeftTrigger : UInt16
  axisRightTrigger : UInt16
  deriving DecidableEq, Repr

namespace GamepadSlot

def default : GamepadSlot :=
  { gamepadId := gamepadIdInvalid, buttons := 0, axisLeftX := 0, axisLeftY := 0, axisRightX := 0,
    axisRightY := 0, axisLeftTrigger := 0, axisRightTrigger := 0 }

def isFree (slot : GamepadSlot) : Bool := slot.gamepadId = gamepadIdInvalid

def toPayload (slot : GamepadSlot) : Payload :=
  padReport (leBytes slot.axisLeftX ++ leBytes slot.axisLeftY ++ leBytes slot.axisRightX ++
    leBytes slot.axisRightY ++ leBytes slot.axisLeftTrigger ++ leBytes slot.axisRightTrigger ++
    leBytes (slot.buttons &&& buttonsMask).toUInt16 ++ [dpadHatValue slot.buttons])

/-- The fields a checked event sets are compared first; an event that sets none of them to
something new is no event. -/
def changed (slot next : GamepadSlot) : Option GamepadSlot :=
  if slot = next then none else some next

/- What each checked event makes of a slot. -/

def holdFrame (f : GamepadFrameRaw) (slot : GamepadSlot) : GamepadSlot :=
  { slot with
    buttons := f.buttons &&& buttonsAllMask
    axisLeftX := axisRescale f.leftX
    axisLeftY := axisRescale f.leftY
    axisRightX := axisRescale f.rightX
    axisRightY := axisRescale f.rightY
    axisLeftTrigger := triggerRescale f.leftTrigger
    axisRightTrigger := triggerRescale f.rightTrigger }

def fullStateEvent (f : GamepadFrameRaw) (slot : GamepadSlot) : Option GamepadSlot :=
  changed slot (slot.holdFrame f)

def buttonsEvent (buttons : UInt32) (slot : GamepadSlot) : Option GamepadSlot :=
  changed slot { slot with buttons := buttons &&& buttonsAllMask }

def buttonEvent (button : GamepadButton) (pressed : Bool) (slot : GamepadSlot) :
    Option GamepadSlot :=
  if decide (slot.buttons &&& button.bit ≠ 0) = pressed then none
  else if pressed then some { slot with buttons := slot.buttons ||| button.bit }
  else some { slot with buttons := slot.buttons &&& ~~~button.bit }

def axisEvent (axis : GamepadAxis) (value : Int16) (slot : GamepadSlot) : Option GamepadSlot :=
  match axis with
  | .leftX => changed slot { slot with axisLeftX := axisRescale value }
  | .leftY => changed slot { slot with axisLeftY := axisRescale value }
  | .rightX => changed slot { slot with axisRightX := axisRescale value }
  | .rightY => changed slot { slot with axisRightY := axisRescale value }
  | .leftTrigger => changed slot { slot with axisLeftTrigger := triggerRescale value }
  | .rightTrigger => changed slot { slot with axisRightTrigger := triggerRescale value }

def leftStick (x y : Int16) (slot : GamepadSlot) : Option GamepadSlot :=
  changed slot { slot with axisLeftX := axisRescale x, axisLeftY := axisRescale y }

def rightStick (x y : Int16) (slot : GamepadSlot) : Option GamepadSlot :=
  changed slot { slot with axisRightX := axisRescale x, axisRightY := axisRescale y }

def triggers (left right : Int16) (slot : GamepadSlot) : Option GamepadSlot :=
  changed slot { slot with
    axisLeftTrigger := triggerRescale left, axisRightTrigger := triggerRescale right }

def sticks (leftX leftY rightX rightY leftTrigger rightTrigger : Int16) (slot : GamepadSlot) :
    Option GamepadSlot :=
  changed slot { slot with
    axisLeftX := axisRescale leftX
    axisLeftY := axisRescale leftY
    axisRightX := axisRescale rightX
    axisRightY := axisRescale rightY
    axisLeftTrigger := triggerRescale leftTrigger
    axisRightTrigger := triggerRescale rightTrigger }

end GamepadSlot

structure GamepadHid where
  slots : Vector GamepadSlot maxGamepads

namespace GamepadHid

def new : GamepadHid := { slots := Vector.replicate maxGamepads .default }

abbrev slot (g : GamepadHid) (slotIdx : SlotIdx) : GamepadSlot := g.slots[slotIdx]

def slotHidId (slotIdx : SlotIdx) : UInt16 := hidIdGamepadFirst + slotIdx.val.toUInt16

def slotFromHidId (hidId : UInt16) : Option SlotIdx :=
  if h : 3 ≤ hidId.toNat ∧ hidId.toNat ≤ 10 then
    some ⟨hidId.toNat - 3, by unfold maxGamepads; omega⟩
  else none

def findSlot (g : GamepadHid) (gamepadId : UInt32) : Option SlotIdx :=
  (List.finRange maxGamepads).find? fun i => g.slots[i].gamepadId = gamepadId

def freeSlot (g : GamepadHid) : Option SlotIdx := g.findSlot gamepadIdInvalid

def setSlot (g : GamepadHid) (slotIdx : SlotIdx) (slot : GamepadSlot) : GamepadHid :=
  { g with slots := g.slots.set slotIdx slot }

def buildCreate (hidId : UInt16) (name : Option String) : ControlMessage :=
  .uhidCreate {
    id := hidId, vendorId := 0x045e, productId := 0x028e, name, reportDesc := gamepadReportDesc }

/-- Allocate a slot, or announce again the one the id already has. -/
def «open» (gamepadId : UInt32) (name : Option String) :
    Method Error GamepadHid (UInt16 × ControlMessage) :=
  if gamepadId = gamepadIdInvalid then .fail (.unknownGamepad gamepadId)
  else do
    let g ← .read
    match g.findSlot gamepadId with
    | some idx => pure (slotHidId idx, buildCreate (slotHidId idx) name)
    | none =>
      let slotIdx ← .okOr .noGamepadSlot g.freeSlot
      .update fun g => g.setSlot slotIdx {
        gamepadId, buttons := 0
        axisLeftX := axisRescale 0, axisLeftY := axisRescale 0
        axisRightX := axisRescale 0, axisRightY := axisRescale 0
        axisLeftTrigger := 0, axisRightTrigger := 0 }
      pure (slotHidId slotIdx, buildCreate (slotHidId slotIdx) name)

def release (slotIdx : SlotIdx) : Method Error GamepadHid ControlMessage := do
  .update fun g => g.setSlot slotIdx { g.slots[slotIdx] with gamepadId := gamepadIdInvalid }
  pure (.uhidDestroy { id := slotHidId slotIdx })

def close (gamepadId : UInt32) : Method Error GamepadHid ControlMessage :=
  if gamepadId = gamepadIdInvalid then .fail (.unknownGamepad gamepadId)
  else do
    let slotIdx ← .okOr (.unknownGamepad gamepadId) ((← .read).findSlot gamepadId)
    release slotIdx

/-- Free a slot by its index, which is in range by its type. -/
def closeSlotIdx (slotIdx : SlotIdx) : Method Error GamepadHid ControlMessage := do
  if (← .read).slots[slotIdx].isFree then .fail (.unknownGamepad 0) else release slotIdx

/-- A checked event: the slot takes its next state before anything is sent, and the report to
send is returned if there is one. -/
def slotEvent (slotIdx : SlotIdx) (event : GamepadSlot → Option GamepadSlot) (g : GamepadHid) :
    Option (UInt16 × Payload) × GamepadHid :=
  match event g.slots[slotIdx] with
  | none => (none, g)
  | some slot => (some (slotHidId slotIdx, slot.toPayload), g.setSlot slotIdx slot)

theorem slotEvent_none {g : GamepadHid} {i : SlotIdx} {event : GamepadSlot → Option GamepadSlot}
    (h : event (g.slot i) = none) : g.slotEvent i event = (none, g) := by
  unfold slot at h
  rw [slotEvent, h]

theorem slotEvent_some {g : GamepadHid} {i : SlotIdx} {event : GamepadSlot → Option GamepadSlot}
    {next : GamepadSlot} (h : event (g.slot i) = some next) :
    g.slotEvent i event = (some (slotHidId i, next.toPayload), g.setSlot i next) := by
  unfold slot at h
  rw [slotEvent, h]

theorem slots_setSlot (g : GamepadHid) (i : SlotIdx) (slot : GamepadSlot) :
    (g.setSlot i slot).slots[i] = slot := by
  simp [setSlot]

end GamepadHid

/- An event that has been applied has nothing left to report. -/

def Settles (event : GamepadSlot → Option GamepadSlot) : Prop :=
  ∀ slot next, event slot = some next → event next = none ∧ next.gamepadId = slot.gamepadId

namespace GamepadSlot

theorem changed_eq_none {slot next : GamepadSlot} : changed slot next = none ↔ slot = next := by
  unfold changed
  split <;> simp [*]

theorem changed_eq_some {slot next out : GamepadSlot} (h : changed slot next = some out) :
    out = next := by
  unfold changed at h
  split at h
  · contradiction
  · exact (Option.some.inj h).symm

theorem settles_changed {edit : GamepadSlot → GamepadSlot} (again : ∀ s, edit (edit s) = edit s)
    (bound : ∀ s, (edit s).gamepadId = s.gamepadId) : Settles fun s => changed s (edit s) := by
  intro slot next h
  obtain rfl := changed_eq_some h
  exact ⟨changed_eq_none.mpr (again slot).symm, bound slot⟩

theorem settles_fullStateEvent (f : GamepadFrameRaw) : Settles (fullStateEvent f) :=
  settles_changed (fun _ => rfl) fun _ => rfl

theorem settles_buttonsEvent (buttons : UInt32) : Settles (buttonsEvent buttons) :=
  settles_changed (fun _ => rfl) fun _ => rfl

theorem settles_leftStick (x y : Int16) : Settles (leftStick x y) :=
  settles_changed (fun _ => rfl) fun _ => rfl

theorem settles_rightStick (x y : Int16) : Settles (rightStick x y) :=
  settles_changed (fun _ => rfl) fun _ => rfl

theorem settles_triggers (left right : Int16) : Settles (triggers left right) :=
  settles_changed (fun _ => rfl) fun _ => rfl

theorem settles_sticks (lx ly rx ry lt rt : Int16) : Settles (sticks lx ly rx ry lt rt) :=
  settles_changed (fun _ => rfl) fun _ => rfl

theorem settles_axisEvent (axis : GamepadAxis) (value : Int16) : Settles (axisEvent axis value) := by
  cases axis <;> exact settles_changed (fun _ => rfl) fun _ => rfl

/-- Masking the buttons loses nothing that is reported. -/
theorem toPayload_holdFrame (f : GamepadFrameRaw) (slot : GamepadSlot) :
    (slot.holdFrame f).toPayload = f.pack := by
  have low : (f.buttons &&& buttonsAllMask &&& buttonsMask).toUInt16 = f.buttons.toUInt16 := by
    have mask : buttonsAllMask &&& buttonsMask = 0xFFFF := by decide
    have cut (n : Nat) : n &&& 65535 = n % 65536 := Nat.and_two_pow_sub_one_eq_mod n 16
    rw [UInt32.and_assoc, mask, ← UInt16.toNat_inj]
    simp [cut]
  have hat : dpadHatValue (f.buttons &&& buttonsAllMask) = dpadHatValue f.buttons := by
    have mask : buttonsAllMask &&& dpadMask = dpadMask := by decide
    rw [dpadHatValue, dpadHatValue, UInt32.and_assoc, mask]
  simp only [toPayload, holdFrame, GamepadFrameRaw.pack, low, hat]

theorem bit_ne_zero (button : GamepadButton) : button.bit ≠ 0 := by cases button <;> decide

theorem settles_buttonEvent (button : GamepadButton) (pressed : Bool) :
    Settles (buttonEvent button pressed) := by
  intro slot next h
  unfold buttonEvent at h
  split at h
  · contradiction
  · cases pressed with
    | true =>
      obtain rfl := Option.some.inj h
      have held : (slot.buttons ||| button.bit) &&& button.bit = button.bit := by
        rw [← UInt32.toBitVec_inj]
        ext i hi
        simp only [UInt32.toBitVec_and, UInt32.toBitVec_or, BitVec.getElem_and, BitVec.getElem_or]
        cases button.bit.toBitVec[i] <;> simp
      simp [buttonEvent, held, bit_ne_zero]
    | false =>
      obtain rfl := Option.some.inj h
      have lifted : slot.buttons &&& ~~~button.bit &&& button.bit = 0 := by
        rw [← UInt32.toBitVec_inj]
        ext i hi
        simp only [UInt32.toBitVec_and, UInt32.toBitVec_not, BitVec.getElem_and,
          BitVec.getElem_not, UInt32.toBitVec_zero, BitVec.getElem_zero]
        cases button.bit.toBitVec[i] <;> simp
      simp [buttonEvent, lifted]

end GamepadSlot

end HidConnect
