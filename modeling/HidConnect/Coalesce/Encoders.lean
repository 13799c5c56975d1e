import HidConnect.Coalesce.Stream

/-! The gamepad encoders, offset by offset. Each fills an array of its own, from its own copy of the
rescaling, and all of them write the same report. -/
namespace HidConnect
open Fallible

namespace AtOffsets

/-- `GamepadFrameRaw::pack` -/
def pack (f : GamepadFrameRaw) : List UInt8 :=
  let data := zeros gamepadReportSize
  let leftX := (f.leftX.toInt32 + 0x8000).toUInt32.toUInt16
  let leftY := (f.leftY.toInt32 + 0x8000).toUInt32.toUInt16
  let rightX := (f.rightX.toInt32 + 0x8000).toUInt32.toUInt16
  let rightY := (f.rightY.toInt32 + 0x8000).toUInt32.toUInt16
  let leftTrigger := triggerRescale f.leftTrigger
  let rightTrigger := triggerRescale f.rightTrigger
  let data := Bytes.copyAt 0 (leBytes leftX) data
  let data := Bytes.copyAt 2 (leBytes leftY) data
  let data := Bytes.copyAt 4 (leBytes rightX) data
  let data := Bytes.copyAt 6 (leBytes rightY) data
  let data := Bytes.copyAt 8 (leBytes leftTrigger) data
  let data := Bytes.copyAt 10 (leBytes rightTrigger) data
  let data := Bytes.copyAt 12 (leBytes f.buttons.toUInt16) data
  Bytes.copyAt 14 [dpadHatValue f.buttons] data

def slotToPayload (slot : GamepadSlot) : List UInt8 :=
  let data := zeros gamepadReportSize
  let data := Bytes.copyAt 0 (leBytes slot.axisLeftX) data
  let data := Bytes.copyAt 2 (leBytes slot.axisLeftY) data
  let data := Bytes.copyAt 4 (leBytes slot.axisRightX) data
  let data := Bytes.copyAt 6 (leBytes slot.axisRightY) data
  let data := Bytes.copyAt 8 (leBytes slot.axisLeftTrigger) data
  let data := Bytes.copyAt 10 (leBytes slot.axisRightTrigger) data
  let btn16 := (slot.buttons &&& buttonsMask).toUInt16
  let data := Bytes.copyAt 12 (leBytes btn16) data
  Bytes.copyAt 14 [dpadHatValue slot.buttons] data

def encodeGamepadInputFieldsSlice (buf : List UInt8) (id : UInt16) (frame : GamepadFrameRaw) :
    List UInt8 :=
  let buf := Bytes.copyAt 0 [ControlMsgType.uhidInput.toU8] buf
  let idBe := be16 id
  let buf := Bytes.copyAt 1 [idBe.getD 0 0] buf
  let buf := Bytes.copyAt 2 [idBe.getD 1 0] buf
  let size := be16 gamepadReportSize.toUInt16
  let buf := Bytes.copyAt 3 [size.getD 0 0] buf
  let buf := Bytes.copyAt 4 [size.getD 1 0] buf
  let buttons := frame.buttons
  let leftX := (frame.leftX.toInt32 + 0x8000).toUInt32.toUInt16
  let leftY := (frame.leftY.toInt32 + 0x8000).toUInt32.toUInt16
  let rightX := (frame.rightX.toInt32 + 0x8000).toUInt32.toUInt16
  let rightY := (frame.rightY.toInt32 + 0x8000).toUInt32.toUInt16
  let leftTrigger := triggerRescale frame.leftTrigger
  let rightTrigger := triggerRescale frame.rightTrigger
  let buf := Bytes.copyAt 5 (leBytes leftX) buf
  let buf := Bytes.copyAt 7 (leBytes leftY) buf
  let buf := Bytes.copyAt 9 (leBytes rightX) buf
  let buf := Bytes.copyAt 11 (leBytes rightY) buf
  let buf := Bytes.copyAt 13 (leBytes leftTrigger) buf
  let buf := Bytes.copyAt 15 (leBytes rightTrigger) buf
  let buf := Bytes.copyAt 17 (leBytes buttons.toUInt16) buf
  Bytes.copyAt 19 [dpadHatValue buttons] buf

@[simp] theorem length_leBytes (v : UInt16) : (leBytes v).length = 2 := Bytes.length_toLe 2 v.toNat

theorem be16_eq (v : UInt16) : be16 v = [(be16 v).getD 0 0, (be16 v).getD 1 0] := rfl

theorem pack_eq (f : GamepadFrameRaw) : pack f = f.pack.toList := by
  have laid : pack f = Bytes.copyAll 0 [leBytes (axisRescale f.leftX), leBytes (axisRescale f.leftY),
      leBytes (axisRescale f.rightX), leBytes (axisRescale f.rightY),
      leBytes (triggerRescale f.leftTrigger), leBytes (triggerRescale f.rightTrigger),
      leBytes f.buttons.toUInt16, [dpadHatValue f.buttons]] (zeros gamepadReportSize) := by
    simp [pack, Bytes.copyAll, axisRescale]
  rw [laid, copyAll_whole (by simp [gamepadReportSize]), GamepadFrameRaw.pack]
  rw [toList_padReport (by simp [hidMaxSize])]
  simp

theorem slotToPayload_eq (slot : GamepadSlot) : slotToPayload slot = slot.toPayload.toList := by
  have laid : slotToPayload slot = Bytes.copyAll 0 [leBytes slot.axisLeftX, leBytes slot.axisLeftY,
      leBytes slot.axisRightX, leBytes slot.axisRightY, leBytes slot.axisLeftTrigger,
      leBytes slot.axisRightTrigger, leBytes (slot.buttons &&& buttonsMask).toUInt16,
      [dpadHatValue slot.buttons]] (zeros gamepadReportSize) := by
    simp [slotToPayload, Bytes.copyAll]
  rw [laid, copyAll_whole (by simp [gamepadReportSize]), GamepadSlot.toPayload]
  rw [toList_padReport (by simp [hidMaxSize])]
  simp

theorem encodeGamepadInputFieldsSlice_take (buf : List UInt8) (id : UInt16)
    (frame : GamepadFrameRaw) (room : gamepadReportSize + 5 ≤ buf.length) :
    (encodeGamepadInputFieldsSlice buf id frame).take (gamepadReportSize + 5) =
      (gamepadFieldsParts id frame).flatten := by
  let idBe := be16 id
  let size := be16 gamepadReportSize.toUInt16
  let parts : List (List UInt8) := [[ControlMsgType.uhidInput.toU8], [idBe.getD 0 0],
    [idBe.getD 1 0], [size.getD 0 0], [size.getD 1 0], leBytes (axisRescale frame.leftX),
    leBytes (axisRescale frame.leftY), leBytes (axisRescale frame.rightX),
    leBytes (axisRescale frame.rightY), leBytes (triggerRescale frame.leftTrigger),
    leBytes (triggerRescale frame.rightTrigger), leBytes frame.buttons.toUInt16,
    [dpadHatValue frame.buttons]]
  have laid : encodeGamepadInputFieldsSlice buf id frame = Bytes.copyAll 0 parts buf := by
    simp [encodeGamepadInputFieldsSlice, Bytes.copyAll, parts, idBe, size, axisRescale]
  have length : parts.flatten.length = gamepadReportSize + 5 := by
    simp [parts, gamepadReportSize]
  have same : parts.flatten = (gamepadFieldsParts id frame).flatten := by
    rw [gamepadFieldsParts, inputHeader, be16_eq id, be16_eq gamepadReportSize.toUInt16]
    simp [parts, idBe, size]
  have blank : Bytes.StartsWith buf [] buf.length := ⟨rfl, rfl⟩
  have filled := (blank.copyAll parts (by simpa [length] using room)).2
  rw [List.nil_append, List.length_nil, length] at filled
  rw [laid, filled, same]

end AtOffsets

open AtOffsets GamepadHid

/-- A frame is the same report whether the driver takes it as a slot's full state, or it is packed,
appended to the buffer or encoded into a slice. -/
theorem gamepad_encoders_agree (frame : GamepadFrameRaw) (id : UInt16) (g : GamepadHid) (i : SlotIdx)
    (buf rest : List UInt8) (raw : Vector UInt8 (gamepadReportSize + 5)) :
    slotToPayload ((g.slotEvent i (GamepadSlot.fullStateEvent frame)).2.slot i) = pack frame ∧
      (pushGamepadInputFieldsToBuf id frame).run buf =
        (.ok (), buf ++ (inputHeader id gamepadReportSize).flatten ++ pack frame) ∧
      ((encodeGamepadInputFieldsSlice (raw.toList ++ rest) id frame).drop 5).take gamepadReportSize =
        pack frame := by
  have message : (gamepadFieldsParts id frame).flatten =
      (inputHeader id gamepadReportSize).flatten ++ pack frame := by
    rw [flatten_gamepadFieldsParts, pack_eq]
    simp [gamepadInputParts]
  constructor
  · rw [slotToPayload_eq, pack_eq]
    cases changed : GamepadSlot.fullStateEvent frame (g.slot i) with
    | none =>
      have held := GamepadSlot.changed_eq_none.mp changed
      rw [slotEvent_none changed, held, GamepadSlot.toPayload_holdFrame]
    | some next =>
      have held := GamepadSlot.changed_eq_some changed
      rw [slotEvent_some changed, slot, slots_setSlot, held, GamepadSlot.toPayload_holdFrame]
  constructor
  · have appended := appends_extendAll (gamepadFieldsParts id frame) buf
    rw [message, ← List.append_assoc] at appended
    exact appended
  · have front := encodeGamepadInputFieldsSlice_take (raw.toList ++ rest) id frame (by simp)
    have five : (inputHeader id gamepadReportSize).flatten.length = 5 := by
      simp [inputHeader, be16]
    rw [List.take_drop, Nat.add_comm, front, message, ← five, List.drop_left]

end HidConnect
