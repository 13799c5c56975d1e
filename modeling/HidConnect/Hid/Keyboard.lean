import HidConnect.Hid.Report

/-! The keyboard driver: the set of held keys, and the eight-byte report built from it. -/
namespace HidConnect
open Fallible

def keyboardReportSize : Nat := 8
def keyboardMaxKeys : Nat := 6
def scHidErrorRollOver : UInt8 := 0x01

structure KeyboardHid where
  keys : Vector Bool 0x66
  deviceMod : Modifiers

namespace KeyboardHid

def new : KeyboardHid := { keys := Vector.replicate 0x66 false, deviceMod := .empty }

/-- A scancode the keyboard accepts: a key of the table or a modifier. -/
def accepts (scancode : UInt8) : Bool :=
  scancode.toNat ≤ 0x65 || (0xE0 ≤ scancode.toNat && scancode.toNat ≤ 0xE7)

def setKey (scancode : UInt8) (pressed : Bool) : Method Error KeyboardHid Unit :=
  if accepts scancode then
    .update fun k =>
      if h : scancode.toNat < 0x66 then { k with keys := k.keys.set scancode.toNat pressed } else k
  else .fail (.scancodeOutOfRange scancode.toUInt16)

def heldScancodes (k : KeyboardHid) : List Nat :=
  (List.range 0x66).filter fun sc => k.keys.toList.getD sc false

/-- Fill the key slots in order. A seventh key puts the roll-over code in every slot. -/
def fillSlots (mods : UInt8) (filled : List UInt8) : List Nat → List UInt8
  | [] => [mods, 0] ++ filled ++ List.replicate (keyboardMaxKeys - filled.length) 0
  | sc :: rest =>
    if filled.length ≥ keyboardMaxKeys then
      [mods, 0] ++ List.replicate keyboardMaxKeys scHidErrorRollOver
    else fillSlots mods (filled ++ [sc.toUInt8]) rest

def buildReport (k : KeyboardHid) (modifiers : Modifiers) : HidReport :=
  .new hidIdKeyboard (fillSlots modifiers.bits [] k.heldScancodes)

def injectKey (scancode : UInt8) (pressed : Bool) (modifiers : Modifiers) :
    Method Error KeyboardHid HidReport := do
  setKey scancode pressed
  .update fun k => { k with deviceMod := modifiers }
  let k ← .read
  pure (k.buildReport modifiers)

def keyEvent (scancode : UInt8) (pressed : Bool) (modifiers : Modifiers) :
    Method Error KeyboardHid ControlMessage := do
  let report ← injectKey scancode pressed modifiers
  .lift (toInputMessage hidIdKeyboard report)

def openMessage (_name : Option String) : Result ControlMessage :=
  .ok (.uhidCreate {
    id := hidIdKeyboard, vendorId := 0, productId := 0, name := none,
    reportDesc := keyboardReportDesc })

def closeMessage : Result ControlMessage := .ok (.uhidDestroy { id := hidIdKeyboard })

theorem length_fillSlots (mods : UInt8) (filled : List UInt8) (held : List Nat)
    (room : filled.length ≤ keyboardMaxKeys) :
    (fillSlots mods filled held).length = keyboardReportSize := by
  simp only [keyboardMaxKeys] at room
  induction held generalizing filled with
  | nil =>
    simp only [fillSlots, keyboardMaxKeys, keyboardReportSize, List.length_append,
      List.length_replicate, List.length_cons, List.length_nil]
    omega
  | cons sc rest ih =>
    rw [fillSlots]
    split
    · rfl
    · rename_i free
      simp only [keyboardMaxKeys] at free
      refine ih _ ?_
      simp only [List.length_append, List.length_cons, List.length_nil]
      omega

theorem keyEvent_run (k : KeyboardHid) (scancode : UInt8) (pressed : Bool) (modifiers : Modifiers) :
    (accepts scancode = true ∧ ∃ t data, (keyEvent scancode pressed modifiers).run k =
      (.ok (.uhidInput { id := hidIdKeyboard, size := 8, data := data }), t)) ∨
    (accepts scancode = false ∧ (keyEvent scancode pressed modifiers).run k =
      (.err (.scancodeOutOfRange scancode.toUInt16), k)) := by
  cases valid : accepts scancode with
  | false =>
    refine .inr ⟨rfl, ?_⟩
    simp [keyEvent, injectKey, setKey, valid, Method.run_bind]
  | true =>
    refine .inl ⟨rfl, ?_⟩
    have size (k : KeyboardHid) : (k.buildReport modifiers).size = 8 := by
      have eight := length_fillSlots modifiers.bits [] k.heldScancodes (by decide)
      simp only [buildReport, HidReport.new, eight]
      rfl
    have own (k : KeyboardHid) : (k.buildReport modifiers).hidId = hidIdKeyboard := rfl
    simp [keyEvent, injectKey, setKey, valid, Method.run_bind, toInputMessage, own, size]
    rfl

end KeyboardHid

end HidConnect
