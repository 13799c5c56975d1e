import HidConnect.Hid.Held
import HidConnect.Hid.Slots
import HidConnect.Library.ReportDescriptor

/-! What a host that parsed the report descriptors reads of the drivers' reports. -/
namespace HidConnect
open Fallible ReportDescriptor

/- Usage pages and usages, as the descriptors name them. -/

def pageGenericDesktop : Nat := 0x01
def pageKeyCodes : Nat := 0x07
def pageButtons : Nat := 0x09
def pageConsumer : Nat := 0x0C
def usageX : Nat := 0x30
def usageY : Nat := 0x31
def usageZ : Nat := 0x32
def usageRx : Nat := 0x33
def usageRy : Nat := 0x34
def usageRz : Nat := 0x35
def usageWheel : Nat := 0x38
def usageHatSwitch : Nat := 0x39
def usageAcPan : Nat := 0x238

/-- The layouts of the devices that a host was told of, by their ids. -/
abbrev HidHost := UInt16 → Option Layout

namespace HidHost

def receive (host : HidHost) : ControlMessage → HidHost
  | .uhidCreate c => Function.update host c.id (layout c.reportDesc)
  | .uhidDestroy d => Function.update host d.id none
  | _ => host

/-- What the host reads of an input; nothing if it does not know the device or if the report has
another size. -/
def reads (host : HidHost) (input : UhidInput) : Option (List Control) := do
  let l ← host input.id
  l.read (input.data.toList.take input.size.toNat)

end HidHost

/- The layouts. -/

def modifierKeys : Field :=
  { page := pageKeyCodes, usages := List.range' 0xE0 8, logicalMin := 0, logicalMax := 1, size := 1,
    count := 8, start := 0, flags := 2 }

def reservedByte : Field :=
  { page := pageKeyCodes, usages := [], logicalMin := 0, logicalMax := 1, size := 8, count := 1,
    start := 8, flags := 1 }

def keyArray : Field :=
  { page := pageKeyCodes, usages := List.range' 0 0x66, logicalMin := 0, logicalMax := 0x65,
    size := 8, count := 6, start := 16, flags := 0 }

def mouseButtons : Field :=
  { page := pageButtons, usages := List.range' 1 5, logicalMin := 0, logicalMax := 1, size := 1,
    count := 5, start := 0, flags := 2 }

def mousePadding : Field :=
  { page := pageButtons, usages := [], logicalMin := 0, logicalMax := 1, size := 3, count := 1,
    start := 5, flags := 1 }

def mouseAxes : Field :=
  { page := pageGenericDesktop, usages := [usageX, usageY, usageWheel], logicalMin := -127,
    logicalMax := 127, size := 8, count := 3, start := 8, flags := 6 }

def mousePan : Field :=
  { page := pageConsumer, usages := [usageAcPan], logicalMin := -127, logicalMax := 127, size := 8,
    count := 1, start := 32, flags := 6 }

def gamepadSticks : Field :=
  { page := pageGenericDesktop, usages := [usageX, usageY, usageRx, usageRy], logicalMin := 0,
    logicalMax := 65535, size := 16, count := 4, start := 0, flags := 2 }

def gamepadTriggers : Field :=
  { page := pageGenericDesktop, usages := [usageZ, usageRz], logicalMin := 0, logicalMax := 32767,
    size := 16, count := 2, start := 64, flags := 2 }

def gamepadButtons : Field :=
  { page := pageButtons, usages := List.range' 1 16, logicalMin := 0, logicalMax := 1, size := 1,
    count := 16, start := 96, flags := 2 }

def gamepadHat : Field :=
  { page := pageGenericDesktop, usages := [usageHatSwitch], logicalMin := 1, logicalMax := 8,
    size := 4, count := 1, start := 112, flags := 0x42 }

def keyboardInputs : List Field := [modifierKeys, reservedByte, keyArray]
def mouseInputs : List Field := [mouseButtons, mousePadding, mouseAxes, mousePan]
def gamepadInputs : List Field := [gamepadSticks, gamepadTriggers, gamepadButtons, gamepadHat]

theorem layout_keyboard : (layout keyboardReportDesc).map Layout.inputs = some keyboardInputs := by
  decide +kernel

theorem layout_mouse : layout mouseReportDesc = some { inputs := mouseInputs, outputs := [] } := by
  decide +kernel

def gamepadLayout : Layout := { inputs := gamepadInputs, outputs := [] }

theorem layout_gamepad : layout gamepadReportDesc = some gamepadLayout := by decide +kernel

theorem toInputMessage_new (hidId : UInt16) {bytes : List UInt8} (fits : bytes.length ≤ hidMaxSize) :
    ∃ input, toInputMessage hidId (.new hidId bytes) = .ok (.uhidInput input) ∧ input.id = hidId ∧
      input.data.toList.take input.size.toNat = bytes := by
  have small : bytes.length < 2 ^ 16 := by
    unfold hidMaxSize at fits
    omega
  have size : (min (HidReport.new hidId bytes).size.toNat hidMaxSize) = bytes.length := by
    simp only [HidReport.new, Nat.min_eq_left fits, UInt16.toNat_ofNat', Nat.mod_eq_of_lt small]
  refine ⟨_, by rw [toInputMessage, size]; exact if_pos rfl, rfl, ?_⟩
  have inner : (HidReport.new hidId bytes).data.toList.take bytes.length = bytes := by
    rw [HidReport.new, padReport_take fits (Nat.le_refl _), List.take_length]
  simp only [UInt16.toNat_ofNat', Nat.mod_eq_of_lt small]
  rw [inner, padReport_take fits (Nat.le_refl _), List.take_length]

/- The keyboard. -/

/-- The modifiers, each on or off, and the entries of the key array. -/
def keyboardControls (modifiers : Modifiers) (slots : List UInt8) : List Control :=
  (List.range 8).map (fun i => .switch pageKeyCodes (0xE0 + i) (modifiers.bits.toNat.testBit i)) ++
    slots.map fun scancode => .switch pageKeyCodes scancode.toNat true

theorem length_keySlots (held : Finset Nat) : (keySlots held).length = 6 := by
  unfold keySlots
  split
  · rename_i few
    simp only [List.length_append, List.length_map, Finset.length_sort, List.length_replicate]
    exact Nat.add_sub_cancel' few
  · rfl

theorem keySlots_le {held : Finset Nat} (keys : ∀ n ∈ held, n < 0x66) :
    ∀ scancode ∈ keySlots held, scancode.toNat ≤ 0x65 := by
  intro scancode slot
  unfold keySlots at slot
  split at slot
  · rcases List.mem_append.mp slot with key | free
    · obtain ⟨n, member, rfl⟩ := List.mem_map.mp key
      have := keys n ((Finset.mem_sort _).mp member)
      simp
      omega
    · rw [List.eq_of_mem_replicate free]
      decide
  · rw [List.eq_of_mem_replicate slot]
    decide

theorem read_keyboard {l : Layout} (inputs : l.inputs = keyboardInputs) (modifiers : Modifiers)
    {slots : List UInt8} (six : slots.length = 6) (known : ∀ sc ∈ slots, sc.toNat ≤ 0x65) :
    l.read ([modifiers.bits, 0] ++ slots) = some (keyboardControls modifiers slots) := by
  have length : ([modifiers.bits, 0] ++ slots).length = 8 := by simp [six]
  have size : l.reportSize = 8 := by
    rw [Layout.reportSize, inputs]
    rfl
  have mods (i : Nat) (inside : i < 8) :
      (Bytes.ofLe ([modifiers.bits, 0] ++ slots)).testBit i = modifiers.bits.toNat.testBit i :=
    (congrArg _ (Nat.zero_add i).symm).trans
      (testBit_byte ([modifiers.bits, 0] ++ slots) (i := 0) (by simp) inside)
  have slot (i : Nat) (inside : i < slots.length) :
      bits (16 + 8 * i) 8 (Bytes.ofLe ([modifiers.bits, 0] ++ slots)) = slots[i].toNat := by
    have place : 16 + 8 * i = 8 * (i + 2) := by omega
    rw [place, bits_byte _ (by simpa using inside)]
    rfl
  have held : modifierKeys.controls (Bytes.ofLe ([modifiers.bits, 0] ++ slots)) =
      (List.range 8).map fun i =>
        .switch pageKeyCodes (0xE0 + i) (modifiers.bits.toNat.testBit i) := by
    rw [Field.controls_switches ⟨rfl, rfl⟩ ⟨rfl, rfl⟩ rfl]
    apply List.map_congr_left
    intro i inside
    have inside : i < 8 := List.mem_range.mp inside
    have usage : modifierKeys.usageAt i = 0xE0 + i := by
      simp [Field.usageAt, modifierKeys, inside]
    rw [usage, modifierKeys, Nat.zero_add, mods i inside]
  have raw (i : Nat) (inside : i < slots.length) :
      keyArray.raw (Bytes.ofLe ([modifiers.bits, 0] ++ slots)) i = slots[i].toNat := slot i inside
  have keys : keyArray.controls (Bytes.ofLe ([modifiers.bits, 0] ++ slots)) =
      slots.map fun scancode => .switch pageKeyCodes scancode.toNat true := by
    rw [Field.controls_array 0x65 ⟨rfl, rfl⟩ ⟨rfl, rfl⟩ rfl]
    · apply List.ext_getElem
      · simp [keyArray, six]
      · intro i _ inside
        have inside : i < slots.length := by simpa using inside
        simp only [List.getElem_map, List.getElem_range, raw i inside]
        rfl
    · intro i inside
      have inside : i < slots.length := six ▸ inside
      rw [raw i inside]
      exact known _ (List.getElem_mem inside)
  rw [Layout.read, length, size, if_pos rfl, inputs]
  have padding := Field.controls_constant (f := reservedByte) rfl
  simp only [keyboardInputs, List.flatMap_cons, List.flatMap_nil, held, keys, padding,
    keyboardControls, List.nil_append, List.append_nil]

def keysOn (controls : List Control) : List Nat :=
  (controls.map Control.usage).filter fun usage => usage ≠ 0 ∧ usage < 0xE0

theorem sort_erase (held : Finset Nat) (n : Nat) :
    (held.erase n).sort = held.sort.filter (· ≠ n) := by
  have ascending : (held.sort.filter (· ≠ n)).Pairwise (· ≤ ·) :=
    (held.pairwise_sort (· ≤ ·)).filter _
  have apart : (held.sort.filter (· ≠ n)).Nodup := (held.sort_nodup (· ≤ ·)).filter _
  have members : (held.sort.filter (· ≠ n)).toFinset = held.erase n := by
    ext i
    simp [and_comm]
  rw [← members, (List.toFinset_sort (· ≤ ·) apart).mpr ascending]

theorem keysOn_keyboardControls (modifiers : Modifiers) {held : Finset Nat}
    (keys : ∀ n ∈ held, n < 0x66) :
    keysOn (keyboardControls modifiers (keySlots held)) =
      if held.card ≤ keyboardMaxKeys then (held.erase 0).sort
      else List.replicate keyboardMaxKeys scHidErrorRollOver.toNat := by
  have mods : keysOn ((List.range 8).map fun i =>
      .switch pageKeyCodes (0xE0 + i) (modifiers.bits.toNat.testBit i)) = [] := by
    simp [keysOn, Control.switch]
  have slots (bytes : List UInt8) :
      keysOn (bytes.map fun sc => .switch pageKeyCodes sc.toNat true) =
        (bytes.map UInt8.toNat).filter fun usage => usage ≠ 0 ∧ usage < 0xE0 := by
    simp [keysOn, Control.switch, Function.comp_def]
  rw [keyboardControls, keysOn, List.map_append, List.filter_append, ← keysOn, ← keysOn, mods,
    slots, List.nil_append]
  unfold keySlots
  split
  · have whole : (held.sort.map Nat.toUInt8).map UInt8.toNat = held.sort := by
      rw [List.map_map]
      have byte : ∀ n ∈ held.sort, (UInt8.toNat ∘ Nat.toUInt8) n = id n := by
        intro n member
        have := keys n ((Finset.mem_sort _).mp member)
        simp
        omega
      rw [List.map_congr_left byte, List.map_id]
    have low : ∀ n ∈ held.sort, (decide (n ≠ 0 ∧ n < 0xE0)) = decide (n ≠ 0) := by
      intro n member
      have := keys n ((Finset.mem_sort _).mp member)
      grind
    rw [List.map_append, List.filter_append, whole, List.filter_congr low, sort_erase]
    simp
  · rfl

namespace KeyboardHid

theorem heldAfter_lt (presses : List KeyPress) : ∀ n ∈ heldAfter presses, n < 0x66 := by
  intro n member
  rw [← held_run, mem_held] at member
  exact member.1

/-- A host that was sent the keyboard's create message reads of every key event the modifiers of
the event, and of the keys those that are held. -/
theorem host_reads_keys (name : Option String) (presses : List KeyPress) (p : KeyPress)
    (valid : accepts p.scancode = true) :
    let held := heldAfter (presses ++ [p])
    ∃ create input, openMessage name = .ok create ∧
      ((keyEvent p.scancode p.pressed p.modifiers).run (Run.after press new presses)).1 =
        .ok (.uhidInput input) ∧
      (HidHost.receive (fun _ => none) create).reads input =
        some (keyboardControls p.modifiers (keySlots held)) ∧
      keysOn (keyboardControls p.modifiers (keySlots held)) =
        if held.card ≤ keyboardMaxKeys then (held.erase 0).sort
        else List.replicate keyboardMaxKeys scHidErrorRollOver.toNat := by
  intro held
  obtain ⟨l, parsed, inputs⟩ := Option.map_eq_some_iff.mp layout_keyboard
  have report := (report_of_held presses p).1 valid
  rcases run : (injectKey p.scancode p.pressed p.modifiers).run (Run.after press new presses) with
    ⟨outcome, k⟩
  rw [run] at report
  obtain rfl : outcome = _ := report
  have fits : ([p.modifiers.bits, 0] ++ keySlots held).length ≤ hidMaxSize := by
    rw [List.length_append, length_keySlots]
    exact (by decide : 8 ≤ hidMaxSize)
  obtain ⟨input, sent, id, bytes⟩ := toInputMessage_new hidIdKeyboard fits
  refine ⟨_, input, rfl, ?_, ?_, keysOn_keyboardControls p.modifiers (heldAfter_lt _)⟩
  · rw [keyEvent, Method.run_bind_ok run, heldReport, Method.run_lift]
    exact sent
  · rw [HidHost.reads, id, HidHost.receive, Function.update_self, parsed, bytes]
    exact read_keyboard inputs p.modifiers (length_keySlots _) (keySlots_le (heldAfter_lt _))

/-- Two keys that are held together with a modifier. -/
theorem host_reads_two_keys :
    let held := heldAfter ([⟨4, true, .empty⟩] ++ [⟨5, true, .lshift⟩])
    ∃ create input, openMessage none = .ok create ∧
      ((keyEvent 5 true .lshift).run (Run.after press new [⟨4, true, .empty⟩])).1 =
        .ok (.uhidInput input) ∧
      (HidHost.receive (fun _ => none) create).reads input =
        some (keyboardControls .lshift (keySlots held)) ∧
      keysOn (keyboardControls .lshift (keySlots held)) =
        if held.card ≤ keyboardMaxKeys then (held.erase 0).sort
        else List.replicate keyboardMaxKeys scHidErrorRollOver.toNat :=
  host_reads_keys none [⟨4, true, .empty⟩] ⟨5, true, .lshift⟩ rfl

end KeyboardHid

/- The gamepad. -/

/-- The position of the hat, clockwise from north; none for opposite or no directions. -/
def hatPosition : (up down left right : Bool) → Option Int
  | true, false, false, false => some 1
  | true, false, false, true => some 2
  | false, false, false, true => some 3
  | false, true, false, true => some 4
  | false, true, false, false => some 5
  | false, true, true, false => some 6
  | false, false, true, false => some 7
  | true, false, true, false => some 8
  | _, _, _, _ => none

namespace GamepadSlot

def axis (usage : Nat) (v : UInt16) : Control :=
  { page := pageGenericDesktop, usage, value := some v.toNat }

def controls (slot : GamepadSlot) : List Control :=
  [axis usageX slot.axisLeftX, axis usageY slot.axisLeftY, axis usageRx slot.axisRightX,
    axis usageRy slot.axisRightY, axis usageZ slot.axisLeftTrigger,
    axis usageRz slot.axisRightTrigger] ++
  (List.range 16).map (fun i => .switch pageButtons (i + 1) (slot.buttons.toNat.testBit i)) ++
  [{ page := pageGenericDesktop, usage := usageHatSwitch,
     value := hatPosition (slot.buttons.toNat.testBit 16) (slot.buttons.toNat.testBit 17)
       (slot.buttons.toNat.testBit 18) (slot.buttons.toNat.testBit 19) }]

def InRange (slot : GamepadSlot) : Prop :=
  slot.axisLeftTrigger.toNat ≤ 32767 ∧ slot.axisRightTrigger.toNat ≤ 32767

theorem ofLe_leBytes (v : UInt16) : Bytes.ofLe (leBytes v) = v.toNat := by
  have small := v.toNat_lt
  rw [leBytes, Bytes.ofLe_toLe, Nat.mod_eq_of_lt (by omega)]

/-- The hat of a button bitmap is in the range of its field, or says that no direction is held. -/
theorem hatPosition_eq (buttons : UInt32) :
    (dpadHatValue buttons).toNat ≤ 8 ∧
      hatPosition (buttons.toNat.testBit 16) (buttons.toNat.testBit 17)
        (buttons.toNat.testBit 18) (buttons.toNat.testBit 19) =
      if (dpadHatValue buttons).toNat = 0 then none else some ((dpadHatValue buttons).toNat : Int) := by
  have nibble : ((buttons &&& dpadMask) >>> 16).toNat = bits 16 4 buttons.toNat := by
    have mask : 0xF0000 >>> 16 = 2 ^ 4 - 1 := by decide
    simp only [dpadMask, UInt32.toNat_shiftRight, UInt32.toNat_and, UInt32.toNat_ofNat]
    rw [Nat.shiftRight_and_distrib, show 983040 >>> 16 = 2 ^ 4 - 1 from mask, Nat.and_two_pow_sub_one_eq_mod, bits,
      Nat.shiftRight_eq_div_pow]
  have bit (i : Nat) (inside : i < 4) :
      buttons.toNat.testBit (16 + i) = (bits 16 4 buttons.toNat).testBit i := by
    simp [inside]
  have table (k : Fin 16) : (dpadHatLookup.getD k.val 0).toNat ≤ 8 ∧
      hatPosition (k.val.testBit 0) (k.val.testBit 1) (k.val.testBit 2) (k.val.testBit 3) =
        if (dpadHatLookup.getD k.val 0).toNat = 0 then none
        else some ((dpadHatLookup.getD k.val 0).toNat : Int) := by
    revert k
    decide
  rw [dpadHatValue, nibble, bit 0 (by decide), bit 1 (by decide), bit 2 (by decide),
    bit 3 (by decide)]
  exact table ⟨bits 16 4 buttons.toNat, bits_lt 16 4 _⟩

def bytes (slot : GamepadSlot) : List UInt8 :=
  leBytes slot.axisLeftX ++ leBytes slot.axisLeftY ++ leBytes slot.axisRightX ++
    leBytes slot.axisRightY ++ leBytes slot.axisLeftTrigger ++ leBytes slot.axisRightTrigger ++
    leBytes (slot.buttons &&& buttonsMask).toUInt16 ++ [dpadHatValue slot.buttons]

theorem toList_toPayload (slot : GamepadSlot) : slot.toPayload.toList = slot.bytes :=
  toList_padReport rfl

theorem bits_word (slot : GamepadSlot) (i : Nat) {v : UInt16}
    (word : (slot.bytes.drop (2 * i)).take 2 = leBytes v) :
    bits (16 * i) 16 (Bytes.ofLe slot.bytes) = v.toNat := by
  rw [← ofLe_leBytes, ← word, ← bits_bytes, ← Nat.mul_assoc]

theorem length_bytes (slot : GamepadSlot) : slot.bytes.length = 15 := by
  simp [bytes, leBytes]

theorem controls_sticks (slot : GamepadSlot) : gamepadSticks.controls (Bytes.ofLe slot.bytes) =
    [axis usageX slot.axisLeftX, axis usageY slot.axisLeftY, axis usageRx slot.axisRightX,
      axis usageRy slot.axisRightY] := by
  have value := Field.value_whole (f := gamepadSticks) rfl (by decide) (Bytes.ofLe slot.bytes)
  have x : gamepadSticks.raw (Bytes.ofLe slot.bytes) 0 = slot.axisLeftX.toNat :=
    bits_word slot 0 rfl
  have y : gamepadSticks.raw (Bytes.ofLe slot.bytes) 1 = slot.axisLeftY.toNat :=
    bits_word slot 1 rfl
  have rx : gamepadSticks.raw (Bytes.ofLe slot.bytes) 2 = slot.axisRightX.toNat :=
    bits_word slot 2 rfl
  have ry : gamepadSticks.raw (Bytes.ofLe slot.bytes) 3 = slot.axisRightY.toNat :=
    bits_word slot 3 rfl
  have four : List.range gamepadSticks.count = [0, 1, 2, 3] := rfl
  rw [Field.controls_variable ⟨rfl, rfl⟩, four]
  simp only [List.map_cons, List.map_nil, value, x, y, rx, ry]
  rfl

theorem controls_triggers {slot : GamepadSlot} (inRange : slot.InRange) :
    gamepadTriggers.controls (Bytes.ofLe slot.bytes) =
      [axis usageZ slot.axisLeftTrigger, axis usageRz slot.axisRightTrigger] := by
  have z : gamepadTriggers.raw (Bytes.ofLe slot.bytes) 0 = slot.axisLeftTrigger.toNat :=
    bits_word slot 4 rfl
  have rz : gamepadTriggers.raw (Bytes.ofLe slot.bytes) 1 = slot.axisRightTrigger.toNat :=
    bits_word slot 5 rfl
  have left := Field.value_within (f := gamepadTriggers) rfl
    (z ▸ Int.ofNat_le.mpr inRange.1 : ((gamepadTriggers.raw _ 0 : Nat) : Int) ≤ 32767)
  have right := Field.value_within (f := gamepadTriggers) rfl
    (rz ▸ Int.ofNat_le.mpr inRange.2 : ((gamepadTriggers.raw _ 1 : Nat) : Int) ≤ 32767)
  have two : List.range gamepadTriggers.count = [0, 1] := rfl
  rw [Field.controls_variable ⟨rfl, rfl⟩, two]
  simp only [List.map_cons, List.map_nil, left, right, z, rz]
  rfl

theorem controls_buttons (slot : GamepadSlot) :
    gamepadButtons.controls (Bytes.ofLe slot.bytes) =
      (List.range 16).map fun i =>
        .switch pageButtons (i + 1) (slot.buttons.toNat.testBit i) := by
  have word : bits 96 16 (Bytes.ofLe slot.bytes) =
      (slot.buttons &&& buttonsMask).toUInt16.toNat := bits_word slot 6 rfl
  rw [Field.controls_switches ⟨rfl, rfl⟩ ⟨rfl, rfl⟩ rfl]
  apply List.map_congr_left
  intro i inside
  have inside : i < 16 := List.mem_range.mp inside
  have usage : gamepadButtons.usageAt i = i + 1 := by
    simp [Field.usageAt, gamepadButtons, inside, Nat.add_comm]
  have mask : buttonsMask.toNat = 2 ^ 16 - 1 := rfl
  have bit : (Bytes.ofLe slot.bytes).testBit (96 + i) = slot.buttons.toNat.testBit i := by
    have same := congrArg (Nat.testBit · i) word
    simp only [testBit_bits, UInt32.toNat_toUInt16, UInt32.toNat_and, mask,
      Nat.testBit_mod_two_pow, Nat.testBit_and, Nat.testBit_two_pow_sub_one] at same
    simpa [inside] using same
  rw [usage]
  exact congrArg _ bit

theorem controls_hat (slot : GamepadSlot) : gamepadHat.controls (Bytes.ofLe slot.bytes) =
    [{ page := pageGenericDesktop, usage := usageHatSwitch,
       value := hatPosition (slot.buttons.toNat.testBit 16) (slot.buttons.toNat.testBit 17)
         (slot.buttons.toNat.testBit 18) (slot.buttons.toNat.testBit 19) }] := by
  obtain ⟨small, position⟩ := hatPosition_eq slot.buttons
  have last : bits 112 8 (Bytes.ofLe slot.bytes) = (dpadHatValue slot.buttons).toNat :=
    bits_byte slot.bytes (i := 14) (by rw [length_bytes]; decide)
  have raw : gamepadHat.raw (Bytes.ofLe slot.bytes) 0 = (dpadHatValue slot.buttons).toNat := by
    have nibble : bits 112 4 (Bytes.ofLe slot.bytes) = (dpadHatValue slot.buttons).toNat := by
      rw [← bits_bits (i := 0) 112 _ (by decide : 0 + 4 ≤ 8), last, bits, Nat.pow_zero, Nat.div_one]
      exact Nat.mod_eq_of_lt (by omega)
    exact nibble
  have value : gamepadHat.value (Bytes.ofLe slot.bytes) 0 =
      hatPosition (slot.buttons.toNat.testBit 16) (slot.buttons.toNat.testBit 17)
        (slot.buttons.toNat.testBit 18) (slot.buttons.toNat.testBit 19) := by
    rw [position, Field.value, raw]
    by_cases released : (dpadHatValue slot.buttons).toNat = 0
    · rw [if_pos released, released]
      rfl
    · have inRange : (1 : Int) ≤ (dpadHatValue slot.buttons).toNat ∧
          ((dpadHatValue slot.buttons).toNat : Int) ≤ 8 := by omega
      rw [if_neg released]
      exact if_pos inRange
  have one : List.range gamepadHat.count = [0] := rfl
  rw [Field.controls_variable ⟨rfl, rfl⟩, one]
  simp only [List.map_cons, List.map_nil, value]
  rfl

theorem read_gamepad {slot : GamepadSlot} (inRange : slot.InRange) :
    gamepadLayout.read slot.bytes = some slot.controls := by
  have size : slot.bytes.length = gamepadLayout.reportSize := slot.length_bytes
  rw [Layout.read, if_pos size]
  simp [gamepadLayout, gamepadInputs, controls_sticks, controls_triggers inRange, controls_buttons, controls_hat,
    controls]

theorem triggerRescale_le (v : Int16) : (triggerRescale v).toNat ≤ 32767 := by
  unfold triggerRescale
  dsimp only
  generalize (if v < 0 then 0 else v).toUInt16 = raised
  split
  · exact UInt16.le_iff_toNat_le.mp ‹_›
  · decide

theorem buttonEvent_buttons {btn : GamepadButton} {pressed : Bool} {slot next : GamepadSlot}
    (changed : buttonEvent btn pressed slot = some next) :
    ∃ buttons, next = { slot with buttons } := by
  unfold buttonEvent at changed
  split at changed
  · contradiction
  · split at changed
    · exact ⟨_, (Option.some.inj changed).symm⟩
    · exact ⟨_, (Option.some.inj changed).symm⟩

theorem inRange_apply (ev : GamepadEvent) {slot next : GamepadSlot} (inRange : slot.InRange)
    (changed : ev.apply slot = some next) : next.InRange := by
  obtain ⟨left, right⟩ := inRange
  have rescaled := triggerRescale_le
  cases ev with
  | button btn pressed =>
    obtain ⟨buttons, rfl⟩ := buttonEvent_buttons changed
    exact ⟨left, right⟩
  | axis a value =>
    cases a
    all_goals
      obtain rfl := changed_eq_some changed
      simp [InRange, left, right, rescaled]
  | _ =>
    obtain rfl := changed_eq_some changed
    simp [InRange, holdFrame, left, right, rescaled]

end GamepadSlot

namespace GamepadHid

def settled (ev : GamepadEvent) (slot : GamepadSlot) : GamepadSlot := (ev.apply slot).getD slot

theorem inRange_settled (ev : GamepadEvent) {slot : GamepadSlot} (inRange : slot.InRange) :
    (settled ev slot).InRange := by
  unfold settled
  cases changed : ev.apply slot with
  | none => exact inRange
  | some next => exact GamepadSlot.inRange_apply ev inRange changed

theorem slotEvent_state (g : GamepadHid) (i : SlotIdx) (ev : GamepadEvent) :
    (g.slotEvent i ev.apply).2 = g.setSlot i (settled ev (g.slot i)) := by
  cases changed : ev.apply (g.slot i) with
  | none =>
    rw [slotEvent_none changed, settled, changed]
    simp [setSlot]
  | some next => rw [slotEvent_some changed, settled, changed, Option.getD_some]

theorem event_found {g : GamepadHid} {gamepadId : UInt32} {i : SlotIdx} (ev : GamepadEvent)
    (found : g.findSlot gamepadId = some i) : (event gamepadId ev).run g =
      (.ok (slotToInputMessage (slotHidId i) (settled ev (g.slot i))),
        g.setSlot i (settled ev (g.slot i))) := by
  rw [event_eq, ← slotEvent_state]
  cases changed : ev.apply (g.slot i) with
  | none =>
    have same : settled ev (g.slot i) = g.slot i := by rw [settled, changed, Option.getD_none]
    rw [same]
    simp [eventById, Method.run_bind, found, slotEvent_none changed]
  | some next =>
    have new : settled ev (g.slot i) = next := by rw [settled, changed, Option.getD_some]
    rw [new]
    simp [eventById, Method.run_bind, found, slotEvent_some changed, slotToInputMessage]

end GamepadHid

/- A host that is sent every message of a run. -/

def GamepadAnswer.message : GamepadAnswer → ControlMessage
  | .opened _ create => create
  | .sent msg => msg

namespace GamepadCall
open GamepadHid

/-- The driver answers a call, and the host is sent the message of the answer. -/
def sendStep (s : GamepadHid × HidHost) (call : GamepadCall) : GamepadHid × HidHost :=
  (call.step s.1,
    match (call.answer.run s.1).1 with
    | .ok answer => s.2.receive answer.message
    | _ => s.2)

def layoutOf (gamepadId : UInt32) : Option Layout :=
  if gamepadId = gamepadIdInvalid then none else some gamepadLayout

/-- The host knows the bound slots and no others, and no trigger is out of range. -/
structure Known (g : GamepadHid) (host : HidHost) : Prop where
  devices : ∀ i, host (slotHidId i) = layoutOf (g.ids i)
  others : ∀ hidId, (∀ i, hidId ≠ slotHidId i) → host hidId = none
  inRange : ∀ i, (g.slot i).InRange

theorem known_new : Known .new fun _ => none := by
  have free (i : SlotIdx) : GamepadHid.new.slot i = .default := by
    simp [GamepadHid.new, slot]
  constructor
  · intro i
    rw [ids, free]
    rfl
  · exact fun hidId _ => rfl
  · intro i
    rw [free]
    exact ⟨by decide, by decide⟩

variable {g : GamepadHid} {host : HidHost}

theorem Known.setSlot (known : Known g host) (i : SlotIdx) (next : GamepadSlot)
    (inRange : next.InRange) : Known (g.setSlot i next)
      (Function.update host (slotHidId i) (layoutOf next.gamepadId)) := by
  constructor
  · intro j
    rw [ids_setSlot]
    by_cases same : j = i
    · simp [same]
    · have apart : slotHidId j ≠ slotHidId i := fun eq => same (slotHidId_injective eq)
      simp [same, apart, known.devices]
  · intro hidId foreign
    rw [Function.update_of_ne (foreign i), known.others hidId foreign]
  · intro j
    rw [slot_setSlot]
    split
    · exact inRange
    · exact known.inRange j

theorem Known.setSlot_same (known : Known g host) {i : SlotIdx} {next : GamepadSlot}
    (bound : next.gamepadId = g.ids i) (inRange : next.InRange) : Known (g.setSlot i next) host := by
  have next := known.setSlot i next inRange
  rwa [bound, ← known.devices, Function.update_eq_self] at next

theorem receive_create (host : HidHost) (hidId : UInt16) (name : Option String) :
    host.receive (buildCreate hidId name) = Function.update host hidId (some gamepadLayout) := by
  rw [buildCreate, HidHost.receive, layout_gamepad]

theorem known_step (known : Known g host) (call : GamepadCall) :
    Known (sendStep (g, host) call).1 (sendStep (g, host) call).2 := by
  cases call with
  | «open» gamepadId name =>
    rcases answer_open g gamepadId name with
      ⟨_, run⟩ | ⟨taken, i, bound, run⟩ | ⟨_, _, _, run⟩ | ⟨taken, _, i, _, run⟩
    · simpa [sendStep, step, run] using known
    · have same : Function.update host (slotHidId i) (some gamepadLayout) = host := by
        have device := known.devices i
        rw [layoutOf, bound, if_neg taken] at device
        rw [← device, Function.update_eq_self]
      simpa [sendStep, step, run, GamepadAnswer.message, receive_create, same] using known
    · simpa [sendStep, step, run] using known
    · have device : layoutOf (GamepadSlot.neutral gamepadId).gamepadId = some gamepadLayout :=
        if_neg taken
      have next := known.setSlot i (.neutral gamepadId)
        ⟨Nat.zero_le 32767, Nat.zero_le 32767⟩
      rw [device] at next
      simpa [sendStep, step, run, GamepadAnswer.message, receive_create] using next
  | close gamepadId =>
    rcases answer_close g gamepadId with ⟨_, run⟩ | ⟨i, _, _, run⟩
    · simpa [sendStep, step, run] using known
    · have next := known.setSlot i { g.slot i with gamepadId := gamepadIdInvalid }
        (known.inRange i)
      simpa [sendStep, step, run, GamepadAnswer.message, HidHost.receive, layoutOf] using next
  | event gamepadId ev =>
    cases found : g.findSlot gamepadId with
    | none =>
      rcases answer_event g gamepadId ev with ⟨_, run⟩ | ⟨i, _, other, _⟩
      · simpa [sendStep, step, run] using known
      · cases found.symm.trans other
    | some i =>
      have run := Method.run_bind_ok (f := fun msg => pure (GamepadAnswer.sent msg))
        (event_found ev found)
      have bound : (settled ev (g.slot i)).gamepadId = g.ids i := by
        have same := congrFun (ids_slotEvent g i ev) i
        rw [slotEvent_state, ids_setSlot, Function.update_self] at same
        exact same
      have next := known.setSlot_same bound (inRange_settled ev (known.inRange i))
      have state : step g (.event gamepadId ev) = g.setSlot i (settled ev (g.slot i)) :=
        congrArg Prod.snd run
      have sent : ((GamepadCall.event gamepadId ev).answer.run g).1 =
          .ok (.sent (slotToInputMessage (slotHidId i) (settled ev (g.slot i)))) :=
        congrArg Prod.fst run
      rw [sendStep, state, sent]
      exact next

/-- After any calls the host knows the devices of the bound slots and no others, and reads an event for an
open gamepad as the state that the event leaves in its slot. -/
theorem host_reads_gamepads (calls : List GamepadCall) (gamepadId : UInt32) (ev : GamepadEvent)
    (opened : IsOpen (Run.after sendStep (.new, fun _ => none) calls).1 gamepadId) :
    let s := Run.after sendStep (.new, fun _ => none) calls
    (∀ i, s.2 (slotHidId i) = none ↔ s.1.ids i = gamepadIdInvalid) ∧
      (∀ hidId, (∀ i, hidId ≠ slotHidId i) → s.2 hidId = none) ∧
      ∃ i input, s.1.ids i = gamepadId ∧ input.id = slotHidId i ∧
        ((GamepadCall.event gamepadId ev).answer.run s.1).1 = .ok (.sent (.uhidInput input)) ∧
        s.2.reads input = some (settled ev (s.1.slot i)).controls := by
  intro s
  have known : Known s.1 s.2 :=
    Run.preserved (fun s : GamepadHid × HidHost => Known s.1 s.2)
      (fun _ call known => known_step known call) known_new calls
  obtain ⟨taken, j, bound⟩ := opened
  refine ⟨fun i => ?_, known.others, ?_⟩
  · rw [known.devices, layoutOf]
    simp
  · cases found : s.1.findSlot gamepadId with
    | none => exact absurd bound (Slots.find_eq_none.mp found j)
    | some i =>
      have bound : s.1.ids i = gamepadId := Slots.key_of_find found
      have device : s.2 (slotHidId i) = some gamepadLayout := by
        rw [known.devices, bound, layoutOf, if_neg taken]
      refine ⟨i, _, bound, rfl, congrArg Prod.fst (Method.run_bind_ok (event_found ev found)), ?_⟩
      have bytes : (settled ev (s.1.slot i)).toPayload.toList.take (15 : UInt16).toNat =
          (settled ev (s.1.slot i)).bytes := by
        rw [GamepadSlot.toList_toPayload]
        exact List.take_of_length_le (Nat.le_of_eq (GamepadSlot.length_bytes _))
      rw [HidHost.reads, device, bytes]
      exact GamepadSlot.read_gamepad (inRange_settled ev (known.inRange i))

/-- A second gamepad, with the right trigger pulled. -/
theorem host_reads_trigger :
    let s := Run.after sendStep (.new, fun _ => none) [.open 7 none, .open 9 none]
    (∀ i, s.2 (slotHidId i) = none ↔ s.1.ids i = gamepadIdInvalid) ∧
      (∀ hidId, (∀ i, hidId ≠ slotHidId i) → s.2 hidId = none) ∧
      ∃ i input, s.1.ids i = 9 ∧ input.id = slotHidId i ∧
        ((GamepadCall.event 9 (.axis .rightTrigger 300)).answer.run s.1).1 =
          .ok (.sent (.uhidInput input)) ∧
        s.2.reads input = some (settled (.axis .rightTrigger 300) (s.1.slot i)).controls :=
  host_reads_gamepads [.open 7 none, .open 9 none] 9 (.axis .rightTrigger 300)
    ⟨by decide, 1, by decide +kernel⟩

end GamepadCall

end HidConnect
