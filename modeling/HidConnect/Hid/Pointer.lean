import HidConnect.Hid.Descriptor
import HidConnect.Hid.Scroll

/-! The pointer that a host moves by the mouse reports, read with the mouse's descriptor. -/
namespace HidConnect
open Fallible ReportDescriptor

def Control.axis (page usage : Nat) (v : Int8) : Control := { page, usage, value := some v.toInt }

def mouseControls (buttonsState : UInt8) (x y wheel pan : Int8) : List Control :=
  (List.range 5).map (fun i => .switch pageButtons (i + 1) (buttonsState.toNat.testBit i)) ++
  [Control.axis pageGenericDesktop usageX x, Control.axis pageGenericDesktop usageY y,
    Control.axis pageGenericDesktop usageWheel wheel, Control.axis pageConsumer usageAcPan pan]

def mouseBytes (buttonsState : UInt8) (x y wheel pan : Int8) : List UInt8 :=
  [buttonsByte buttonsState, x.toUInt8, y.toUInt8, wheel.toUInt8, pan.toUInt8]

theorem testBit_buttonsByte (buttonsState : UInt8) {i : Nat} (inside : i < 5) :
    (buttonsByte buttonsState).toNat.testBit i = buttonsState.toNat.testBit i := by
  have all : ∀ n : Fin 256, ∀ i : Fin 5,
      (buttonsByte (UInt8.ofNat n)).toNat.testBit i = n.val.testBit i := by decide +kernel
  have own := all ⟨buttonsState.toNat, buttonsState.toNat_lt⟩ ⟨i, inside⟩
  rwa [UInt8.ofNat_toNat] at own

theorem signed_toUInt8 (v : Int8) : signed 8 v.toUInt8.toNat = v.toInt := by
  have small := v.toUInt8.toNat_lt
  have value : v.toInt = if 2 * v.toUInt8.toNat < 2 ^ 8 then (v.toUInt8.toNat : Int)
      else v.toUInt8.toNat - (2 ^ 8 : Nat) := BitVec.toInt_eq_toNat_cond v.toBitVec
  rw [value, signed]
  split <;> split <;> omega

theorem value_signed {f : Field} (range : f.logicalMin = -127 ∧ f.logicalMax = 127)
    (byte : f.size = 8) {report i : Nat} {v : Int8} (raw : f.raw report i = v.toUInt8.toNat)
    (inRange : -127 ≤ v.toInt) : f.value report i = some v.toInt := by
  have highest : v.toInt ≤ 127 := by have := v.toInt_lt; omega
  simp [Field.value, range, byte, raw, signed_toUInt8, inRange, highest]

theorem read_mouse (buttonsState : UInt8) {x y wheel pan : Int8} (hx : -127 ≤ x.toInt)
    (hy : -127 ≤ y.toInt) (hwheel : -127 ≤ wheel.toInt) (hpan : -127 ≤ pan.toInt) :
    Layout.read { inputs := mouseInputs, outputs := [] } (mouseBytes buttonsState x y wheel pan) =
      some (mouseControls buttonsState x y wheel pan) := by
  have five : (mouseBytes buttonsState x y wheel pan).length = 5 := rfl
  have byte {i : Nat} (inside : i < 5) := bits_byte _ (Nat.lt_of_lt_of_eq inside five.symm)
  have buttons : mouseButtons.controls (Bytes.ofLe (mouseBytes buttonsState x y wheel pan)) =
      (List.range 5).map fun i => .switch pageButtons (i + 1) (buttonsState.toNat.testBit i) := by
    rw [Field.controls_switches ⟨rfl, rfl⟩ ⟨rfl, rfl⟩ rfl]
    apply List.map_congr_left
    intro i inside
    have inside : i < 5 := List.mem_range.mp inside
    have usage : mouseButtons.usageAt i = i + 1 := by
      simp [Field.usageAt, mouseButtons, inside, Nat.add_comm]
    have bit := testBit_byte (mouseBytes buttonsState x y wheel pan) (i := 0) (j := i)
      (Nat.lt_of_lt_of_eq (by decide) five.symm) (by omega)
    rw [usage]
    exact congrArg _ (bit.trans (testBit_buttonsByte buttonsState inside))
  have axes : mouseAxes.controls (Bytes.ofLe (mouseBytes buttonsState x y wheel pan)) =
      [Control.axis pageGenericDesktop usageX x, Control.axis pageGenericDesktop usageY y,
        Control.axis pageGenericDesktop usageWheel wheel] := by
    have three : List.range mouseAxes.count = [0, 1, 2] := rfl
    have first := value_signed (f := mouseAxes) (i := 0) ⟨rfl, rfl⟩ rfl (byte (i := 1) (by decide)) hx
    have second := value_signed (f := mouseAxes) (i := 1) ⟨rfl, rfl⟩ rfl (byte (i := 2) (by decide)) hy
    have third :=
      value_signed (f := mouseAxes) (i := 2) ⟨rfl, rfl⟩ rfl (byte (i := 3) (by decide)) hwheel
    rw [Field.controls_variable ⟨rfl, rfl⟩, three]
    simp only [List.map_cons, List.map_nil, first, second, third]
    rfl
  have scroll : mousePan.controls (Bytes.ofLe (mouseBytes buttonsState x y wheel pan)) =
      [Control.axis pageConsumer usageAcPan pan] := by
    have one : List.range mousePan.count = [0] := rfl
    have first := value_signed (f := mousePan) (i := 0) ⟨rfl, rfl⟩ rfl (byte (i := 4) (by decide)) hpan
    rw [Field.controls_variable ⟨rfl, rfl⟩, one]
    simp only [List.map_cons, List.map_nil, first]
    rfl
  have padding := Field.controls_constant (f := mousePadding) rfl
  have size : (mouseBytes buttonsState x y wheel pan).length =
      Layout.reportSize { inputs := mouseInputs, outputs := [] } := five
  rw [Layout.read, if_pos size]
  simp [mouseInputs, buttons, axes, scroll, padding, mouseControls]

theorem toInt_clampI8 (v : Int32) : (clampI8 v).toInt = max (-127) (min v.toInt 127) := by
  have lowest : (-127 : Int32).toInt = -127 := by decide
  have highest : (127 : Int32).toInt = 127 := by decide
  unfold clampI8
  simp only [Int32.lt_iff_toInt_lt, lowest, highest]
  split
  · have : (-127 : Int8).toInt = -127 := by decide
    omega
  · split
    · have : (127 : Int8).toInt = 127 := by decide
      omega
    · have same : v.toInt8.toInt = v.toInt := by
        rw [Int32.toInt_toInt8]
        exact Int.bmod_eq_of_le (by omega) (by omega)
      omega

/- Calls to the driver over exact numbers, and what the host reads of their reports. -/

inductive MouseCall where
  | motion (xrel yrel : Int32) (buttonsState : UInt8)
  | click (buttonsState : UInt8)
  | scroll (delta : ℚ × ℚ)

def amount (page usage : Nat) (controls : List Control) : Int :=
  ((controls.find? fun c => c.page = page ∧ c.usage = usage).bind Control.value).getD 0

def buttonsOn (controls : List Control) : List Nat :=
  (controls.filter fun c => c.page = pageButtons ∧ c.value = some 1).map Control.usage

def pressedButtons (buttonsState : UInt8) : List Nat :=
  ((List.range 5).filter fun i => buttonsState.toNat.testBit i).map (· + 1)

/-- A report in its message, as a host reads it that was sent the create message. -/
def hostReadsMouse (report : HidReport) : Option (List Control) :=
  match MouseHid.openMessage none, toInputMessage hidIdMouse report with
  | .ok create, .ok (.uhidInput input) => (HidHost.receive (fun _ => none) create).reads input
  | _, _ => none

namespace MouseCall

def report (m : Residuals ℚ) : MouseCall → Option HidReport
  | motion xrel yrel buttonsState => some (MouseHid.generateInputFromMotion xrel yrel buttonsState)
  | click buttonsState => some (MouseHid.generateInputFromClick buttonsState)
  | scroll delta => m.report delta

def next (m : Residuals ℚ) : MouseCall → Residuals ℚ
  | scroll delta => m.next delta
  | _ => m

def seen (m : Residuals ℚ) (call : MouseCall) : Option (List Control) :=
  (call.report m).bind hostReadsMouse

def Within (m : Residuals ℚ) : MouseCall → Prop
  | scroll delta => m.Within delta
  | _ => True

instance (m : Residuals ℚ) (call : MouseCall) : Decidable (call.Within m) := by
  cases call <;> unfold Within <;> infer_instance

def moved : MouseCall → Int × Int
  | motion xrel yrel _ => (max (-127) (min xrel.toInt 127), max (-127) (min yrel.toInt 127))
  | _ => (0, 0)

def scrolled : MouseCall → ℚ × ℚ
  | scroll delta => delta
  | _ => (0, 0)

def buttons : MouseCall → Option UInt8
  | motion _ _ buttonsState | click buttonsState => some buttonsState
  | scroll _ => none

end MouseCall

theorem hostReadsMouse_new (buttonsState : UInt8) {x y wheel pan : Int8} (hx : -127 ≤ x.toInt)
    (hy : -127 ≤ y.toInt) (hwheel : -127 ≤ wheel.toInt) (hpan : -127 ≤ pan.toInt) :
    hostReadsMouse (.new hidIdMouse (mouseBytes buttonsState x y wheel pan)) =
      some (mouseControls buttonsState x y wheel pan) := by
  have fits : (mouseBytes buttonsState x y wheel pan).length ≤ hidMaxSize := by
    change 5 ≤ 15
    decide
  obtain ⟨input, sent, id, bytes⟩ := toInputMessage_new hidIdMouse fits
  simp only [hostReadsMouse, sent, MouseHid.openMessage]
  rw [HidHost.reads, id, HidHost.receive, Function.update_self, layout_mouse, bytes]
  exact read_mouse buttonsState hx hy hwheel hpan

theorem amount_mouse (page usage : Nat) (axis : page ≠ pageButtons) (buttonsState : UInt8)
    (x y wheel pan : Int8) : amount page usage (mouseControls buttonsState x y wheel pan) =
      amount page usage [Control.axis pageGenericDesktop usageX x,
        Control.axis pageGenericDesktop usageY y, Control.axis pageGenericDesktop usageWheel wheel,
        Control.axis pageConsumer usageAcPan pan] := by
  have other : ((List.range 5).map fun i =>
      Control.switch pageButtons (i + 1) (buttonsState.toNat.testBit i)).find?
        (fun c => c.page = page ∧ c.usage = usage) = none := by
    rw [List.find?_eq_none]
    intro c member
    obtain ⟨i, _, rfl⟩ := List.mem_map.mp member
    simp [Control.switch, axis.symm]
  rw [amount, amount, mouseControls, List.find?_append, other, Option.none_or]

section Amounts
variable (buttonsState : UInt8) (x y wheel pan : Int8)

@[simp] theorem amount_x : amount pageGenericDesktop usageX
    (mouseControls buttonsState x y wheel pan) = x.toInt := by
  rw [amount_mouse _ _ (by decide)]
  rfl

@[simp] theorem amount_y : amount pageGenericDesktop usageY
    (mouseControls buttonsState x y wheel pan) = y.toInt := by
  rw [amount_mouse _ _ (by decide)]
  rfl

@[simp] theorem amount_wheel : amount pageGenericDesktop usageWheel
    (mouseControls buttonsState x y wheel pan) = wheel.toInt := by
  rw [amount_mouse _ _ (by decide)]
  rfl

@[simp] theorem amount_pan : amount pageConsumer usageAcPan
    (mouseControls buttonsState x y wheel pan) = pan.toInt := by
  rw [amount_mouse _ _ (by decide)]
  rfl

end Amounts

theorem buttonsOn_mouse (buttonsState : UInt8) (x y wheel pan : Int8) :
    buttonsOn (mouseControls buttonsState x y wheel pan) = pressedButtons buttonsState := by
  have axes : ([Control.axis pageGenericDesktop usageX x, Control.axis pageGenericDesktop usageY y,
      Control.axis pageGenericDesktop usageWheel wheel, Control.axis pageConsumer usageAcPan pan].filter
        fun c => c.page = pageButtons ∧ c.value = some 1) = [] := by
    simp [Control.axis, pageGenericDesktop, pageConsumer, pageButtons]
  have one (on : Bool) : (some (on.toNat : Int) = some 1) ↔ on = true := by cases on <;> simp
  rw [buttonsOn, mouseControls, List.filter_append, axes, List.append_nil, List.filter_map,
    List.map_map, pressedButtons]
  simp [Function.comp_def, Control.switch, one]

namespace MouseCall
variable {m : Residuals ℚ}

theorem seen_motion (xrel yrel : Int32) (buttonsState : UInt8) :
    (motion xrel yrel buttonsState).seen m =
      some (mouseControls buttonsState (clampI8 xrel) (clampI8 yrel) 0 0) := by
  have low (v : Int32) : -127 ≤ (clampI8 v).toInt := by
    rw [toInt_clampI8]
    exact Int.le_max_left ..
  have report : MouseHid.generateInputFromMotion xrel yrel buttonsState =
      .new hidIdMouse (mouseBytes buttonsState (clampI8 xrel) (clampI8 yrel) 0 0) := rfl
  rw [seen, MouseCall.report, report, Option.bind_some]
  exact hostReadsMouse_new buttonsState (low xrel) (low yrel) (by decide) (by decide)

theorem seen_click (buttonsState : UInt8) :
    (click buttonsState).seen m = some (mouseControls buttonsState 0 0 0 0) := by
  have report : MouseHid.generateInputFromClick buttonsState =
      .new hidIdMouse (mouseBytes buttonsState 0 0 0 0) := rfl
  rw [seen, MouseCall.report, report, Option.bind_some]
  exact hostReadsMouse_new buttonsState (by decide) (by decide) (by decide) (by decide)

theorem seen_scroll {delta : ℚ × ℚ} (within : m.Within delta) :
    (m.Still delta ∧ (scroll delta).seen m = none) ∨
      ∃ wheel pan : Int8, wheel.toInt = truncate (m.vscroll + delta.2) ∧
        pan.toInt = truncate (m.hscroll + delta.1) ∧ ¬m.Still delta ∧
        (scroll delta).seen m = some (mouseControls 0 0 0 wheel pan) := by
  have across := (consumeScroll_exact within.1).1
  have down := (consumeScroll_exact within.2).1
  by_cases still : m.Still delta
  · refine .inl ⟨still, ?_⟩
    simp [seen, report, (Residuals.report_none_iff within).mpr still]
  · refine .inr ⟨_, _, down, across, still, ?_⟩
    have low {x : ℚ} (near : |x| ≤ 127) : -127 ≤ truncate x :=
      (abs_le.mp (abs_truncate_le (n := 127) (by exact_mod_cast near))).1
    have report : m.report delta = some (.new hidIdMouse (mouseBytes 0 0 0
        (consumeScroll exactCasts (m.vscroll + delta.2)).1
        (consumeScroll exactCasts (m.hscroll + delta.1)).1)) := by
      have moves := mt (Residuals.report_none_iff within).mp still
      unfold Residuals.report Residuals.scroll at moves ⊢
      dsimp only at moves ⊢
      split
      · rename_i none
        rw [if_pos none] at moves
        contradiction
      · rfl
    rw [seen, MouseCall.report, report, Option.bind_some]
    exact hostReadsMouse_new 0 (by decide) (by decide) (down ▸ low within.2) (across ▸ low within.1)

/-- One call: what is read of it and what is left make up what was asked for. -/
theorem seen_balance (call : MouseCall) (within : call.Within m) :
    ((call.seen m).toList.map (amount pageGenericDesktop usageX)).sum = call.moved.1 ∧
      ((call.seen m).toList.map (amount pageGenericDesktop usageY)).sum = call.moved.2 ∧
      ((call.seen m).toList.map fun c => (amount pageGenericDesktop usageWheel c : ℚ)).sum +
        (call.next m).vscroll = m.vscroll + call.scrolled.2 ∧
      ((call.seen m).toList.map fun c => (amount pageConsumer usageAcPan c : ℚ)).sum +
        (call.next m).hscroll = m.hscroll + call.scrolled.1 := by
  cases call with
  | motion xrel yrel buttonsState => simp [seen_motion, moved, scrolled, next, toInt_clampI8]
  | click buttonsState => simp [seen_click, moved, scrolled, next]
  | scroll delta =>
    have left := Residuals.next_eq within
    rcases seen_scroll within with ⟨still, seen⟩ | ⟨wheel, pan, down, across, _, seen⟩
    · simp [seen, moved, scrolled, next, left, still.1, still.2]
    · simp [seen, moved, scrolled, next, left, down, across]

theorem seen_buttons (call : MouseCall) (within : call.Within m) :
    (call.seen m).isSome = (call.report m).isSome ∧
      ∀ controls, call.seen m = some controls →
        buttonsOn controls = (call.buttons.map pressedButtons).getD [] := by
  cases call with
  | motion xrel yrel buttonsState =>
    rw [seen_motion]
    refine ⟨rfl, ?_⟩
    rintro _ ⟨⟩
    exact buttonsOn_mouse ..
  | click buttonsState =>
    rw [seen_click]
    refine ⟨rfl, ?_⟩
    rintro _ ⟨⟩
    exact buttonsOn_mouse ..
  | scroll delta =>
    rcases seen_scroll within with ⟨still, seen⟩ | ⟨wheel, pan, _, _, moves, seen⟩
    · simp [seen, MouseCall.report, (Residuals.report_none_iff within).mpr still]
    · have some : (m.report delta).isSome = true := by
        rw [Option.isSome_iff_ne_none]
        exact mt (Residuals.report_none_iff within).mp moves
      rw [seen]
      refine ⟨some.symm, ?_⟩
      rintro _ ⟨⟩
      exact buttonsOn_mouse ..

end MouseCall

/-- A host that reads the reports by the mouse's descriptor moves by the clamped motions, and
scrolls by what was scrolled up to the fractions that are left; a report that scrolls shows no
button as held. -/
theorem pointer_follows (calls : List MouseCall)
    (within : Run.Along MouseCall.next MouseCall.Within .new calls) :
    let seen := Run.outputs MouseCall.next MouseCall.seen .new calls
    let left := Run.after MouseCall.next .new calls
    (seen.map (amount pageGenericDesktop usageX)).sum = (calls.map fun c => c.moved.1).sum ∧
      (seen.map (amount pageGenericDesktop usageY)).sum = (calls.map fun c => c.moved.2).sum ∧
      (seen.map fun c => (amount pageGenericDesktop usageWheel c : ℚ)).sum + left.vscroll =
        (calls.map fun c => c.scrolled.2).sum ∧
      (seen.map fun c => (amount pageConsumer usageAcPan c : ℚ)).sum + left.hscroll =
        (calls.map fun c => c.scrolled.1).sum ∧
      left.Small ∧
      Run.Along MouseCall.next (fun m call => (call.seen m).isSome = (call.report m).isSome ∧
        ∀ controls, call.seen m = some controls →
          buttonsOn controls = (call.buttons.map pressedButtons).getD []) .new calls := by
  intro seen left
  have balance {m : Residuals ℚ} {call : MouseCall} (within : call.Within m) :=
    MouseCall.seen_balance call within
  have x := Run.outputs_balance (fun _ => 0) (fun c : MouseCall => c.moved.1)
    (amount pageGenericDesktop usageX) (fun _ _ h => by simpa using (balance h).1) within
  have y := Run.outputs_balance (fun _ => 0) (fun c : MouseCall => c.moved.2)
    (amount pageGenericDesktop usageY) (fun _ _ h => by simpa using (balance h).2.1) within
  have wheel := Run.outputs_balance Residuals.vscroll (fun c : MouseCall => c.scrolled.2)
    (fun c => (amount pageGenericDesktop usageWheel c : ℚ)) (fun _ _ h => (balance h).2.2.1) within
  have pan := Run.outputs_balance Residuals.hscroll (fun c : MouseCall => c.scrolled.1)
    (fun c => (amount pageConsumer usageAcPan c : ℚ)) (fun _ _ h => (balance h).2.2.2) within
  have small : left.Small := by
    refine Run.invariant Residuals.Small (fun m call small within => ?_) ⟨by decide, by decide⟩ within
    cases call with
    | scroll delta => exact Residuals.next_small within
    | _ => exact small
  exact ⟨by simpa using x, by simpa using y, wheel.trans (zero_add _), pan.trans (zero_add _), small,
    within.imp fun _ call => MouseCall.seen_buttons call⟩

/-- A drag that scrolls on the way. -/
theorem pointer_follows_drag :
    let calls : List MouseCall := [.click 1, .motion 500 (-3) 1, .scroll (0, 3 / 2), .motion 1 1 1]
    let seen := Run.outputs MouseCall.next MouseCall.seen .new calls
    let left := Run.after MouseCall.next .new calls
    (seen.map (amount pageGenericDesktop usageX)).sum = (calls.map fun c => c.moved.1).sum ∧
      (seen.map (amount pageGenericDesktop usageY)).sum = (calls.map fun c => c.moved.2).sum ∧
      (seen.map fun c => (amount pageGenericDesktop usageWheel c : ℚ)).sum + left.vscroll =
        (calls.map fun c => c.scrolled.2).sum ∧
      (seen.map fun c => (amount pageConsumer usageAcPan c : ℚ)).sum + left.hscroll =
        (calls.map fun c => c.scrolled.1).sum ∧
      left.Small ∧
      Run.Along MouseCall.next (fun m call => (call.seen m).isSome = (call.report m).isSome ∧
        ∀ controls, call.seen m = some controls →
          buttonsOn controls = (call.buttons.map pressedButtons).getD []) .new calls :=
  pointer_follows _ (by decide +kernel)

end HidConnect
