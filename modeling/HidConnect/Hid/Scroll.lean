import HidConnect.Hid.Mouse
import HidConnect.Library.Simulation
import Mathlib.Algebra.Order.Round
import Mathlib.Data.Rat.Floor
import Mathlib.Tactic.Linarith

/-! The arithmetic of scrolling over any numbers. The driver computes with floats; over exact numbers no
part of a scroll is lost. -/
namespace HidConnect

/- The driver's own text, whatever the numbers are. -/

section Numbers
variable {α : Type} [Add α] [Sub α] [Neg α] [OfNat α 127] [LT α] [DecidableLT α]

/-- How numbers are cast to a signed byte and back. -/
structure ByteCasts (α : Type) where
  toI8 : α → Int8
  ofI8 : Int8 → α

variable (casts : ByteCasts α)

def clampScroll (x : α) : α :=
  let raised := if x < -127 then -127 else x
  if 127 < raised then 127 else raised

def consumeScroll (scroll : α) : Int8 × α :=
  let value := clampScroll scroll
  let consume := casts.toI8 value
  (consume, value - casts.ofI8 consume)

structure Residuals (α : Type) where
  hscroll : α
  vscroll : α

def Residuals.scroll (m : Residuals α) (delta : α × α) : Option HidReport × Residuals α :=
  let (h, hscroll) := consumeScroll casts (m.hscroll + delta.1)
  let (v, vscroll) := consumeScroll casts (m.vscroll + delta.2)
  let m := { hscroll, vscroll }
  if h = 0 ∧ v = 0 then (none, m)
  else (some (.new hidIdMouse [0, 0, 0, v.toUInt8, h.toUInt8]), m)

end Numbers

def floatCasts : ByteCasts Float32 := { toI8 := Float32.toInt8, ofI8 := Int8.toFloat32 }

theorem consumeScroll_float (scroll : Float32) :
    consumeScroll floatCasts scroll = consumeScrollInteger scroll := rfl

/-- Over floats this is the driver. -/
theorem scroll_float (m : MouseHid) (hscroll vscroll : Float32) :
    let out := Residuals.scroll floatCasts ⟨m.residualHscroll, m.residualVscroll⟩ (hscroll, vscroll)
    m.generateInputFromScroll hscroll vscroll = (out.1, ⟨out.2.hscroll, out.2.vscroll⟩) := by
  unfold MouseHid.generateInputFromScroll Residuals.scroll
  simp only [consumeScroll_float]
  by_cases still : (consumeScrollInteger (m.residualHscroll + hscroll)).1 = 0 ∧
      (consumeScrollInteger (m.residualVscroll + vscroll)).1 = 0
  · simp [still]
  · simp [still]

/- Exact numbers. -/

def truncate (x : ℚ) : ℤ := if x < 0 then ⌈x⌉ else ⌊x⌋

/-- `as i8`, which saturates. -/
def exactCasts : ByteCasts ℚ where
  toI8 x := Int8.ofInt (max (-128) (min (truncate x) 127))
  ofI8 b := b.toInt

theorem abs_sub_truncate_lt (x : ℚ) : |x - truncate x| < 1 := by
  unfold truncate
  split
  · have := Int.ceil_lt_add_one x
    have := Int.le_ceil x
    rw [abs_lt]
    constructor <;> linarith
  · have := Int.floor_le x
    have := Int.lt_floor_add_one x
    rw [abs_lt]
    constructor <;> linarith

theorem abs_truncate_le {x : ℚ} {n : ℤ} (h : |x| ≤ n) : |truncate x| ≤ n := by
  rw [abs_le] at h ⊢
  unfold truncate
  split
  · constructor
    · have : ((-n : ℤ) : ℚ) ≤ ⌈x⌉ := by push_cast; exact h.1.trans (Int.le_ceil x)
      exact_mod_cast this
    · exact Int.ceil_le.mpr h.2
  · constructor
    · exact Int.le_floor.mpr (by push_cast; exact h.1)
    · have : (⌊x⌋ : ℚ) ≤ (n : ℤ) := (Int.floor_le x).trans h.2
      exact_mod_cast this

/-- Within the range of a report an axis gives up its whole part and keeps its fraction. -/
theorem consumeScroll_exact {x : ℚ} (within : |x| ≤ 127) :
    ((consumeScroll exactCasts x).1.toInt = truncate x) ∧
      (consumeScroll exactCasts x).2 = x - truncate x := by
  have bounds := abs_le.mp within
  have same : clampScroll x = x := by
    unfold clampScroll
    simp only [not_lt.mpr bounds.1, not_lt.mpr bounds.2, if_false]
  have whole : |truncate x| ≤ 127 := abs_truncate_le (n := 127) (by exact_mod_cast within)
  have byte : (Int8.ofInt (max (-128) (min (truncate x) 127))).toInt = truncate x := by
    have := abs_le.mp whole
    rw [Int8.toInt_ofInt_of_le (by omega) (by omega)]
    omega
  unfold consumeScroll
  rw [same]
  dsimp only [exactCasts]
  rw [byte]
  exact ⟨rfl, rfl⟩

def HidReport.pan (report : HidReport) : ℚ := (report.data[4]).toInt8.toInt

def HidReport.wheel (report : HidReport) : ℚ := (report.data[3]).toInt8.toInt

namespace Residuals

def new : Residuals ℚ := { hscroll := 0, vscroll := 0 }

def Within (m : Residuals ℚ) (delta : ℚ × ℚ) : Prop :=
  |m.hscroll + delta.1| ≤ 127 ∧ |m.vscroll + delta.2| ≤ 127

instance (m : Residuals ℚ) (delta : ℚ × ℚ) : Decidable (m.Within delta) :=
  inferInstanceAs (Decidable (_ ∧ _))

def Still (m : Residuals ℚ) (delta : ℚ × ℚ) : Prop :=
  truncate (m.hscroll + delta.1) = 0 ∧ truncate (m.vscroll + delta.2) = 0

def Small (m : Residuals ℚ) : Prop := |m.hscroll| < 1 ∧ |m.vscroll| < 1

def report (m : Residuals ℚ) (delta : ℚ × ℚ) : Option HidReport := (m.scroll exactCasts delta).1

def next (m : Residuals ℚ) (delta : ℚ × ℚ) : Residuals ℚ := (m.scroll exactCasts delta).2

variable {m : Residuals ℚ} {delta : ℚ × ℚ}

theorem next_eq (within : m.Within delta) :
    m.next delta = ⟨m.hscroll + delta.1 - truncate (m.hscroll + delta.1),
      m.vscroll + delta.2 - truncate (m.vscroll + delta.2)⟩ := by
  have across := (consumeScroll_exact within.1).2
  have down := (consumeScroll_exact within.2).2
  unfold next scroll
  dsimp only
  split <;> simp only [across, down]

theorem next_small (within : m.Within delta) : (m.next delta).Small := by
  rw [next_eq within]
  exact ⟨abs_sub_truncate_lt _, abs_sub_truncate_lt _⟩

theorem int8_eq_zero_iff (b : Int8) : b = 0 ↔ b.toInt = 0 := by
  rw [← Int8.toInt_inj]
  rfl

theorem report_none_iff (within : m.Within delta) : m.report delta = none ↔ m.Still delta := by
  have across := (consumeScroll_exact within.1).1
  have down := (consumeScroll_exact within.2).1
  unfold report scroll Still
  dsimp only
  rw [← across, ← down, ← int8_eq_zero_iff, ← int8_eq_zero_iff]
  split
  · next still => simp [still]
  · next moved => simp [moved]

theorem report_units (within : m.Within delta) :
    ((m.report delta).toList.map HidReport.pan).sum = truncate (m.hscroll + delta.1) ∧
      ((m.report delta).toList.map HidReport.wheel).sum = truncate (m.vscroll + delta.2) := by
  have across := (consumeScroll_exact within.1).1
  have down := (consumeScroll_exact within.2).1
  unfold report scroll
  dsimp only
  rw [← across, ← down]
  split
  · next still => simp [still]
  · next moved => simp [HidReport.pan, HidReport.wheel, HidReport.new, padReport]

theorem report_balance (within : m.Within delta) :
    ((m.report delta).toList.map HidReport.pan).sum + (m.next delta).hscroll = m.hscroll + delta.1 ∧
      ((m.report delta).toList.map HidReport.wheel).sum + (m.next delta).vscroll =
        m.vscroll + delta.2 := by
  obtain ⟨across, down⟩ := report_units within
  rw [across, down, next_eq within]
  exact ⟨add_sub_cancel _ _, add_sub_cancel _ _⟩

/-- Nothing of a run of scrolls is lost: what was reported and what is left make up what was asked for,
less than a unit is left, and a scroll goes unreported exactly if it completes no unit. -/
theorem scroll_conserved {deltas : List (ℚ × ℚ)} (within : Run.Along next Within new deltas) :
    let reported := Run.outputs next report new deltas
    let left := Run.after next new deltas
    (reported.map HidReport.pan).sum + left.hscroll = (deltas.map Prod.fst).sum ∧
      (reported.map HidReport.wheel).sum + left.vscroll = (deltas.map Prod.snd).sum ∧ left.Small ∧
      Run.Along next (fun m delta => m.report delta = none ↔ m.Still delta) new deltas := by
  intro reported left
  have across : (reported.map HidReport.pan).sum + left.hscroll =
      new.hscroll + (deltas.map Prod.fst).sum :=
    Run.outputs_balance Residuals.hscroll Prod.fst HidReport.pan
      (fun _ _ within => (report_balance within).1) within
  have down : (reported.map HidReport.wheel).sum + left.vscroll =
      new.vscroll + (deltas.map Prod.snd).sum :=
    Run.outputs_balance Residuals.vscroll Prod.snd HidReport.wheel
      (fun _ _ within => (report_balance within).2) within
  have small : left.Small :=
    Run.invariant Small (fun _ _ _ => next_small) ⟨by decide, by decide⟩ within
  exact ⟨across.trans (zero_add _), down.trans (zero_add _), small,
    within.imp fun _ _ => report_none_iff⟩

/-- Fractions that change sign, and scrolls that complete a unit. -/
theorem fractions_conserved :
    let deltas : List (ℚ × ℚ) := [(1 / 2, -1 / 2), (3 / 4, -3 / 4), (-5 / 4, 0)]
    let reported := Run.outputs next report new deltas
    let left := Run.after next new deltas
    (reported.map HidReport.pan).sum + left.hscroll = (deltas.map Prod.fst).sum ∧
      (reported.map HidReport.wheel).sum + left.vscroll = (deltas.map Prod.snd).sum ∧ left.Small ∧
      Run.Along next (fun m delta => m.report delta = none ↔ m.Still delta) new deltas :=
  scroll_conserved (by decide +kernel)

end Residuals

end HidConnect
