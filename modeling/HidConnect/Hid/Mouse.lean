import HidConnect.Hid.Report

/-! The mouse driver: relative motion, clicks, and scroll with its fractional residue. -/
namespace HidConnect
open Fallible

structure MouseHid where
  residualHscroll : Float32
  residualVscroll : Float32

def buttonsByte (buttonsState : UInt8) : UInt8 :=
  let bit (c mask : UInt8) := if buttonsState &&& mask = 0 then c else c ||| mask
  bit (bit (bit (bit (bit 0 1) 2) 4) 8) 16

def clampI8 (v : Int32) : Int8 :=
  if v < -127 then -127 else if 127 < v then 127 else v.toInt8

/-- The whole part of a scroll, and the fraction left behind. -/
def consumeScrollInteger (scroll : Float32) : Int8 × Float32 :=
  let value := clamp scroll (-127) 127
  let consume := value.toInt8
  (consume, value - consume.toFloat32)

namespace MouseHid

def new : MouseHid := { residualHscroll := 0, residualVscroll := 0 }

def generateInputFromMotion (xrel yrel : Int32) (buttonsState : UInt8) : HidReport :=
  .new hidIdMouse
    [buttonsByte buttonsState, (clampI8 xrel).toUInt8, (clampI8 yrel).toUInt8, 0, 0]

def generateInputFromClick (buttonsState : UInt8) : HidReport :=
  .new hidIdMouse [buttonsByte buttonsState, 0, 0, 0, 0]

/-- Nothing is reported until one of the axes has gathered a whole unit. -/
def generateInputFromScroll (m : MouseHid) (hscroll vscroll : Float32) :
    Option HidReport × MouseHid :=
  let (h, residualHscroll) := consumeScrollInteger (m.residualHscroll + hscroll)
  let (v, residualVscroll) := consumeScrollInteger (m.residualVscroll + vscroll)
  let m := { residualHscroll, residualVscroll }
  if h = 0 ∧ v = 0 then (none, m)
  else (some (.new hidIdMouse [0, 0, 0, v.toUInt8, h.toUInt8]), m)

def openMessage (_name : Option String) : Result ControlMessage :=
  .ok (.uhidCreate {
    id := hidIdMouse, vendorId := 0, productId := 0, name := none, reportDesc := mouseReportDesc })

def closeMessage : Result ControlMessage := .ok (.uhidDestroy { id := hidIdMouse })

def IsReport (report : HidReport) : Prop := report.hidId = hidIdMouse ∧ report.size = 5

theorem motion_isReport (xrel yrel : Int32) (buttonsState : UInt8) :
    IsReport (generateInputFromMotion xrel yrel buttonsState) := ⟨rfl, rfl⟩

theorem click_isReport (buttonsState : UInt8) : IsReport (generateInputFromClick buttonsState) :=
  ⟨rfl, rfl⟩

theorem scroll_isReport {m : MouseHid} {hscroll vscroll : Float32} {report : HidReport}
    (h : (m.generateInputFromScroll hscroll vscroll).1 = some report) : IsReport report := by
  unfold generateInputFromScroll at h
  dsimp only at h
  split at h
  · contradiction
  · cases h
    exact ⟨rfl, rfl⟩

end MouseHid

end HidConnect
