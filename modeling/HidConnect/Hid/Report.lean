import HidConnect.Control.Message

/-! Report descriptors of the three devices, and fixed-size input reports. -/
namespace HidConnect
open Fallible

def keyboardReportDesc : List UInt8 :=
  [0x05, 0x01, 0x09, 0x06, 0xA1, 0x01, 0x05, 0x07, 0x19, 0xE0, 0x29, 0xE7,
   0x15, 0x00, 0x25, 0x01, 0x75, 0x01, 0x95, 0x08, 0x81, 0x02, 0x75, 0x08,
   0x95, 0x01, 0x81, 0x01, 0x05, 0x08, 0x19, 0x01, 0x29, 0x05, 0x75, 0x01,
   0x95, 0x05, 0x91, 0x02, 0x75, 0x03, 0x95, 0x01, 0x91, 0x01, 0x05, 0x07,
   0x19, 0x00, 0x29, 0x65, 0x15, 0x00, 0x25, 0x65, 0x75, 0x08, 0x95, 0x06,
   0x81, 0x00, 0xC0]

def mouseReportDesc : List UInt8 :=
  [0x05, 0x01, 0x09, 0x02, 0xA1, 0x01, 0x09, 0x01, 0xA1, 0x00, 0x05, 0x09,
   0x19, 0x01, 0x29, 0x05, 0x15, 0x00, 0x25, 0x01, 0x95, 0x05, 0x75, 0x01,
   0x81, 0x02, 0x95, 0x01, 0x75, 0x03, 0x81, 0x01, 0x05, 0x01, 0x09, 0x30,
   0x09, 0x31, 0x09, 0x38, 0x15, 0x81, 0x25, 0x7F, 0x75, 0x08, 0x95, 0x03,
   0x81, 0x06, 0x05, 0x0C, 0x0A, 0x38, 0x02, 0x15, 0x81, 0x25, 0x7F, 0x75,
   0x08, 0x95, 0x01, 0x81, 0x06, 0xC0, 0xC0]

def gamepadReportDesc : List UInt8 :=
  [0x05, 0x01, 0x09, 0x05, 0xA1, 0x01, 0xA1, 0x00, 0x05, 0x01, 0x09, 0x30,
   0x09, 0x31, 0x09, 0x33, 0x09, 0x34, 0x15, 0x00, 0x27, 0xFF, 0xFF, 0x00,
   0x00, 0x75, 0x10, 0x95, 0x04, 0x81, 0x02, 0x05, 0x01, 0x09, 0x32, 0x09,
   0x35, 0x15, 0x00, 0x26, 0xFF, 0x7F, 0x75, 0x10, 0x95, 0x02, 0x81, 0x02,
   0x05, 0x09, 0x19, 0x01, 0x29, 0x10, 0x15, 0x00, 0x25, 0x01, 0x95, 0x10,
   0x75, 0x01, 0x81, 0x02, 0x05, 0x01, 0x09, 0x39, 0x15, 0x01, 0x25, 0x08,
   0x75, 0x04, 0x95, 0x01, 0x81, 0x42, 0xC0, 0xC0]

structure HidReport where
  hidId : UInt16
  size : UInt16
  data : Vector UInt8 hidMaxSize

/-- The first `hidMaxSize` bytes in a zeroed array. -/
def padReport (bytes : List UInt8) : Vector UInt8 hidMaxSize :=
  Vector.ofFn fun i => bytes.getD i 0

def HidReport.new (hidId : UInt16) (data : List UInt8) : HidReport :=
  { hidId, size := (min data.length hidMaxSize).toUInt16, data := padReport data }

/-- The input message of a report. The driver asserts that the report is its own. -/
def toInputMessage (own : UInt16) (report : HidReport) : Result ControlMessage :=
  if report.hidId = own then
    let n := min report.size.toNat hidMaxSize
    .ok (.uhidInput {
      id := report.hidId, size := n.toUInt16, data := padReport (report.data.toList.take n) })
  else .panic

theorem padReport_take {bytes : List UInt8} {n : Nat} (fits : n ≤ hidMaxSize)
    (enough : n ≤ bytes.length) : (padReport bytes).toList.take n = bytes.take n := by
  apply List.ext_getElem
  · simp only [List.length_take, Vector.length_toList]
    omega
  · intro i hi hj
    have inside : i < bytes.length := by
      simp only [List.length_take] at hj
      omega
    simp [padReport, inside]

theorem toList_padReport {bytes : List UInt8} (h : bytes.length = hidMaxSize) :
    (padReport bytes).toList = bytes := by
  have whole := padReport_take (Nat.le_refl hidMaxSize) (Nat.le_of_eq h.symm)
  rwa [List.take_of_length_le (by simp), List.take_of_length_le (by omega)] at whole

end HidConnect
