import HidConnect.Transport
import HidConnect.Library.Reader

/-! The payloads of the AI extension: summaries of frames and statistics. -/
namespace HidConnect
open Fallible

def typeFrameSummary : UInt8 := 3
def typeAiStats : UInt8 := 4

/-- A float by its bits, as it crosses the wire. -/
abbrev F32 := UInt32

section Fields
variable {ε : Type}

def readU8 : Reading ε UInt8 := do pure (← Reader.readUint 1).toUInt8
def readU16Be : Reading ε UInt16 := do pure (← Reader.readUint 2).toUInt16
def readI16Be : Reading ε Int16 := do pure (← Reader.readUint 2).toUInt16.toInt16
def readU32Be : Reading ε UInt32 := do pure (← Reader.readUint 4).toUInt32
def readU64Be : Reading ε UInt64 := do pure (← Reader.readUint 8).toUInt64
def readF32Be : Reading ε F32 := readU32Be

theorem readU8_reads :
    Reader.Reads (readU8 : Reading ε _) (fun _ => True) (fun x => Bytes.toBe 1 x.toNat) :=
  (Reader.reads_readUint 1).map Nat.toUInt8 UInt8.toNat (fun x _ => ⟨x.toNat_lt, UInt8.ofNat_toNat⟩)
    fun _ h => ⟨trivial, UInt8.toNat_ofNat_of_lt' h⟩

theorem readU16Be_reads :
    Reader.Reads (readU16Be : Reading ε _) (fun _ => True) (fun x => Bytes.toBe 2 x.toNat) :=
  (Reader.reads_readUint 2).map Nat.toUInt16 UInt16.toNat (fun x _ => ⟨x.toNat_lt, UInt16.ofNat_toNat⟩)
    fun _ h => ⟨trivial, UInt16.toNat_ofNat_of_lt' h⟩

theorem readI16Be_reads :
    Reader.Reads (readI16Be : Reading ε _) (fun _ => True) (fun x => Bytes.toBe 2 x.toUInt16.toNat) :=
  (Reader.reads_readUint 2).map (fun n => n.toUInt16.toInt16) (fun x => x.toUInt16.toNat)
    (fun x _ => ⟨x.toUInt16.toNat_lt, congrArg UInt16.toInt16 UInt16.ofNat_toNat⟩)
    fun _ h => ⟨trivial, UInt16.toNat_ofNat_of_lt' h⟩

theorem readU32Be_reads :
    Reader.Reads (readU32Be : Reading ε _) (fun _ => True) (fun x => Bytes.toBe 4 x.toNat) :=
  (Reader.reads_readUint 4).map Nat.toUInt32 UInt32.toNat (fun x _ => ⟨x.toNat_lt, UInt32.ofNat_toNat⟩)
    fun _ h => ⟨trivial, UInt32.toNat_ofNat_of_lt' h⟩

theorem readU64Be_reads :
    Reader.Reads (readU64Be : Reading ε _) (fun _ => True) (fun x => Bytes.toBe 8 x.toNat) :=
  (Reader.reads_readUint 8).map Nat.toUInt64 UInt64.toNat (fun x _ => ⟨x.toNat_lt, UInt64.ofNat_toNat⟩)
    fun _ h => ⟨trivial, UInt64.toNat_ofNat_of_lt' h⟩

theorem onto_u8 : ∀ n < 2 ^ 8, ∃ x : UInt8, x.toNat = n :=
  fun n h => ⟨n.toUInt8, UInt8.toNat_ofNat_of_lt' h⟩

theorem onto_u16 : ∀ n < 2 ^ 16, ∃ x : UInt16, x.toNat = n :=
  fun n h => ⟨n.toUInt16, UInt16.toNat_ofNat_of_lt' h⟩

end Fields

structure MotionVector where
  x : UInt16
  y : UInt16
  dx : Int16
  dy : Int16
  deriving DecidableEq

structure ObjectBox where
  x : UInt16
  y : UInt16
  w : UInt16
  h : UInt16
  classId : UInt8
  confidence : UInt8
  deriving DecidableEq

structure TextRegion where
  x : UInt16
  y : UInt16
  w : UInt16
  h : UInt16
  deriving DecidableEq

structure FrameSummary where
  timestampMs : UInt64
  frameSeq : UInt32
  width : UInt16
  height : UInt16
  flags : UInt8
  features : List F32
  motion : List MotionVector
  objects : List ObjectBox
  textRegions : List TextRegion
  deriving DecidableEq

structure AiStats where
  uptimeMs : UInt64
  framesSampled : UInt32
  framesSkippedKeyframe : UInt32
  framesYoloInferred : UInt32
  bytesSummaryEmitted : UInt64
  avgLatencyMs : F32
  currentFps : F32
  deriving DecidableEq

def ioErr (e : IoError) : Error := .transport e.message

/-- A cursor over a slice that has run out. -/
def cursorEnd : IoError := { kind := .unexpectedEof, message := "failed to fill whole buffer" }

namespace MotionVector

def read : Reading Error MotionVector := do
  let x ← readU16Be
  let y ← readU16Be
  let dx ← readI16Be
  let dy ← readI16Be
  pure { x, y, dx, dy }

def encode (v : MotionVector) : List UInt8 :=
  [Bytes.toBe 2 v.x.toNat, Bytes.toBe 2 v.y.toNat, Bytes.toBe 2 v.dx.toUInt16.toNat,
    Bytes.toBe 2 v.dy.toUInt16.toNat].flatten

theorem reads : Reader.Reads read (fun _ => True) encode :=
  readU16Be_reads.field x fun _ =>
  readU16Be_reads.field y fun _ =>
  readI16Be_reads.field dx fun _ =>
  readI16Be_reads.field dy fun _ =>
  Reader.reads_pure fun v => by cases v; simp [and_assoc]

end MotionVector

namespace ObjectBox

def read : Reading Error ObjectBox := do
  let x ← readU16Be
  let y ← readU16Be
  let w ← readU16Be
  let h ← readU16Be
  let classId ← readU8
  let confidence ← readU8
  pure { x, y, w, h, classId, confidence }

def encode (o : ObjectBox) : List UInt8 :=
  [Bytes.toBe 2 o.x.toNat, Bytes.toBe 2 o.y.toNat, Bytes.toBe 2 o.w.toNat, Bytes.toBe 2 o.h.toNat,
    Bytes.toBe 1 o.classId.toNat, Bytes.toBe 1 o.confidence.toNat].flatten

theorem reads : Reader.Reads read (fun _ => True) encode :=
  readU16Be_reads.field x fun _ =>
  readU16Be_reads.field y fun _ =>
  readU16Be_reads.field w fun _ =>
  readU16Be_reads.field h fun _ =>
  readU8_reads.field classId fun _ =>
  readU8_reads.field confidence fun _ =>
  Reader.reads_pure fun o => by cases o; simp [and_assoc]

end ObjectBox

namespace TextRegion

def read : Reading Error TextRegion := do
  let x ← readU16Be
  let y ← readU16Be
  let w ← readU16Be
  let h ← readU16Be
  pure { x, y, w, h }

def encode (t : TextRegion) : List UInt8 :=
  [Bytes.toBe 2 t.x.toNat, Bytes.toBe 2 t.y.toNat, Bytes.toBe 2 t.w.toNat,
    Bytes.toBe 2 t.h.toNat].flatten

theorem reads : Reader.Reads read (fun _ => True) encode :=
  readU16Be_reads.field x fun _ =>
  readU16Be_reads.field y fun _ =>
  readU16Be_reads.field w fun _ =>
  readU16Be_reads.field h fun _ =>
  Reader.reads_pure fun t => by cases t; simp [and_assoc]

end TextRegion

namespace FrameSummary

def read : Reading Error FrameSummary := do
  let timestampMs ← readU64Be
  let frameSeq ← readU32Be
  let width ← readU16Be
  let height ← readU16Be
  let flags ← readU8
  let featureDim ← readU16Be
  let features ← Reader.repeated featureDim.toNat readF32Be
  let numMotion ← readU16Be
  let motion ← Reader.repeated numMotion.toNat MotionVector.read
  let numObj ← readU16Be
  let objects ← Reader.repeated numObj.toNat ObjectBox.read
  let numText ← readU8
  let textRegions ← Reader.repeated numText.toNat TextRegion.read
  pure { timestampMs, frameSeq, width, height, flags, features, motion, objects, textRegions }

def parse (payload : List UInt8) : Result FrameSummary :=
  (read.run ⟨payload, ioErr cursorEnd⟩).1

/-- The layout of a payload: each list behind its length. -/
def encode (s : FrameSummary) : List UInt8 :=
  [Bytes.toBe 8 s.timestampMs.toNat, Bytes.toBe 4 s.frameSeq.toNat, Bytes.toBe 2 s.width.toNat,
    Bytes.toBe 2 s.height.toNat, Bytes.toBe 1 s.flags.toNat,
    Bytes.toBe 2 s.features.length, s.features.flatMap fun f => Bytes.toBe 4 f.toNat,
    Bytes.toBe 2 s.motion.length, s.motion.flatMap MotionVector.encode,
    Bytes.toBe 2 s.objects.length, s.objects.flatMap ObjectBox.encode,
    Bytes.toBe 1 s.textRegions.length, s.textRegions.flatMap TextRegion.encode].flatten

/-- The lists are no longer than their length fields can say. -/
structure Fits (s : FrameSummary) : Prop where
  features : s.features.length < 2 ^ 16
  motion : s.motion.length < 2 ^ 16
  objects : s.objects.length < 2 ^ 16
  textRegions : s.textRegions.length < 2 ^ 8

theorem reads : Reader.Reads read Fits encode :=
  readU64Be_reads.field timestampMs fun _ =>
  readU32Be_reads.field frameSeq fun _ =>
  readU16Be_reads.field width fun _ =>
  readU16Be_reads.field height fun _ =>
  readU8_reads.field flags fun _ =>
  Reader.Reads.list features readU16Be_reads UInt16.toNat_lt onto_u16
    readU32Be_reads (by grind [Fits]) fun _ features =>
  Reader.Reads.list motion readU16Be_reads UInt16.toNat_lt onto_u16
    MotionVector.reads (by grind [Fits]) fun _ motion =>
  Reader.Reads.list objects readU16Be_reads UInt16.toNat_lt onto_u16
    ObjectBox.reads (by grind [Fits]) fun _ objects =>
  Reader.Reads.list textRegions readU8_reads UInt8.toNat_lt onto_u8
    TextRegion.reads (by grind [Fits]) fun _ textRegions =>
  Reader.reads_pure fun s => by
    constructor
    · rintro ⟨⟨⟨⟨⟨⟨⟨⟨⟨-, rfl⟩, rfl⟩, rfl⟩, rfl⟩, rfl⟩, rfl⟩, rfl⟩, rfl⟩, rfl⟩
      rfl
    · rintro rfl
      simpa using Fits.mk features motion objects textRegions

end FrameSummary

namespace AiStats

def read : Reading Error AiStats := do
  let uptimeMs ← readU64Be
  let framesSampled ← readU32Be
  let framesSkippedKeyframe ← readU32Be
  let framesYoloInferred ← readU32Be
  let bytesSummaryEmitted ← readU64Be
  let avgLatencyMs ← readF32Be
  let currentFps ← readF32Be
  pure { uptimeMs, framesSampled, framesSkippedKeyframe, framesYoloInferred, bytesSummaryEmitted
         avgLatencyMs, currentFps }

def parse (payload : List UInt8) : Result AiStats := (read.run ⟨payload, ioErr cursorEnd⟩).1

def encode (s : AiStats) : List UInt8 :=
  [Bytes.toBe 8 s.uptimeMs.toNat, Bytes.toBe 4 s.framesSampled.toNat,
    Bytes.toBe 4 s.framesSkippedKeyframe.toNat, Bytes.toBe 4 s.framesYoloInferred.toNat,
    Bytes.toBe 8 s.bytesSummaryEmitted.toNat, Bytes.toBe 4 s.avgLatencyMs.toNat,
    Bytes.toBe 4 s.currentFps.toNat].flatten

theorem reads : Reader.Reads read (fun _ => True) encode :=
  readU64Be_reads.field uptimeMs fun _ =>
  readU32Be_reads.field framesSampled fun _ =>
  readU32Be_reads.field framesSkippedKeyframe fun _ =>
  readU32Be_reads.field framesYoloInferred fun _ =>
  readU64Be_reads.field bytesSummaryEmitted fun _ =>
  readU32Be_reads.field avgLatencyMs fun _ =>
  readU32Be_reads.field currentFps fun _ =>
  Reader.reads_pure fun s => by cases s; simp [and_assoc]

theorem length_encode (s : AiStats) : s.encode.length = 36 := by simp [encode]

end AiStats

end HidConnect
