import HidConnect.Ai
import HidConnect.Library.Accepts

/-! Which payloads are frame summaries, byte for byte. -/
namespace HidConnect
open Fallible Reader

section Fields
variable {ε : Type}

theorem wants_readU8 : Wants (readU8 : Reading ε _) 1 := (wants_readUint 1).map _
theorem wants_readU16Be : Wants (readU16Be : Reading ε _) 2 := (wants_readUint 2).map _
theorem wants_readI16Be : Wants (readI16Be : Reading ε _) 2 := (wants_readUint 2).map _
theorem wants_readU32Be : Wants (readU32Be : Reading ε _) 4 := (wants_readUint 4).map _
theorem wants_readU64Be : Wants (readU64Be : Reading ε _) 8 := (wants_readUint 8).map _

end Fields

theorem MotionVector.wants_read : Wants read 8 :=
  wants_readU16Be.bind fun _ => wants_readU16Be.bind fun _ => wants_readI16Be.bind fun _ =>
  wants_readI16Be.bind fun _ => wants_pure _

theorem ObjectBox.wants_read : Wants read 10 :=
  wants_readU16Be.bind fun _ => wants_readU16Be.bind fun _ => wants_readU16Be.bind fun _ =>
  wants_readU16Be.bind fun _ => wants_readU8.bind fun _ => wants_readU8.bind fun _ => wants_pure _

theorem TextRegion.wants_read : Wants read 8 :=
  wants_readU16Be.bind fun _ => wants_readU16Be.bind fun _ => wants_readU16Be.bind fun _ =>
  wants_readU16Be.bind fun _ => wants_pure _

namespace FrameSummary

/-- The four lists: how wide each count is, and how large an element. -/
def lists : List (Nat × Nat) := [(2, 4), (2, 8), (2, 10), (1, 8)]

/-- The fixed fields, and then as many elements as each count says. -/
def WellFormed (payload : List UInt8) : Prop := 17 ≤ payload.length ∧ Counted lists (payload.drop 17)

theorem accepts_read : Accepts read WellFormed := by
  have fields : Accepts read fun bs => 8 ≤ bs.length ∧ 4 ≤ (bs.drop 8).length ∧
      2 ≤ ((bs.drop 8).drop 4).length ∧ 2 ≤ (((bs.drop 8).drop 4).drop 2).length ∧
      1 ≤ ((((bs.drop 8).drop 4).drop 2).drop 2).length ∧
      Counted lists (((((bs.drop 8).drop 4).drop 2).drop 2).drop 1) :=
    .field wants_readU64Be fun _ => .field wants_readU32Be fun _ => .field wants_readU16Be fun _ =>
    .field wants_readU16Be fun _ => .field wants_readU8 fun _ =>
    .list readU16Be_reads wants_readU16Be UInt16.toNat_lt wants_readU32Be fun _ =>
    .list readU16Be_reads wants_readU16Be UInt16.toNat_lt MotionVector.wants_read fun _ =>
    .list readU16Be_reads wants_readU16Be UInt16.toNat_lt ObjectBox.wants_read fun _ =>
    .list readU8_reads wants_readU8 UInt8.toNat_lt TextRegion.wants_read fun _ => accepts_pure _
  refine fields.congr fun bs => ?_
  unfold WellFormed
  simp only [List.drop_drop, List.length_drop, ← and_assoc]
  exact and_congr_left fun _ => by omega

/-- The reference encoder. A list that is longer than its count can say has no encoding. -/
def encoded (s : FrameSummary) : Option (List UInt8) :=
  if s.features.length < 2 ^ 16 ∧ s.motion.length < 2 ^ 16 ∧ s.objects.length < 2 ^ 16 ∧
      s.textRegions.length < 2 ^ 8 then some s.encode
  else none

theorem encoded_eq_some {s : FrameSummary} {bytes : List UInt8} :
    s.encoded = some bytes ↔ s.Fits ∧ s.encode = bytes := by
  unfold encoded
  split
  case isTrue fits =>
    rw [Option.some.injEq]
    exact (and_iff_right ⟨fits.1, fits.2.1, fits.2.2.1, fits.2.2.2⟩).symm
  case isFalse long =>
    refine iff_of_false (fun none => by cases none) fun h => long ?_
    exact ⟨h.1.features, h.1.motion, h.1.objects, h.1.textRegions⟩

/-- What the parser makes of a payload. -/
structure Codec (payload : List UInt8) : Prop where
  accepts : (∃ s, parse payload = .ok s) ↔ WellFormed payload
  refuses : ¬WellFormed payload → parse payload = .err (ioErr cursorEnd)
  decodes : ∀ s, parse payload = .ok s ↔ ∃ bytes, s.encoded = some bytes ∧ bytes <+: payload

theorem frameSummary_codec :
    (∀ payload, Codec payload) ∧
    ∀ s bytes padding, encoded s = some bytes → parse (bytes ++ padding) = .ok s := by
  have decodes (payload : List UInt8) (s : FrameSummary) :
      parse payload = .ok s ↔ ∃ bytes, s.encoded = some bytes ∧ bytes <+: payload := by
    unfold parse
    rw [reads.ok_iff]
    constructor
    · rintro ⟨fits, starts⟩
      exact ⟨s.encode, encoded_eq_some.mpr ⟨fits, rfl⟩, starts⟩
    · rintro ⟨bytes, encoded, starts⟩
      obtain ⟨fits, rfl⟩ := encoded_eq_some.mp encoded
      exact ⟨fits, starts⟩
  constructor
  · intro payload
    obtain ⟨good, bad⟩ := accepts_read payload (ioErr cursorEnd)
    refine ⟨⟨fun ⟨s, parsed⟩ => ?_, good⟩, bad, decodes payload⟩
    by_contra ill
    rw [parse, bad ill] at parsed
    cases parsed
  · intro s bytes padding encoded
    exact (decodes _ s).mpr ⟨bytes, encoded, padding, rfl⟩

/-- One feature, of the value 1, and no lists behind it. -/
def oneFeature : FrameSummary where
  timestampMs := 1
  frameSeq := 2
  width := 3
  height := 4
  flags := 5
  features := [0x3F800000]
  motion := []
  objects := []
  textRegions := []

theorem oneFeature_parsed :
    parse ([0, 0, 0, 0, 0, 0, 0, 1, 0, 0, 0, 2, 0, 3, 0, 4, 5, 0, 1, 0x3F, 0x80, 0, 0, 0, 0, 0, 0, 0] ++
      [9, 9]) = .ok oneFeature :=
  frameSummary_codec.2 oneFeature _ _ (by decide)

end FrameSummary

end HidConnect
