import HidConnect.Library.Reader

/-! The frames of the text protocol: a length of four bytes, and a payload. A frame without a payload ends
a stream. -/
namespace HidConnect.Protocol
open Fallible

def maxFrameLen : Nat := 16 * 1024 * 1024

structure Frame where
  bytes : List UInt8
  deriving DecidableEq

inductive FrameError where
  | tooLarge (len : Nat)
  deriving DecidableEq

namespace Frame

def emptyMarker : Frame := { bytes := [] }

def tryFromVec (bytes : List UInt8) : Except FrameError Frame :=
  if maxFrameLen < bytes.length then .error (.tooLarge bytes.length) else .ok { bytes }

def encode (f : Frame) : Except IoError (List UInt8) :=
  if f.bytes.length < 2 ^ 32 then .ok (Bytes.toBe 4 f.bytes.length ++ f.bytes)
  else .error (IoError.invalidData
    ("frame payload " ++ toString f.bytes.length ++ " bytes exceeds u32::MAX"))

def exceedsCap (declared : Nat) : IoError :=
  IoError.invalidData ("frame length " ++ toString declared ++ " exceeds cap " ++ toString maxFrameLen)

def decode : Reading IoError Frame := do
  let declared ← Reader.readUint 4
  if declared = 0 then pure emptyMarker
  else if maxFrameLen < declared then .fail (exceedsCap declared)
  else
    let bytes ← Reader.readExact declared
    pure { bytes }

/-- A frame within the cap, on the wire. -/
def wire (f : Frame) : List UInt8 := Bytes.toBe 4 f.bytes.length ++ f.bytes

/-- Nothing is read for a terminator, which is what reading no bytes comes to. -/
theorem body_eq {declared : Nat} (within : declared ≤ maxFrameLen) :
    (if declared = 0 then pure emptyMarker
      else if maxFrameLen < declared then Method.fail (exceedsCap declared)
      else Reader.readExact declared >>= fun bytes => pure { bytes } : Reading IoError Frame) =
      Reader.readExact declared >>= fun bytes => pure (Frame.mk bytes) := by
  by_cases none : declared = 0
  · subst none
    rfl
  · rw [if_neg none, if_neg (Nat.not_lt_of_le within)]

theorem decode_reads : Reader.Reads decode (fun f => f.bytes.length ≤ maxFrameLen) wire := by
  have cap : maxFrameLen < 256 ^ 4 := by decide
  refine (Reader.reads_readUint 4).bind (fun f : Frame => f.bytes.length)
    (fun f within => Nat.lt_of_le_of_lt within cap) fun declared _ => ?_
  by_cases within : declared ≤ maxFrameLen
  · rw [body_eq within]
    apply (Reader.reads_readExact declared).map Frame.mk Frame.bytes
    · rintro f ⟨-, length⟩
      exact ⟨length, rfl⟩
    · intro bs length
      exact ⟨⟨Nat.le_trans (Nat.le_of_eq length) within, length⟩, rfl⟩
  · have some_ : declared ≠ 0 := by
      rintro rfl
      exact within (Nat.zero_le _)
    rw [if_neg some_, if_pos (Nat.lt_of_not_le within)]
    refine ⟨Method.neverPanics_fail _, ?_, ?_⟩
    · rintro f ⟨short, rfl⟩
      exact absurd short within
    · intro r r' f run
      cases congrArg Prod.fst run

theorem encode_eq_ok {f : Frame} {bs : List UInt8} :
    f.encode = .ok bs ↔ f.bytes.length < 2 ^ 32 ∧ bs = f.wire := by
  unfold encode
  by_cases fits : f.bytes.length < 2 ^ 32
  · rw [if_pos fits]
    constructor
    · rintro ⟨⟩
      exact ⟨fits, rfl⟩
    · rintro ⟨-, rfl⟩
      rfl
  · rw [if_neg fits]
    exact iff_of_false (fun h => by cases h) fun h => fits h.1

theorem decode_oversized {f : Frame} {bs : List UInt8} (encoded : f.encode = .ok bs)
    (large : maxFrameLen < f.bytes.length) (rest : List UInt8) (closing : IoError) :
    decode.run ⟨bs ++ rest, closing⟩ =
      (.err (exceedsCap f.bytes.length), ⟨f.bytes ++ rest, closing⟩) := by
  obtain ⟨fits, rfl⟩ := encode_eq_ok.mp encoded
  have length := (Reader.reads_readUint (ε := IoError) 4).takes f.bytes.length fits
  have some_ : f.bytes.length ≠ 0 := by
    intro none
    rw [none] at large
    exact absurd large (by decide)
  unfold decode wire
  rw [List.append_assoc, Method.run_bind_ok (length _ closing), if_neg some_, if_pos large]
  rfl

/-- The checked constructor has the cap of the decoder. -/
theorem tryFromVec_eq_ok {f : Frame} : tryFromVec f.bytes = .ok f ↔ f.bytes.length ≤ maxFrameLen := by
  unfold tryFromVec
  by_cases large : maxFrameLen < f.bytes.length
  · rw [if_pos large]
    exact iff_of_false (fun h => by cases h) (Nat.not_le_of_lt large)
  · rw [if_neg large]
    exact iff_of_true rfl (Nat.le_of_not_lt large)

/-- Frame by frame, each read takes its own bytes and gives its own frame. -/
def ReadsBack (fs : List Frame) (encodings : List (List UInt8)) (rest : List UInt8)
    (closing : IoError) : Prop :=
  ∀ k ≤ fs.length, Reader.calls decode k ⟨encodings.flatten ++ rest, closing⟩ =
    ((fs.take k).map .ok, ⟨(encodings.drop k).flatten ++ rest, closing⟩)

theorem readsBack_cons {f : Frame} {fs : List Frame} {bs : List UInt8} {encodings : List (List UInt8)}
    {rest : List UInt8} {closing : IoError} :
    ReadsBack (f :: fs) (bs :: encodings) rest closing ↔
      decode.run ⟨bs ++ (encodings.flatten ++ rest), closing⟩ =
        (.ok f, ⟨encodings.flatten ++ rest, closing⟩) ∧ ReadsBack fs encodings rest closing := by
  constructor
  · intro reads
    have first := reads 1 (Nat.succ_le_succ (Nat.zero_le _))
    have run : decode.run ⟨bs ++ (encodings.flatten ++ rest), closing⟩ =
        (.ok f, ⟨encodings.flatten ++ rest, closing⟩) := by
      simpa [Reader.calls, Prod.ext_iff] using first
    refine ⟨run, fun k within => ?_⟩
    have next := reads (k + 1) (Nat.succ_le_succ within)
    simpa [Reader.calls, run, Prod.ext_iff] using next
  · rintro ⟨run, reads⟩ k within
    cases k with
    | zero => rfl
    | succ k =>
      have next := reads k (Nat.le_of_succ_le_succ within)
      simp [Reader.calls, run, next]

/-- Streams are read back exactly when the checked constructor takes each of their frames, and what is read
would go out again as it came in. -/
theorem stream_read_back_iff {fs : List Frame} {encodings : List (List UInt8)}
    (encoded : List.Forall₂ (fun f bs => f.encode = .ok bs) fs encodings) (rest : List UInt8)
    (closing : IoError) :
    (ReadsBack fs encodings rest closing ↔ ∀ f ∈ fs, tryFromVec f.bytes = .ok f) ∧
    ∀ (r r' : Reader IoError) (f : Frame), decode.run r = (.ok f, r') →
      ∃ bs, f.encode = .ok bs ∧ r = ⟨bs ++ r'.bytes, r'.closing⟩ := by
  constructor
  · induction encoded with
    | nil =>
      refine iff_of_true (fun k within => ?_) fun f member => absurd member List.not_mem_nil
      cases Nat.le_zero.mp within
      rfl
    | @cons f bs fs encodings first others ih =>
      rw [readsBack_cons, List.forall_mem_cons, tryFromVec_eq_ok]
      refine and_congr ?_ ih
      constructor
      · intro run
        by_contra large
        rw [decode_oversized first (Nat.lt_of_not_le large)] at run
        cases congrArg Prod.fst run
      · intro within
        obtain ⟨-, rfl⟩ := encode_eq_ok.mp first
        exact decode_reads.takes f within _ closing
  · intro r r' f run
    obtain ⟨within, same⟩ := decode_reads.took run
    exact ⟨f.wire, encode_eq_ok.mpr ⟨Nat.lt_of_le_of_lt within (by decide), rfl⟩, same⟩

/-- A frame and the end of the stream. -/
theorem ping_read_back :
    ReadsBack [⟨[112, 105, 110, 103]⟩, emptyMarker] [[0, 0, 0, 4, 112, 105, 110, 103], [0, 0, 0, 0]] [7]
      ⟨.unexpectedEof, ""⟩ :=
  (stream_read_back_iff (.cons (by decide) (.cons (by decide) .nil)) [7] ⟨.unexpectedEof, ""⟩).1.mpr
    (by decide)

def oversized : Frame := { bytes := List.replicate (maxFrameLen + 1) 0 }

theorem oversized_refused :
    oversized.encode = .ok oversized.wire ∧
      decode.run ⟨oversized.wire, ⟨.unexpectedEof, ""⟩⟩ =
        (.err (exceedsCap (maxFrameLen + 1)), ⟨oversized.bytes, ⟨.unexpectedEof, ""⟩⟩) := by
  have length : oversized.bytes.length = maxFrameLen + 1 := List.length_replicate
  have encoded : oversized.encode = .ok oversized.wire :=
    encode_eq_ok.mpr ⟨by rw [length]; decide, rfl⟩
  have refused := decode_oversized encoded (by rw [length]; exact Nat.lt_succ_self _) []
    ⟨.unexpectedEof, ""⟩
  rw [List.append_nil, List.append_nil, length] at refused
  exact ⟨encoded, refused⟩

end Frame

end HidConnect.Protocol
