import HidConnect.Kernel.Frames
import HidConnect.Library.Reader

/-! The daemon's reader of requests. -/
namespace HidConnect
open Fallible

/-- The length varint byte by byte into `len_buf`, which has room for so many more. -/
def readLen : Nat → List UInt8 → Reading IoError UInt64
  | 0, _ => .crash
  | room + 1, lenBuf => do
    let one ← Reader.readExact 1
    match decodeVarint (lenBuf ++ one) with
    | some (value, _) => pure value
    | none =>
      if (lenBuf ++ one).length ≥ 10 then .fail (IoError.invalidData "varint > 10 B")
      else readLen room (lenBuf ++ one)

/-- `vec![0u8; payload_len]`, which is then filled. -/
def readPayload (payloadLen : Nat) : Reading IoError (List UInt8) :=
  if payloadLen > isizeMax then .crash else Reader.readExact payloadLen

/-- `fromBytes` is `postcard::from_bytes`. -/
def decodeRequest {ρ : Type} (fromBytes : List UInt8 → Outcome String ρ) (payload : List UInt8) :
    Reading IoError ρ :=
  match fromBytes payload with
  | .ok request => pure request
  | .err e => .fail (IoError.invalidData e)
  | .panic => .crash

def readRequest {ρ : Type} (fromBytes : List UInt8 → Outcome String ρ) : Reading IoError ρ := do
  let header ← Reader.readExact 2
  if (header.head?.bind Verb.fromByte).isNone then .fail (IoError.invalidData "unknown verb")
  let payloadLen ← readLen 10 []
  let payload ← readPayload payloadLen.toNat
  decodeRequest fromBytes payload

/- What the loop over the length makes of a stream. -/

theorem readLen_turn (room : Nat) (lenBuf : List UInt8) (b : UInt8) (rest : List UInt8)
    (closing : IoError) :
    (readLen (room + 1) lenBuf).run ⟨b :: rest, closing⟩ =
      (match decodeVarint (lenBuf ++ [b]) with
        | some (value, _) => pure value
        | none =>
          if (lenBuf ++ [b]).length ≥ 10 then .fail (IoError.invalidData "varint > 10 B")
          else readLen room (lenBuf ++ [b]) : Reading IoError UInt64).run ⟨rest, closing⟩ := by
  have one : (Reader.readExact 1 : Reading IoError _).run ⟨b :: rest, closing⟩ =
      (.ok [b], ⟨rest, closing⟩) := Reader.readExact_append [b] rest closing
  rw [readLen, Method.run_bind_ok one]

/-- The bytes that are there go on, and there is room for the rest of ten. -/
structure Filling (room : Nat) (lenBuf : List UInt8) : Prop where
  goesOn : Varint.scan lenBuf = none
  room : lenBuf.length + room = 10

theorem Filling.turn {room : Nat} {lenBuf : List UInt8} (h : Filling (room + 1) lenBuf) {b : UInt8}
    (cont : Varint.continues b = true) : Filling room (lenBuf ++ [b]) := by
  refine ⟨?_, by rw [List.length_append, List.length_singleton]; have := h.room; omega⟩
  rw [Varint.scan_open h.goesOn, Varint.scan, if_pos cont]
  rfl

theorem readLen_ends {rest : List UInt8} {h : Nat} (scanned : Varint.scan rest = some h)
    {room : Nat} {lenBuf : List UInt8} (filling : Filling room lenBuf) (fits : h ≤ room)
    (closing : IoError) :
    (readLen room lenBuf).run ⟨rest, closing⟩ =
      (.ok (.ofNat (Varint.number (lenBuf ++ rest.take h))), ⟨rest.drop h, closing⟩) := by
  induction rest generalizing h room lenBuf with
  | nil => cases scanned
  | cons b rest ih =>
    have positive := Varint.scan_pos scanned
    obtain ⟨room, rfl⟩ := Nat.exists_eq_succ_of_ne_zero (show room ≠ 0 by omega)
    have taken := filling.room
    rw [readLen_turn, decodeVarint_eq, Varint.scan_open filling.goesOn]
    rw [Varint.scan] at scanned ⊢
    split at scanned
    · rename_i cont
      obtain ⟨k, inner, rfl⟩ := Option.map_eq_some_iff.mp scanned
      have more := Varint.scan_pos inner
      rw [if_pos cont]
      simp only [Varint.scan, Option.map_none]
      rw [if_neg (by rw [List.length_append, List.length_singleton]; omega),
        ih inner (filling.turn cont) (by omega), List.append_assoc]
      rfl
    · rename_i last
      cases scanned
      have all : (lenBuf ++ [b]).length ≤ 1 + lenBuf.length :=
        Nat.le_of_eq (by rw [List.length_append, List.length_singleton, Nat.add_comm])
      rw [if_neg last]
      simp only [Option.map_some]
      rw [if_pos (by omega), List.take_of_length_le all]
      rfl

theorem readLen_stops {rest : List UInt8} {room : Nat} (unended : ∀ h, Varint.scan rest = some h → room < h)
    {lenBuf : List UInt8} (filling : Filling room lenBuf) (positive : 0 < room) (closing : IoError) :
    ∃ e r, (readLen room lenBuf).run ⟨rest, closing⟩ = (.err e, r) := by
  induction rest generalizing room lenBuf with
  | nil =>
    obtain ⟨room, rfl⟩ := Nat.exists_eq_succ_of_ne_zero (show room ≠ 0 by omega)
    refine ⟨closing, ⟨[], closing⟩, ?_⟩
    rw [readLen, Method.run_bind_err (Reader.readExact_short (by decide) closing)]
  | cons b rest ih =>
    obtain ⟨room, rfl⟩ := Nat.exists_eq_succ_of_ne_zero (show room ≠ 0 by omega)
    have taken := filling.room
    rw [readLen_turn, decodeVarint_eq, Varint.scan_open filling.goesOn]
    by_cases cont : Varint.continues b = true
    · have later : ∀ h, Varint.scan rest = some h → room < h := by
        intro h inner
        have whole : Varint.scan (b :: rest) = some (h + 1) := by
          rw [Varint.scan, if_pos cont, inner]
          rfl
        exact Nat.lt_of_succ_lt_succ (unended _ whole)
      simp only [Varint.scan, if_pos cont, Option.map_none]
      split
      · exact ⟨_, _, rfl⟩
      · rename_i notFull
        rw [List.length_append, List.length_singleton] at notFull
        exact ih later (filling.turn cont) (by omega)
    · have whole : Varint.scan (b :: rest) = some 1 := by rw [Varint.scan, if_neg cont]
      have := unended 1 whole
      omega

/-- A length varint behind a known verb and of at most ten bytes asks for no more than an allocation
can hold, as far as a `usize` holds it. -/
def AllocationFits (bytes : List UInt8) : Prop :=
  ∀ h n, Frame.Declares bytes h n → h ≤ 10 → n % 2 ^ 64 ≤ isizeMax

section
variable {ρ : Type} {fromBytes : List UInt8 → Outcome String ρ}

theorem neverPanics_decodeRequest (calm : ∀ payload, (fromBytes payload).isPanic = false)
    (payload : List UInt8) : Method.NeverPanics (decodeRequest fromBytes payload) := by
  have result := calm payload
  intro r
  unfold decodeRequest
  cases h : fromBytes payload with
  | ok request => rfl
  | err e => rfl
  | panic => rw [h] at result; contradiction

theorem readPayload_calm_iff (calm : ∀ payload, (fromBytes payload).isPanic = false) (size : Nat)
    (r : Reader IoError) :
    ((readPayload size >>= decodeRequest fromBytes).run r).1.isPanic = false ↔ size ≤ isizeMax := by
  rw [readPayload]
  split
  · rename_i exceeds
    exact iff_of_false (by simp) (Nat.not_le_of_lt exceeds)
  · rename_i fits
    exact iff_of_true (((Reader.neverPanics_readExact size).bind
      fun payload => neverPanics_decodeRequest calm payload) r) (Nat.le_of_not_lt fits)

theorem readRequest_verb (verb : Verb) (flags : UInt8) (rest : List UInt8) (closing : IoError) :
    (readRequest fromBytes).run ⟨verb.byte :: flags :: rest, closing⟩ =
      (readLen 10 [] >>= fun payloadLen =>
        readPayload payloadLen.toNat >>= decodeRequest fromBytes).run ⟨rest, closing⟩ := by
  have two : (Reader.readExact 2 : Reading IoError _).run ⟨verb.byte :: flags :: rest, closing⟩ =
      (.ok [verb.byte, flags], ⟨rest, closing⟩) :=
    Reader.readExact_append [verb.byte, flags] rest closing
  have known : Verb.fromByte verb.byte = some verb := Verb.fromByte_eq_some.mpr rfl
  rw [readRequest, Method.run_bind_ok two]
  simp only [List.head?_cons, Option.bind_some, known, Option.isNone_some, Bool.false_eq_true, if_false]

theorem readRequest_unknown {verbByte : UInt8} (unknown : Verb.fromByte verbByte = none)
    (flags : UInt8) (rest : List UInt8) (closing : IoError) :
    (readRequest fromBytes).run ⟨verbByte :: flags :: rest, closing⟩ =
      (.err (IoError.invalidData "unknown verb"), ⟨rest, closing⟩) := by
  have two : (Reader.readExact 2 : Reading IoError _).run ⟨verbByte :: flags :: rest, closing⟩ =
      (.ok [verbByte, flags], ⟨rest, closing⟩) :=
    Reader.readExact_append [verbByte, flags] rest closing
  rw [readRequest, Method.run_bind_ok two]
  simp [unknown]

theorem readRequest_declared (verb : Verb) (flags : UInt8) {rest : List UInt8} {h : Nat}
    (scanned : Varint.scan rest = some h) (turns : h ≤ 10) (closing : IoError) :
    (readRequest fromBytes).run ⟨verb.byte :: flags :: rest, closing⟩ =
      (readPayload (Varint.number (rest.take h) % 2 ^ 64) >>= decodeRequest fromBytes).run
        ⟨rest.drop h, closing⟩ := by
  have filling : Filling 10 [] := ⟨rfl, rfl⟩
  rw [readRequest_verb, Method.run_bind_ok (readLen_ends scanned filling turns closing),
    UInt64.toNat_ofNat', List.nil_append]

/-- Without a known verb and a length of at most ten bytes there is no request. -/
theorem readRequest_refuses {bytes : List UInt8}
    (undeclared : ∀ h n, Frame.Declares bytes h n → 10 < h) (closing : IoError) :
    ∃ e r, (readRequest fromBytes).run ⟨bytes, closing⟩ = (.err e, r) := by
  by_cases short : bytes.length < 2
  · exact ⟨_, _, by rw [readRequest, Method.run_bind_err (Reader.readExact_short short closing)]⟩
  · obtain ⟨verbByte, flags, rest, rfl⟩ : ∃ b c rest, bytes = b :: c :: rest := by
      rcases bytes with _ | ⟨b, _ | ⟨c, rest⟩⟩ <;> simp at short ⊢
    cases known : Verb.fromByte verbByte with
    | none => exact ⟨_, _, readRequest_unknown known flags rest closing⟩
    | some verb =>
      obtain rfl := Verb.fromByte_eq_some.mp known
      have unended : ∀ h, Varint.scan rest = some h → 10 < h := by
        intro h scanned
        exact undeclared h _ ⟨verb, flags, rest, rfl, scanned, rfl⟩
      have filling : Filling 10 [] := ⟨rfl, rfl⟩
      obtain ⟨e, r, run⟩ := readLen_stops unended filling (by decide) closing
      exact ⟨e, r, by rw [readRequest_verb, Method.run_bind_err run]⟩

theorem readRequest_calm_iff (calm : ∀ payload, (fromBytes payload).isPanic = false)
    (bytes : List UInt8) (closing : IoError) :
    ((readRequest fromBytes).run ⟨bytes, closing⟩).1.isPanic = false ↔ AllocationFits bytes := by
  rcases Frame.declared_cases bytes with
    undeclared | ⟨verb, flags, rest, h, rfl, scanned, turns⟩
  · obtain ⟨e, r, run⟩ := readRequest_refuses undeclared closing
    refine iff_of_true (by rw [run]; rfl) fun h n declared turns => ?_
    have := undeclared h n declared
    omega
  · have declared : Frame.Declares (verb.byte :: flags :: rest) h (Varint.number (rest.take h)) :=
      ⟨verb, flags, rest, rfl, scanned, rfl⟩
    rw [readRequest_declared verb flags scanned turns, readPayload_calm_iff calm]
    constructor
    · intro fits h' n' declared' _
      obtain ⟨rfl, rfl⟩ := declared.unique declared'
      exact fits
    · exact fun fits => fits h _ declared turns

/-- Decoding a buffer is safe exactly if the declared length fits, and reading a request from a
stream exactly if its allocation does. -/
theorem wire_reads_safely (calm : ∀ payload, (fromBytes payload).isPanic = false) :
    (∀ buf, Frame.DecodesSafely buf ↔ Frame.LengthFits buf) ∧
    ∀ bytes closing,
      ((readRequest fromBytes).run ⟨bytes, closing⟩).1.isPanic = false ↔ AllocationFits bytes :=
  ⟨Frame.decodesSafely_iff, readRequest_calm_iff calm⟩

end

def endOfStreamOnly (payload : List UInt8) : Outcome String Verb :=
  if payload = [4] then .ok .endOfStream else .err "Hit the end of buffer, expected more data"

def closedSocket : IoError := { kind := .unexpectedEof, message := "failed to fill whole buffer" }

theorem wire_reads_safely_end :
    ((readRequest endOfStreamOnly).run ⟨[0x05, 0, 1, 4], closedSocket⟩).1.isPanic = false := by
  have calm (payload : List UInt8) : (endOfStreamOnly payload).isPanic = false := by
    unfold endOfStreamOnly
    split <;> rfl
  refine ((wire_reads_safely calm).2 [0x05, 0, 1, 4] closedSocket).mpr ?_
  intro h n declared _
  obtain ⟨rfl, rfl⟩ := declared.unique ⟨.endOfStream, 0, [1, 4], rfl, rfl, rfl⟩
  decide

/-- The largest length in ten bytes: the size of the frame overflows, and the allocation of a request
panics. A length of `2 ^ 64` is taken for zero. -/
theorem largest_length_panics :
    Frame.decode [0x01, 0, 0xFF, 0xFF, 0xFF, 0xFF, 0xFF, 0xFF, 0xFF, 0xFF, 0xFF, 0x01] = .panic ∧
    ((readRequest endOfStreamOnly).run ⟨[0x01, 0, 0xFF, 0xFF, 0xFF, 0xFF, 0xFF, 0xFF, 0xFF, 0xFF, 0xFF,
      0x01], closedSocket⟩).1.isPanic = true ∧
    Frame.decode [0x01, 0, 0x80, 0x80, 0x80, 0x80, 0x80, 0x80, 0x80, 0x80, 0x80, 0x02] =
      .ok (some ⟨.action, ⟨0⟩, []⟩) := by
  decide +kernel

end HidConnect
