import HidConnect.Kernel.Observation
import HidConnect.Kernel.Request

/-! The daemon's reader against the frame decoder: both take the same requests off the front of the
same bytes. -/
namespace HidConnect
open Fallible

/-- The payloads of requests. What an action and a plan are, only postcard asks. -/
inductive RequestPayload (α π : Type) where
  | action (id : UInt64) (action : α)
  | plan (id : UInt64) (plan : π)
  | observe (sinceSeq : UInt64) (filter : List Kernel.EventKind)
  | query (a11y frame state : Bool)
  | endOfStream
  deriving DecidableEq

def RequestPayload.verb {α π : Type} : RequestPayload α π → Verb
  | action _ _ => .action
  | plan _ _ => .plan
  | observe _ _ => .observe
  | query _ _ _ => .query
  | endOfStream => .endOfStream

/-- `toAllocvec` is `postcard::to_allocvec`. -/
def Frame.request {α π : Type} (toAllocvec : RequestPayload α π → List UInt8)
    (payload : RequestPayload α π) : Frame :=
  { verb := payload.verb, flags := ⟨0⟩, payload := toAllocvec payload }

/-- The first `n` bytes are a known verb, flags, a length of at most ten bytes, and a payload of this
length. -/
def Carries (bytes : List UInt8) (n : Nat) (payload : List UInt8) : Prop :=
  ∃ verb : Verb, ∃ flags len rest, bytes = verb.byte :: flags :: (len ++ (payload ++ rest)) ∧
    Varint.scan len = some len.length ∧ len.length ≤ 10 ∧
    Varint.number len % 2 ^ 64 = payload.length ∧ n = 2 + (len.length + payload.length)

theorem take_frame (b c : UInt8) (len payload rest : List UInt8) :
    (b :: c :: (len ++ (payload ++ rest))).take (2 + (len.length + payload.length)) =
      b :: c :: (len ++ payload) := by
  rw [← List.append_assoc, ← List.length_append, Nat.add_comm 2, List.take_succ_cons,
    List.take_succ_cons, List.take_left]

theorem drop_frame (b c : UInt8) (len payload rest : List UInt8) :
    (b :: c :: (len ++ (payload ++ rest))).drop (2 + (len.length + payload.length)) = rest := by
  rw [← List.append_assoc, ← List.length_append, Nat.add_comm 2, List.drop_succ_cons,
    List.drop_succ_cons, List.drop_left]

theorem Carries.declares {bytes payload : List UInt8} {n : Nat} (carries : Carries bytes n payload) :
    ∃ h m, Frame.Declares bytes h m ∧ h ≤ 10 ∧ m % 2 ^ 64 = payload.length := by
  obtain ⟨verb, flags, len, rest, rfl, ends, turns, size, rfl⟩ := carries
  have scanned := Varint.scan_append ends (payload ++ rest)
  exact ⟨len.length, Varint.number len,
    ⟨verb, flags, _, rfl, scanned, by rw [List.take_left]⟩, turns, size⟩

theorem Carries.fits {bytes payload : List UInt8} {n : Nat} (carries : Carries bytes n payload)
    (fits : AllocationFits bytes) : payload.length ≤ isizeMax := by
  obtain ⟨h, m, declared, turns, size⟩ := carries.declares
  rw [← size]
  exact fits h m declared turns

theorem Carries.inside {bytes payload : List UInt8} {n : Nat} (carries : Carries bytes n payload) :
    n ≤ bytes.length := by
  obtain ⟨verb, flags, len, rest, rfl, -, -, -, rfl⟩ := carries
  simp only [List.length_cons, List.length_append]
  omega

theorem Carries.append {bytes payload : List UInt8} {n : Nat} (carries : Carries bytes n payload)
    (more : List UInt8) : Carries (bytes ++ more) n payload := by
  obtain ⟨verb, flags, len, rest, rfl, carried⟩ := carries
  exact ⟨verb, flags, len, rest ++ more, by simp, carried⟩

theorem carries_of_header (verb : Verb) (flags : UInt8) {rest : List UInt8} {h : Nat}
    (scanned : Varint.scan rest = some h) (turns : h ≤ 10)
    (enough : Varint.number (rest.take h) % 2 ^ 64 ≤ (rest.drop h).length) :
    Carries (verb.byte :: flags :: rest) (2 + (h + Varint.number (rest.take h) % 2 ^ 64))
      ((rest.drop h).take (Varint.number (rest.take h) % 2 ^ 64)) := by
  have length : (rest.take h).length = h := List.length_take_of_le (Varint.scan_le scanned)
  refine ⟨verb, flags, rest.take h,
    (rest.drop h).drop (Varint.number (rest.take h) % 2 ^ 64), ?_, Varint.scan_take_self scanned, ?_,
    ?_, ?_⟩
  · rw [List.take_append_drop, List.take_append_drop]
  · rwa [length]
  · rw [List.length_take_of_le enough]
  · rw [length, List.length_take_of_le enough]

section
variable {ρ : Type} {fromBytes : List UInt8 → Outcome String ρ}

theorem decodeRequest_eq_ok {payload : List UInt8} {r : ρ} {reader reader' : Reader IoError} :
    (decodeRequest fromBytes payload).run reader = (.ok r, reader') ↔
      fromBytes payload = .ok r ∧ reader' = reader := by
  unfold decodeRequest
  cases fromBytes payload with
  | ok request =>
    rw [Outcome.ok.injEq]
    exact ⟨fun run => ⟨Outcome.ok.inj (congrArg Prod.fst run), (congrArg Prod.snd run).symm⟩,
      fun ⟨same, unread⟩ => by rw [same, unread]; rfl⟩
  | err e => exact iff_of_false (fun run => by cases congrArg Prod.fst run) fun h => by cases h.1
  | panic => exact iff_of_false (fun run => by cases congrArg Prod.fst run) fun h => by cases h.1

theorem readPayload_eq_ok {size : Nat} {bytes : List UInt8} {closing : IoError} {r : ρ}
    {reader : Reader IoError} :
    (readPayload size >>= decodeRequest fromBytes).run ⟨bytes, closing⟩ = (.ok r, reader) ↔
      size ≤ isizeMax ∧ size ≤ bytes.length ∧ fromBytes (bytes.take size) = .ok r ∧
        reader = ⟨bytes.drop size, closing⟩ := by
  rw [readPayload]
  by_cases exceeds : size > isizeMax
  · rw [if_pos exceeds, Method.run_bind_panic (Method.run_crash _)]
    exact iff_of_false (fun run => by cases congrArg Prod.fst run)
      fun h => Nat.not_le_of_lt exceeds h.1
  · rw [if_neg exceeds]
    by_cases enough : size ≤ bytes.length
    · have read : (Reader.readExact size).run ⟨bytes, closing⟩ =
          (.ok (bytes.take size), ⟨bytes.drop size, closing⟩) := by
        simp [Reader.readExact, enough]
      rw [Method.run_bind_ok read, decodeRequest_eq_ok]
      exact ⟨fun h => ⟨Nat.le_of_not_lt exceeds, enough, h⟩, fun h => h.2.2⟩
    · rw [Method.run_bind_err (Reader.readExact_short (Nat.lt_of_not_le enough) closing)]
      exact iff_of_false (fun run => by cases congrArg Prod.fst run) fun h => enough h.2.1

/-- A stream that carries a payload gives its request, and nothing behind it is read. -/
theorem readRequest_carries {bytes payload : List UInt8} {n : Nat} {r : ρ}
    (carries : Carries bytes n payload) (fits : payload.length ≤ isizeMax)
    (decoded : fromBytes payload = .ok r) (closing : IoError) :
    (readRequest fromBytes).run ⟨bytes, closing⟩ = (.ok r, ⟨bytes.drop n, closing⟩) := by
  obtain ⟨verb, flags, len, rest, rfl, ends, turns, size, rfl⟩ := carries
  rw [readRequest_declared verb flags (Varint.scan_append ends _) turns, List.take_left,
    List.drop_left, size]
  refine readPayload_eq_ok.mpr ⟨fits, by simp, by rwa [List.take_left], ?_⟩
  rw [List.drop_left, drop_frame]

theorem carries_of_readRequest {bytes : List UInt8} {closing : IoError} {n : Nat} {r : ρ}
    (read : (readRequest fromBytes).run ⟨bytes, closing⟩ = (.ok r, ⟨bytes.drop n, closing⟩))
    (inside : n ≤ bytes.length) : ∃ payload, Carries bytes n payload ∧ fromBytes payload = .ok r := by
  rcases Frame.declared_cases bytes with
    undeclared | ⟨verb, flags, rest, h, rfl, scanned, turns⟩
  · obtain ⟨e, reader, refused⟩ :
        ∃ e reader, (readRequest fromBytes).run ⟨bytes, closing⟩ = (.err e, reader) :=
      readRequest_refuses undeclared closing
    rw [refused] at read
    cases congrArg Prod.fst read
  · rw [readRequest_declared verb flags scanned turns] at read
    obtain ⟨-, enough, decoded, unread⟩ := readPayload_eq_ok.mp read
    refine ⟨_, ?_, decoded⟩
    have carries := carries_of_header verb flags scanned turns enough
    -- how much is left of the stream says how much was taken
    have left := congrArg (fun reader => reader.bytes.length) unread
    have most := carries.inside
    have taken : n = 2 + (h + Varint.number (rest.take h) % 2 ^ 64) := by
      simp only [List.length_drop, List.length_cons] at left inside most
      omega
    rwa [taken]

end

namespace Frame

theorem decode_carries {bytes payload : List UInt8} {n : Nat} (carries : Carries bytes n payload)
    (fits : payload.length ≤ isizeMax) :
    ∃ f, decode (bytes.take n) = .ok (some f) ∧ f.payload = payload ∧
      ∃ value h, decodeVarint ((bytes.take n).drop 2) = some (value, h) ∧
        2 + h + f.payload.length = n := by
  obtain ⟨verb, flags, len, rest, rfl, ends, turns, size, rfl⟩ := carries
  have scanned := Varint.scan_append ends payload
  have value : decodeVarint (len ++ payload) = some (.ofNat (Varint.number len), len.length) := by
    refine decodeVarint_eq_some_iff.mpr ⟨scanned, turns, ?_⟩
    rw [List.take_left]
  unfold isizeMax at fits
  rw [take_frame]
  refine ⟨⟨verb, ⟨flags⟩, payload⟩, ?_, rfl, _, len.length, value, Nat.add_assoc _ _ _⟩
  rw [decode_header verb flags scanned turns, List.take_left, List.drop_left, size]
  dsimp only
  rw [List.take_length, if_neg (by omega), if_neg (by simp only [List.length_append]; omega)]

theorem encode_carries {f : Frame} (holds : f.Holds) (rest : List UInt8) :
    Carries (f.encode ++ rest) f.encode.length f.payload := by
  obtain ⟨⟨ends, spells⟩, turns⟩ := spells_len holds
  unfold Holds isizeMax at holds
  refine ⟨f.verb, f.flags.bits, encodeVarint f.len, rest, ?_, ends, turns, ?_, ?_⟩
  · rw [encode, List.cons_append, List.cons_append, List.append_assoc]
  · rw [spells, Nat.mod_eq_of_lt (by omega)]
  · rw [encode, List.length_cons, List.length_cons, List.length_append, Nat.add_comm 2]

theorem carries_of_decode {bytes : List UInt8} {n : Nat} {f : Frame}
    (decoded : decode (bytes.take n) = .ok (some f)) {value : UInt64} {h : Nat}
    (length : decodeVarint ((bytes.take n).drop 2) = some (value, h))
    (whole : 2 + h + f.payload.length = n) : Carries bytes n f.payload := by
  rw [← List.take_append_drop n bytes]
  apply Carries.append
  rcases decode_cases (bytes.take n) with
    ⟨none, -⟩ | ⟨verb, flags, rest, h', taken, scanned, turns⟩
  · rw [none] at decoded
    cases decoded
  · rw [taken] at decoded length ⊢
    obtain ⟨scanned', -⟩ := decodeVarint_eq_some_iff.mp length
    obtain rfl : h' = h := Option.some_inj.mp (scanned.symm.trans scanned')
    rw [decode_header verb flags scanned turns] at decoded
    dsimp only at decoded
    have positive := Varint.scan_le scanned
    split at decoded
    · cases decoded
    · split at decoded
      · cases decoded
      · rename_i enough
        obtain ⟨⟩ := decoded
        have room : Varint.number (rest.take h') % 2 ^ 64 ≤ (rest.drop h').length := by
          rw [List.length_drop]
          omega
        have carries := carries_of_header verb flags scanned turns room
        rw [List.length_take_of_le room, Nat.add_assoc] at whole
        rwa [whole] at carries

end Frame

/-- The reader takes a request off the front of a stream exactly where the decoder finds its frame
in as many bytes, and it reads back the frame of a request and nothing else. -/
theorem reader_agrees_with_decode {α π : Type}
    (fromBytes : List UInt8 → Outcome String (RequestPayload α π))
    (toAllocvec : RequestPayload α π → List UInt8) :
    (∀ bytes closing n r, AllocationFits bytes →
      ((readRequest fromBytes).run ⟨bytes, closing⟩ = (.ok r, ⟨bytes.drop n, closing⟩) ∧
          n ≤ bytes.length ↔
        ∃ f, Frame.decode (bytes.take n) = .ok (some f) ∧
          (∃ len h, decodeVarint ((bytes.take n).drop 2) = some (len, h) ∧
            2 + h + f.payload.length = n) ∧ fromBytes f.payload = .ok r)) ∧
    ∀ p rest closing, fromBytes (toAllocvec p) = .ok p → (Frame.request toAllocvec p).Holds →
      (readRequest fromBytes).run ⟨(Frame.request toAllocvec p).encode ++ rest, closing⟩ =
        (.ok p, ⟨rest, closing⟩) := by
  constructor
  · intro bytes closing n r fits
    constructor
    · rintro ⟨read, inside⟩
      obtain ⟨payload, carries, decoded⟩ := carries_of_readRequest read inside
      obtain ⟨f, found, rfl, length⟩ := Frame.decode_carries carries (carries.fits fits)
      exact ⟨f, found, length, decoded⟩
    · rintro ⟨f, found, ⟨len, h, length, whole⟩, decoded⟩
      have carries := Frame.carries_of_decode found length whole
      exact ⟨readRequest_carries carries (carries.fits fits) decoded closing, carries.inside⟩
  · intro p rest closing trips holds
    have carries := Frame.encode_carries holds rest
    have read := readRequest_carries carries holds trips closing
    rwa [List.drop_left] at read

/-- Postcard on a query: the number of the variant, and a byte for each flag. -/
def queryToVec : RequestPayload Unit Unit → List UInt8
  | .query a11y frame state => 3 :: [a11y, frame, state].map fun flag => if flag then 1 else 0
  | _ => []

def queryFromBytes : List UInt8 → Outcome String (RequestPayload Unit Unit)
  | [3, a11y, frame, state] => .ok (.query (a11y == 1) (frame == 1) (state == 1))
  | _ => .err "Hit the end of buffer, expected more data"

/-- The length of a query in two bytes where one would do, and the query as it is encoded. -/
theorem reader_agrees_on_query :
    (readRequest queryFromBytes).run ⟨[0x04, 0, 0x84, 0, 3, 1, 0, 1, 0x05], closedSocket⟩ =
        (.ok (.query true false true), ⟨[0x05], closedSocket⟩) ∧
    (readRequest queryFromBytes).run
        ⟨(Frame.request queryToVec (.query true false true)).encode ++ [0x05], closedSocket⟩ =
        (.ok (.query true false true), ⟨[0x05], closedSocket⟩) := by
  obtain ⟨agrees, encoded⟩ := reader_agrees_with_decode queryFromBytes queryToVec
  constructor
  · have fits : AllocationFits [0x04, 0, 0x84, 0, 3, 1, 0, 1, 0x05] := by
      intro h n declared _
      obtain ⟨rfl, rfl⟩ := declared.unique ⟨.query, 0, _, rfl, rfl, rfl⟩
      decide
    have read := (agrees _ closedSocket 8 (.query true false true) fits).mpr
      ⟨⟨.query, ⟨0⟩, [3, 1, 0, 1]⟩, by decide, ⟨4, 2, by decide, rfl⟩, rfl⟩
    exact read.1
  · exact encoded _ [0x05] closedSocket rfl (by unfold Frame.Holds isizeMax; decide)

end HidConnect
