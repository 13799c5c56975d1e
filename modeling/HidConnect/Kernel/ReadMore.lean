import HidConnect.Kernel.Frames

/-! Buffers that decode to nothing yet, and those that never will. -/
namespace HidConnect
open Fallible

namespace Frame

/-- The length varint, ended or still open, takes at most ten bytes and leaves a frame that a slice
can hold. -/
def SizeHolds (rest : List UInt8) : Prop :=
  match Varint.scan rest with
  | some h => h ≤ 10 ∧ 2 + h + Varint.number (rest.take h) % 2 ^ 64 ≤ isizeMax
  | none => rest.length < 10 ∧ 2 + (rest.length + 1) + Varint.number rest ≤ isizeMax

/-- No malformed header. -/
def Continuable (buf : List UInt8) : Prop :=
  (∀ byte ∈ buf.head?, (Verb.fromByte byte).isSome = true) ∧ SizeHolds (buf.drop 2)

/-- More bytes, within the size of a slice, make a frame of the buffer. -/
def Completes (buf : List UInt8) : Prop :=
  ∃ more f, (buf ++ more).length ≤ isizeMax ∧ decode (buf ++ more) = .ok (some f)

theorem of_decode {buf : List UInt8} {f : Frame} (decoded : decode buf = .ok (some f)) :
    ∃ verb : Verb, ∃ flags rest h, buf = verb.byte :: flags :: rest ∧ Varint.scan rest = some h ∧
      h ≤ 10 ∧ 2 + h + Varint.number (rest.take h) % 2 ^ 64 ≤ buf.length := by
  rcases decode_cases buf with ⟨none, -⟩ | ⟨verb, flags, rest, h, rfl, scanned, turns⟩
  · rw [none] at decoded
    cases decoded
  · refine ⟨verb, flags, rest, h, rfl, scanned, turns, ?_⟩
    rw [decode_header verb flags scanned turns] at decoded
    dsimp only at decoded
    split_ifs at decoded with wraps short
    · cases decoded
    · rw [List.length_cons, List.length_cons]
      omega

theorem number_le_of_open {bs : List UInt8} (few : bs.length ≤ 9) (cs : List UInt8) :
    Varint.number bs ≤ Varint.number (bs ++ cs) % 2 ^ 64 := by
  have small := Varint.number_lt bs
  have weight : (128 : Nat) ^ bs.length ∣ 2 ^ 64 := by
    have base : (128 : Nat) = 2 ^ 7 := rfl
    rw [base, ← Nat.pow_mul]
    exact Nat.pow_dvd_pow 2 (by omega)
  calc Varint.number bs = Varint.number (bs ++ cs) % 128 ^ bs.length := by
        rw [Varint.number_append, Nat.add_mul_mod_self_left, Nat.mod_eq_of_lt small]
    _ = Varint.number (bs ++ cs) % 2 ^ 64 % 128 ^ bs.length := (Nat.mod_mod_of_dvd _ weight).symm
    _ ≤ Varint.number (bs ++ cs) % 2 ^ 64 := Nat.mod_le _ _

theorem sizeHolds_ended {rest : List UInt8} {h : Nat} (ended : Varint.scan rest = some h) :
    SizeHolds rest ↔ h ≤ 10 ∧ 2 + h + Varint.number (rest.take h) % 2 ^ 64 ≤ isizeMax := by
  rw [SizeHolds, ended]

theorem sizeHolds_open {rest : List UInt8} (ended : Varint.scan rest = none) :
    SizeHolds rest ↔ rest.length < 10 ∧ 2 + (rest.length + 1) + Varint.number rest ≤ isizeMax := by
  rw [SizeHolds, ended]

theorem sizeHolds_nil : SizeHolds [] := by
  rw [sizeHolds_open rfl]
  decide

theorem continuable_of_completes {buf : List UInt8} (completes : Completes buf) :
    Continuable buf := by
  obtain ⟨more, f, fits, decoded⟩ := completes
  obtain ⟨verb, flags, rest, h, same, scanned, turns, whole⟩ := of_decode decoded
  have known : (Verb.fromByte verb.byte).isSome = true := by
    rw [Verb.fromByte_eq_some.mpr rfl]
    rfl
  rcases buf with _ | ⟨byte, _ | ⟨flags', bs⟩⟩
  · exact ⟨by simp, sizeHolds_nil⟩
  · obtain ⟨rfl, -⟩ := List.cons.inj same
    exact ⟨fun b hb => by cases hb; exact known, sizeHolds_nil⟩
  · obtain ⟨rfl, tail⟩ := List.cons.inj same
    obtain ⟨-, rfl⟩ := List.cons.inj tail
    refine ⟨fun b hb => by cases hb; exact known, ?_⟩
    change SizeHolds bs
    change Varint.scan (bs ++ more) = some h at scanned
    change 2 + h + Varint.number ((bs ++ more).take h) % 2 ^ 64 ≤ _ at whole
    cases ended : Varint.scan bs with
    | some h' =>
      rw [Varint.scan_append ended] at scanned
      cases scanned
      rw [List.take_append_of_le_length (Varint.scan_le ended)] at whole
      exact (sizeHolds_ended ended).mpr ⟨turns, Nat.le_trans whole fits⟩
    | none =>
      rw [sizeHolds_open ended]
      rw [Varint.scan_open ended] at scanned
      obtain ⟨k, inner, rfl⟩ := Option.map_eq_some_iff.mp scanned
      have positive := Varint.scan_pos inner
      rw [Nat.add_comm k, List.take_length_add_append] at whole
      have least := number_le_of_open (show bs.length ≤ 9 by omega) (more.take k)
      exact ⟨by omega, by omega⟩

theorem completes_ended {verb : Verb} {flags : UInt8} {rest : List UInt8} {h : Nat}
    (none : decode (verb.byte :: flags :: rest) = .ok none) (scanned : Varint.scan rest = some h)
    (turns : h ≤ 10) (fits : 2 + h + Varint.number (rest.take h) % 2 ^ 64 ≤ isizeMax) :
    Completes (verb.byte :: flags :: rest) := by
  have run := decode_header verb flags scanned turns
  have below : isizeMax < 2 ^ 64 := by decide
  have short : rest.length + 2 < 2 + h + Varint.number (rest.take h) % 2 ^ 64 := by
    by_contra whole
    rw [none] at run
    dsimp only at run
    rw [if_neg (by omega), if_neg whole] at run
    cases run
  let more : List UInt8 :=
    List.replicate (2 + h + Varint.number (rest.take h) % 2 ^ 64 - (rest.length + 2)) 0
  have whole := decode_header verb flags (Varint.scan_append scanned more) turns
  have size : (rest ++ more).length + 2 = 2 + h + Varint.number (rest.take h) % 2 ^ 64 := by
    simp only [more, List.length_append, List.length_replicate]
    omega
  rw [List.take_append_of_le_length (Varint.scan_le scanned)] at whole
  dsimp only at whole
  rw [if_neg (by omega), if_neg (by omega)] at whole
  exact ⟨more, _, Nat.le_trans (Nat.le_of_eq size) fits, whole⟩

/-- A header whose varint is open is completed by a last group of zero bits and the payload. -/
theorem completes_open (verb : Verb) (flags : UInt8) {rest : List UInt8}
    (ends : Varint.scan rest = none) (few : rest.length < 10)
    (fits : 2 + (rest.length + 1) + Varint.number rest ≤ isizeMax) :
    Completes (verb.byte :: flags :: rest) := by
  have below : isizeMax < 2 ^ 64 := by decide
  have scanned : Varint.scan (rest ++ 0 :: List.replicate (Varint.number rest) 0) =
      some (rest.length + 1) := by
    rw [Varint.scan_open ends, Varint.scan, if_neg (by decide), Option.map_some, Nat.add_comm]
  have size : Varint.number ((rest ++ 0 :: List.replicate (Varint.number rest) 0).take
      (rest.length + 1)) % 2 ^ 64 = Varint.number rest := by
    rw [List.take_length_add_append, Varint.number_append]
    change (Varint.number rest + 128 ^ rest.length * Varint.number [0]) % 2 ^ 64 = _
    rw [show Varint.number [0] = 0 from rfl, Nat.mul_zero, Nat.add_zero, Nat.mod_eq_of_lt (by omega)]
  have whole := decode_header verb flags scanned (by omega)
  have length : (rest ++ 0 :: List.replicate (Varint.number rest) 0).length =
      rest.length + 1 + Varint.number rest := by
    simp only [List.length_append, List.length_cons, List.length_replicate]
    omega
  dsimp only at whole
  rw [size, length, if_neg (by omega), if_neg (by omega)] at whole
  refine ⟨_, _, ?_, whole⟩
  change (rest ++ 0 :: List.replicate (Varint.number rest) 0).length + 2 ≤ isizeMax
  omega

theorem completes_of_continuable {buf : List UInt8} (none : decode buf = .ok none)
    (h : Continuable buf) : Completes buf := by
  obtain ⟨known, size⟩ := h
  rcases buf with _ | ⟨byte, _ | ⟨flags, rest⟩⟩
  · exact ⟨[0x01, 0, 0], ⟨.action, ⟨0⟩, []⟩, by decide, rfl⟩
  · obtain ⟨verb, isVerb⟩ := Option.isSome_iff_exists.mp (known byte rfl)
    obtain rfl := Verb.fromByte_eq_some.mp isVerb
    exact ⟨[0, 0], ⟨verb, ⟨0⟩, []⟩, (show 3 ≤ isizeMax by decide), by cases verb <;> rfl⟩
  · obtain ⟨verb, isVerb⟩ := Option.isSome_iff_exists.mp (known byte rfl)
    obtain rfl := Verb.fromByte_eq_some.mp isVerb
    change SizeHolds rest at size
    cases ended : Varint.scan rest with
    | some h =>
      rw [sizeHolds_ended ended] at size
      exact completes_ended none ended size.1 size.2
    | none =>
      rw [sizeHolds_open ended] at size
      exact completes_open verb flags ended size.1 size.2

end Frame

/-- A buffer that decodes to nothing is completed by more bytes exactly if its header is not
malformed. -/
theorem none_reads_on (buf : List UInt8) (none : Frame.decode buf = .ok none) :
    Frame.Completes buf ↔ Frame.Continuable buf :=
  ⟨Frame.continuable_of_completes, Frame.completes_of_continuable none⟩

theorem none_reads_on_cut : Frame.Completes [0x04, 0x40, 0x80] ↔ Frame.Continuable [0x04, 0x40, 0x80] :=
  none_reads_on _ rfl

/-- An unknown verb decodes to nothing, whatever is read behind it. -/
theorem unknown_verb_stuck :
    Frame.decode [0xFE, 0x00, 0x00] = .ok none ∧
      ∀ more, Frame.decode ([0xFE, 0x00, 0x00] ++ more) = .ok none :=
  ⟨rfl, fun _ => rfl⟩

end HidConnect
