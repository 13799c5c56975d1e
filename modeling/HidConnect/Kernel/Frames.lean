import HidConnect.Kernel.Varint
import HidConnect.Library.Decoder

/-! What the frame decoder makes of any buffer, and frames back to back. -/
namespace HidConnect
open Fallible

theorem Verb.fromByte_eq_some {byte : UInt8} {verb : Verb} :
    Verb.fromByte byte = some verb ↔ byte = verb.byte := by
  constructor
  · intro known
    unfold Verb.fromByte at known
    split_ifs at known with a b c d e
    · cases known; exact a
    · cases known; exact b
    · cases known; exact c
    · cases known; exact d
    · cases known; exact e
  · rintro rfl
    cases verb <;> rfl

namespace Frame

/-- The buffer starts with a known verb, a flags byte and a length varint of `h` bytes that spell
`n`. -/
def Declares (buf : List UInt8) (h n : Nat) : Prop :=
  ∃ verb : Verb, ∃ flags rest, buf = verb.byte :: flags :: rest ∧ Varint.scan rest = some h ∧
    Varint.number (rest.take h) = n

theorem Declares.unique {buf : List UInt8} {h n h' n' : Nat} (d : Declares buf h n)
    (d' : Declares buf h' n') : h = h' ∧ n = n' := by
  obtain ⟨verb, flags, rest, rfl, scanned, spells⟩ := d
  obtain ⟨verb', flags', rest', same, scanned', spells'⟩ := d'
  obtain ⟨-, rfl, rfl⟩ := List.cons.inj same |>.imp_right List.cons.inj
  rw [scanned] at scanned'
  cases scanned'
  exact ⟨rfl, spells.symm.trans spells'⟩

theorem declared_cases (buf : List UInt8) :
    (∀ h n, Declares buf h n → 10 < h) ∨
    ∃ verb : Verb, ∃ flags rest h, buf = verb.byte :: flags :: rest ∧ Varint.scan rest = some h ∧
      h ≤ 10 := by
  by_cases declares : ∃ h n, Declares buf h n ∧ h ≤ 10
  · obtain ⟨h, n, ⟨verb, flags, rest, same, scanned, -⟩, turns⟩ := declares
    exact .inr ⟨verb, flags, rest, h, same, scanned, turns⟩
  · left
    intro h n declared
    by_contra turns
    exact declares ⟨h, n, declared, Nat.le_of_not_lt turns⟩

theorem decode_header (verb : Verb) (flags : UInt8) {rest : List UInt8} {h : Nat}
    (scanned : Varint.scan rest = some h) (turns : h ≤ 10) :
    decode (verb.byte :: flags :: rest) =
      let size := Varint.number (rest.take h) % 2 ^ 64
      if 2 ^ 64 ≤ 2 + h + size then .panic
      else if rest.length + 2 < 2 + h + size then .ok none
      else .ok (some { verb, flags := ⟨flags⟩, payload := (rest.drop h).take size }) := by
  have known : Verb.fromByte verb.byte = some verb := Verb.fromByte_eq_some.mpr rfl
  rw [decode, known, decodeVarint_eq, scanned]
  simp only [if_pos turns, UInt64.toNat_ofNat']

theorem decode_undeclared {buf : List UInt8} (undeclared : ∀ h n, Declares buf h n → 10 < h) :
    decode buf = .ok none := by
  rcases buf with _ | ⟨verbByte, _ | ⟨flags, rest⟩⟩
  · rfl
  · rfl
  · cases known : Verb.fromByte verbByte with
    | none => rw [decode, known]
    | some verb =>
      obtain rfl := Verb.fromByte_eq_some.mp known
      cases scanned : Varint.scan rest with
      | none => rw [decode, known, decodeVarint_eq, scanned]
      | some h =>
        have long := undeclared h _ ⟨verb, flags, rest, rfl, scanned, rfl⟩
        rw [decode, known, decodeVarint_eq, scanned]
        simp only [if_neg (Nat.not_le_of_lt long)]

theorem decode_cases (buf : List UInt8) :
    decode buf = .ok none ∧ (∀ h n, Declares buf h n → 10 < h) ∨
    ∃ verb : Verb, ∃ flags rest h, buf = verb.byte :: flags :: rest ∧ Varint.scan rest = some h ∧
      h ≤ 10 := by
  rcases declared_cases buf with undeclared | declared
  · exact .inl ⟨decode_undeclared undeclared, undeclared⟩
  · exact .inr declared

/-- The decoder neither overflows nor slices out of range, and the payload of a frame is what its
header declares. -/
def DecodesSafely (buf : List UInt8) : Prop :=
  (decode buf).isPanic = false ∧
    ∀ f, decode buf = .ok (some f) → ∃ h n, Declares buf h n ∧ 2 + h + n ≤ buf.length ∧
      f.payload = (buf.drop (2 + h)).take n

/-- A length of at most ten bytes, read modulo `2 ^ 64`, leaves the frame's size below `2 ^ 64`; and
a length from `2 ^ 64` on stands in a buffer too short for what is left of it. -/
def LengthFits (buf : List UInt8) : Prop :=
  ∀ h n, Declares buf h n → h ≤ 10 →
    2 + h + n % 2 ^ 64 < 2 ^ 64 ∧ (2 ^ 64 ≤ n → buf.length < 2 + h + n % 2 ^ 64)

section Header
variable {verb : Verb} {flags : UInt8} {rest : List UInt8} {h : Nat}

theorem fits_of_decodesSafely (scanned : Varint.scan rest = some h) (turns : h ≤ 10)
    (safe : DecodesSafely (verb.byte :: flags :: rest)) : LengthFits (verb.byte :: flags :: rest) := by
  obtain ⟨calm, exact⟩ := safe
  have run := decode_header verb flags scanned turns
  intro h' n declared _
  obtain ⟨rfl, rfl⟩ : h = h' ∧ Varint.number (rest.take h) = n :=
    Declares.unique ⟨verb, flags, rest, rfl, scanned, rfl⟩ declared
  generalize Varint.number (rest.take h) = n at declared run
  have size : (verb.byte :: flags :: rest).length = rest.length + 2 := rfl
  have room : 2 + h + n % 2 ^ 64 < 2 ^ 64 := by
    by_contra wraps
    rw [run, if_pos (Nat.le_of_not_lt wraps)] at calm
    cases calm
  refine ⟨room, fun large => ?_⟩
  by_contra whole
  rw [size] at whole
  dsimp only at run
  rw [if_neg (by omega), if_neg (by omega)] at run
  obtain ⟨h', n', declared', inside, payload⟩ := exact _ run
  obtain ⟨rfl, rfl⟩ := declared.unique declared'
  have lengths := congrArg List.length payload
  simp only [List.length_take, List.length_drop, size] at lengths inside
  omega

theorem decodesSafely_of_fits (scanned : Varint.scan rest = some h) (turns : h ≤ 10)
    (fits : LengthFits (verb.byte :: flags :: rest)) : DecodesSafely (verb.byte :: flags :: rest) := by
  have declared : Declares (verb.byte :: flags :: rest) h (Varint.number (rest.take h)) :=
    ⟨verb, flags, rest, rfl, scanned, rfl⟩
  have run := decode_header verb flags scanned turns
  generalize Varint.number (rest.take h) = n at declared run
  have size : (verb.byte :: flags :: rest).length = rest.length + 2 := rfl
  obtain ⟨room, short⟩ := fits h n declared turns
  rw [size] at short
  dsimp only at run
  rw [if_neg (by omega)] at run
  constructor
  · rw [run]
    split <;> rfl
  · intro f decoded
    rw [run] at decoded
    split at decoded
    case isTrue => cases decoded
    case isFalse whole =>
      cases decoded
      have small : n < 2 ^ 64 := by
        by_contra large
        have := short (Nat.le_of_not_lt large)
        omega
      rw [Nat.mod_eq_of_lt small] at whole ⊢
      refine ⟨h, n, declared, by rw [size]; omega, ?_⟩
      rw [Nat.add_comm 2 h]
      rfl

end Header

theorem decodesSafely_iff (buf : List UInt8) : DecodesSafely buf ↔ LengthFits buf := by
  rcases decode_cases buf with ⟨none, long⟩ | ⟨verb, flags, rest, h, rfl, scanned, turns⟩
  · refine iff_of_true ⟨by rw [none]; rfl, fun f some => ?_⟩ fun h n declared turns => ?_
    · rw [none] at some
      cases some
    · have := long h n declared
      omega
  · exact ⟨fits_of_decodesSafely scanned turns, decodesSafely_of_fits scanned turns⟩

/- Frames that were encoded. -/

/-- A `Vec` holds the payload. -/
def Holds (f : Frame) : Prop := f.payload.length ≤ isizeMax

theorem length_encode (f : Frame) : f.encodedSize = f.encode.length := by
  rw [encodedSize, varintSize_eq, encode, List.length_cons, List.length_cons, List.length_append]
  omega

theorem spells_len {f : Frame} (holds : f.Holds) :
    Varint.Spells (encodeVarint f.len) f.payload.length ∧ (encodeVarint f.len).length ≤ 10 := by
  have value : f.len.toNat = f.payload.length := by
    unfold Holds isizeMax at holds
    rw [len, Nat.toUInt64, UInt64.toNat_ofNat']
    omega
  have small := f.len.toNat_lt
  rw [encodeVarint, encodeVarintLoop_eq, value]
  rw [value] at small
  exact ⟨Varint.spells_encode (by omega), Varint.length_encode_le 10 _⟩

theorem decode_encode {f : Frame} (holds : f.Holds) (rest : List UInt8) :
    decode (f.encode ++ rest) = .ok (some f) := by
  obtain ⟨⟨ends, spells⟩, turns⟩ := spells_len holds
  have scanned := Varint.scan_append ends (f.payload ++ rest)
  have front : f.encode ++ rest =
      f.verb.byte :: f.flags.bits :: (encodeVarint f.len ++ (f.payload ++ rest)) := by
    rw [encode, List.cons_append, List.cons_append, List.append_assoc]
  unfold Holds isizeMax at holds
  rw [front, decode_header f.verb f.flags.bits scanned turns, List.take_left, spells,
    Nat.mod_eq_of_lt (by omega)]
  dsimp only
  rw [if_neg (by omega), if_neg (by simp only [List.length_append]; omega), List.drop_left,
    List.take_left]

theorem decode_take {f : Frame} (holds : f.Holds) {k : Nat} (short : k < f.encode.length) :
    decode (f.encode.take k) = .ok none := by
  obtain ⟨⟨ends, spells⟩, turns⟩ := spells_len holds
  rcases k with _ | _ | k
  · rfl
  · rfl
  · have front : f.encode.take (k + 2) =
        f.verb.byte :: f.flags.bits :: (encodeVarint f.len ++ f.payload).take k := rfl
    rw [front]
    rw [encode, List.length_cons, List.length_cons, List.length_append] at short
    by_cases inside : k < (encodeVarint f.len).length
    · rw [List.take_append_of_le_length (Nat.le_of_lt inside), decode,
        Verb.fromByte_eq_some.mpr rfl, decodeVarint_eq, Varint.scan_take ends inside]
    · rw [List.take_append, List.take_of_length_le (Nat.le_of_not_lt inside),
        decode_header f.verb f.flags.bits (Varint.scan_append ends _) turns, List.take_left, spells]
      unfold Holds isizeMax at holds
      dsimp only
      rw [Nat.mod_eq_of_lt (by omega), if_neg (by omega), if_pos]
      simp only [List.length_append, List.length_take]
      omega

/-- Decode at the front of what is left, and go on behind the frame by its `encoded_size()`. -/
def atOffsets : Decoder Frame := ⟨fun buf =>
  match decode buf with
  | .ok (some f) => some (f, buf.drop f.encodedSize)
  | _ => none⟩

theorem reads_encode {f : Frame} (holds : f.Holds) : Decoder.Reads atOffsets f.encode f := by
  intro rest
  simp only [atOffsets, decode_encode holds, length_encode, List.drop_left]

theorem encode_ne_nil (f : Frame) : f.encode ≠ [] := List.cons_ne_nil _ _

end Frame

/-- Frames back to back are read back, each by its own size, and no frame is read before its last
byte is there. -/
theorem frames_read_back (frames : List Frame) (hold : ∀ f ∈ frames, f.Holds) :
    Decoder.all Frame.atOffsets (frames.flatMap Frame.encode) = some frames ∧
    (∀ f : Frame, f.encodedSize = f.encode.length) ∧
    ∀ f ∈ frames, ∀ k < f.encode.length, Frame.decode (f.encode.take k) = .ok none := by
  refine ⟨?_, Frame.length_encode, fun f hm k short => Frame.decode_take (hold f hm) short⟩
  have read : Decoder.all Frame.atOffsets (frames.flatMap Frame.encode) = some (frames.map id) :=
    Decoder.all_flatMap frames (fun f _ => f.encode_ne_nil) fun f hm => Frame.reads_encode (hold f hm)
  rwa [List.map_id] at read

theorem frames_read_back_two :
    Decoder.all Frame.atOffsets
      ([⟨.query, ⟨0x40⟩, []⟩, ⟨.plan, ⟨0⟩, List.replicate 130 7⟩].flatMap Frame.encode) =
      some [⟨.query, ⟨0x40⟩, []⟩, ⟨.plan, ⟨0⟩, List.replicate 130 7⟩] := by
  refine (frames_read_back _ fun f hm => ?_).1
  simp only [List.mem_cons, List.not_mem_nil, or_false] at hm
  rcases hm with rfl | rfl
  · exact Nat.zero_le _
  · change (List.replicate 130 (7 : UInt8)).length ≤ isizeMax
    rw [List.length_replicate]
    decide

end HidConnect
