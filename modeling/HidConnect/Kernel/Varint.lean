import HidConnect.Kernel.Protocol
import HidConnect.Library.Varint

/-! The varint loops of the kernel's frames against the numbers they stand for. -/
namespace HidConnect

theorem toNat_low (n : UInt64) : (n &&& 0x7F).toUInt8.toNat = n.toNat % 128 := by
  have mask : (0x7F : UInt64).toNat = 2 ^ 7 - 1 := rfl
  rw [UInt64.toNat_toUInt8, UInt64.toNat_and, mask, Nat.and_two_pow_sub_one_eq_mod]
  omega

theorem toNat_shift (n : UInt64) : (n >>> 7).toNat = n.toNat / 128 := by
  rw [UInt64.toNat_shiftRight, Nat.shiftRight_eq_div_pow]
  rfl

theorem toNat_marked {b : UInt8} (h : b.toNat < 128) : (b ||| 0x80).toNat = b.toNat + 128 := by
  have mark : (0x80 : UInt8).toNat = 2 ^ 7 * 1 := rfl
  rw [UInt8.toNat_or, mark, Nat.or_comm, ← Nat.two_pow_add_eq_or_of_lt h]
  omega

theorem shift_eq_zero (n : UInt64) : n >>> 7 = 0 ↔ n.toNat / 128 = 0 := by
  rw [← UInt64.toNat_inj, toNat_shift]
  rfl

theorem encodeVarintLoop_eq (turns : Nat) (n : UInt64) :
    encodeVarintLoop turns n = Varint.encode turns n.toNat := by
  induction turns generalizing n with
  | zero => rfl
  | succ turns ih =>
    have low := toNat_low n
    rw [encodeVarintLoop, Varint.encode, ih, toNat_shift]
    simp only [shift_eq_zero]
    split
    · congr 1
      apply UInt8.toNat_inj.mp
      rw [low, Varint.toNat_group (by omega)]
      omega
    · congr 1
      apply UInt8.toNat_inj.mp
      rw [toNat_marked (by omega), low, Varint.toNat_group (by omega)]

theorem varintSizeLoop_eq (turns : Nat) {n : UInt64} (some : n ≠ 0) (size : Nat) :
    varintSizeLoop turns n size = size + (encodeVarintLoop turns n).length := by
  induction turns generalizing n size with
  | zero => rfl
  | succ turns ih =>
    rw [varintSizeLoop, if_neg some, encodeVarintLoop]
    split
    · rename_i last
      rw [last, List.length_singleton]
      cases turns with
      | zero => rfl
      | succ turns => rw [varintSizeLoop, if_pos rfl]
    · rename_i more
      rw [ih more, List.length_cons]
      omega

theorem varintSize_eq (n : UInt64) : varintSize n = (encodeVarint n).length := by
  rw [varintSize, encodeVarint]
  split
  · rename_i zero
    rw [zero]
    rfl
  · rename_i some
    rw [varintSizeLoop_eq 10 some, Nat.zero_add]

theorem continues_eq (b : UInt8) : b &&& 0x80 = 0 ↔ ¬Varint.continues b = true := by
  have table : ∀ n < 256, UInt8.ofNat n &&& 0x80 = 0 ↔ ¬128 ≤ n := by decide +kernel
  rw [Varint.continues_iff, ← table b.toNat b.toNat_lt, UInt8.ofNat_toNat]

/-- A group behind the ones that are there, with the bits that do not fit dropped. -/
theorem toNat_or_shift {result : UInt64} (value : UInt64) {shift : Nat}
    (small : result.toNat < 2 ^ shift) (h : shift < 64) :
    (result ||| value <<< shift.toUInt64).toNat = (result.toNat + 2 ^ shift * value.toNat) % 2 ^ 64 := by
  have split : (2 : Nat) ^ 64 = 2 ^ shift * 2 ^ (64 - shift) := by
    rw [← Nat.pow_add]
    congr 1
    omega
  have amount : shift.toUInt64.toNat % 64 = shift := by
    rw [Nat.toUInt64, UInt64.toNat_ofNat']
    omega
  have dropped : (value <<< shift.toUInt64).toNat =
      2 ^ shift * (value.toNat % 2 ^ (64 - shift)) := by
    rw [UInt64.toNat_shiftLeft, amount, Nat.shiftLeft_eq, Nat.mul_comm, split, Nat.mul_mod_mul_left]
  rw [UInt64.toNat_or, dropped, Nat.or_comm, ← Nat.two_pow_add_eq_or_of_lt small, split, Nat.mod_mul,
    Nat.add_mul_mod_self_left, Nat.mod_eq_of_lt small,
    Nat.add_mul_div_left _ _ (Nat.two_pow_pos shift), Nat.div_eq_of_lt small, Nat.zero_add,
    Nat.add_comm]

theorem toNat_joined (b : UInt8) {i : Nat} {result : UInt64} (turns : i < 10)
    (small : result.toNat < 2 ^ (7 * i)) :
    (result ||| (b &&& 0x7F).toUInt64 <<< (7 * i).toUInt64).toNat =
      (result.toNat + 2 ^ (7 * i) * (b.toNat % 128)) % 2 ^ 64 := by
  have group : (b &&& 0x7F).toUInt64.toNat = b.toNat % 128 := by
    have mask : (0x7F : UInt8).toNat = 2 ^ 7 - 1 := rfl
    rw [UInt8.toNat_toUInt64, UInt8.toNat_and, mask, Nat.and_two_pow_sub_one_eq_mod]
  rw [toNat_or_shift _ small (by omega), group]

theorem joined_lt (b : UInt8) {i : Nat} {result : UInt64} (turns : i < 10)
    (small : result.toNat < 2 ^ (7 * i)) :
    (result ||| (b &&& 0x7F).toUInt64 <<< (7 * i).toUInt64).toNat < 2 ^ (7 * (i + 1)) := by
  have most : 2 ^ (7 * i) * (b.toNat % 128) ≤ 2 ^ (7 * i) * 127 :=
    Nat.mul_le_mul_left _ (by omega)
  have kept := Nat.mod_le (result.toNat + 2 ^ (7 * i) * (b.toNat % 128)) (2 ^ 64)
  have next : 7 * (i + 1) = 7 * i + 7 := by omega
  rw [toNat_joined b turns small, next, Nat.pow_add]
  omega

/-- What the loop makes of the groups before it and of the number in front of it. -/
theorem decodeVarintLoop_eq (rest : List UInt8) {i : Nat} {result : UInt64} (turns : i < 10)
    (small : result.toNat < 2 ^ (7 * i)) :
    decodeVarintLoop rest i (7 * i) result =
      match Varint.scan rest with
      | none => none
      | some h =>
        if i + h ≤ 10 then
          some (.ofNat (result.toNat + 2 ^ (7 * i) * Varint.number (rest.take h)), i + h)
        else none := by
  induction rest generalizing i result with
  | nil => rfl
  | cons b rest ih =>
    have joined := toNat_joined b turns small
    rw [decodeVarintLoop, checkedShl, if_pos (by omega), Varint.scan]
    dsimp only
    by_cases last : Varint.continues b = true
    · rw [if_neg (mt (continues_eq b).mp (not_not.mpr last)), if_pos last]
      have next : 7 * i + 7 = 7 * (i + 1) := by omega
      split
      · rename_i full
        cases scanned : Varint.scan rest with
        | none => rfl
        | some h =>
          have positive := Varint.scan_pos scanned
          simp only [Option.map_some]
          rw [if_neg (by omega)]
      · rename_i room
        rw [next, ih (by omega) (joined_lt b turns small)]
        cases scanned : Varint.scan rest with
        | none => rfl
        | some h =>
          have value : UInt64.ofNat ((result ||| (b &&& 0x7F).toUInt64 <<< (7 * i).toUInt64).toNat +
              2 ^ (7 * (i + 1)) * Varint.number (rest.take h)) =
              UInt64.ofNat (result.toNat + 2 ^ (7 * i) * Varint.number ((b :: rest).take (h + 1))) := by
            apply UInt64.toNat_inj.mp
            rw [UInt64.toNat_ofNat', UInt64.toNat_ofNat', joined, Nat.mod_add_mod, List.take_succ_cons,
              Varint.number, ← next, Nat.pow_add, Nat.mul_add, Nat.mul_assoc, Nat.add_assoc]
          simp only [Option.map_some, value, Nat.add_assoc, Nat.add_comm 1 h]
    · have value : result ||| (b &&& 0x7F).toUInt64 <<< (7 * i).toUInt64 =
          UInt64.ofNat (result.toNat + 2 ^ (7 * i) * Varint.number [b]) := by
        apply UInt64.toNat_inj.mp
        rw [UInt64.toNat_ofNat', joined, Varint.number, Varint.number, Nat.mul_zero, Nat.add_zero]
      rw [if_pos ((continues_eq b).mpr last), if_neg last, value]
      exact (if_pos (show i + 1 ≤ 10 by omega)).symm

/-- `decode_varint` reads numbers of at most ten groups, modulo `2 ^ 64`. -/
theorem decodeVarint_eq (buf : List UInt8) :
    decodeVarint buf =
      match Varint.scan buf with
      | none => none
      | some h => if h ≤ 10 then some (.ofNat (Varint.number (buf.take h)), h) else none := by
  have whole : decodeVarintLoop buf 0 (7 * 0) 0 = _ :=
    decodeVarintLoop_eq buf (by decide) Nat.one_pos
  simpa [decodeVarint] using whole

/-- The first `k` bytes, at most ten, are one number, and it is `v`. -/
structure Encodes (buf : List UInt8) (v : UInt64) (k : Nat) : Prop where
  some : 0 < k
  short : k ≤ 10
  inside : k ≤ buf.length
  marks : ∀ i b, i < k → buf[i]? = Option.some b → (Varint.continues b = true ↔ i + 1 < k)
  value : Varint.number (buf.take k) = v.toNat

/-- A number of ten bytes that does not fit: nine bytes reach up to `2 ^ 63`. -/
def Overflows (buf : List UInt8) : Prop :=
  (∀ i b, i < 9 → buf[i]? = some b → Varint.continues b = true) ∧
    ∃ b, buf[9]? = some b ∧ Varint.continues b = false ∧ 2 ≤ b.toNat

theorem encodes_iff {buf : List UInt8} {v : UInt64} {k : Nat} :
    Encodes buf v k ↔
      Varint.scan buf = some k ∧ k ≤ 10 ∧ Varint.number (buf.take k) = v.toNat := by
  rw [Varint.scan_eq_some_iff]
  constructor
  · rintro ⟨some, short, inside, marks, value⟩
    exact ⟨⟨some, inside, marks⟩, short, value⟩
  · rintro ⟨⟨some, inside, marks⟩, short, value⟩
    exact ⟨some, short, inside, marks, value⟩

theorem decodeVarint_eq_some_iff {buf : List UInt8} {v : UInt64} {k : Nat} :
    decodeVarint buf = some (v, k) ↔
      Varint.scan buf = some k ∧ k ≤ 10 ∧ UInt64.ofNat (Varint.number (buf.take k)) = v := by
  rw [decodeVarint_eq]
  cases scanned : Varint.scan buf with
  | none => simp
  | some h =>
    dsimp only
    split
    case isTrue short =>
      simp only [Option.some.injEq, Prod.mk.injEq]
      constructor
      · rintro ⟨rfl, rfl⟩
        exact ⟨rfl, short, rfl⟩
      · rintro ⟨rfl, -, rfl⟩
        exact ⟨rfl, rfl⟩
    case isFalse long =>
      refine iff_of_false nofun ?_
      rintro ⟨same, short, -⟩
      cases same
      exact long short

theorem ofNat_eq_iff_of_lt {n : Nat} (fits : n < 2 ^ 64) (v : UInt64) :
    UInt64.ofNat n = v ↔ n = v.toNat := by
  rw [← UInt64.toNat_inj, UInt64.toNat_ofNat', Nat.mod_eq_of_lt fits]

/-- Up to nine bytes fit, and the tenth byte decides over ten. -/
theorem overflows_iff {buf : List UInt8} {k : Nat} (scanned : Varint.scan buf = some k)
    (short : k ≤ 10) : Overflows buf ↔ 2 ^ 64 ≤ Varint.number (buf.take k) := by
  obtain ⟨positive, inside, marks⟩ := Varint.scan_eq_some_iff.mp scanned
  by_cases ten : k = 10
  · subst ten
    obtain ⟨b, at_⟩ : ∃ b, buf[9]? = some b := ⟨buf[9], List.getElem?_eq_getElem inside⟩
    have split : buf.take 10 = buf.take 9 ++ [b] := by
      rw [List.take_add_one, at_]
      rfl
    have length : (buf.take 9).length = 9 := by
      rw [List.length_take]
      omega
    have low := Varint.number_lt (buf.take 9)
    have last : Varint.continues b = false := by
      rw [Bool.eq_false_iff, ne_eq, marks 9 b (by decide) at_]
      decide
    have group : b.toNat < 128 := by
      rw [Bool.eq_false_iff, ne_eq, Varint.continues_iff] at last
      omega
    rw [length] at low
    rw [split, Varint.number_append, length, Varint.number, Varint.number, Nat.mod_eq_of_lt group]
    constructor
    · rintro ⟨-, c, at', -, large⟩
      cases at_.symm.trans at'
      omega
    · intro large
      refine ⟨fun i c below at' => (marks i c (by omega) at').mpr (by omega), b, at_, last, ?_⟩
      omega
  · refine iff_of_false ?_ ?_
    · rintro ⟨continued, -⟩
      -- the last byte of the number would have to go on
      have lower : k - 1 < buf.length := by omega
      have at_ : buf[k - 1]? = some buf[k - 1] := List.getElem?_eq_getElem lower
      have goes := (marks (k - 1) _ (by omega) at_).mp (continued (k - 1) _ (by omega) at_)
      omega
    · have low := Varint.number_lt (buf.take k)
      have most : 128 ^ (buf.take k).length ≤ 128 ^ 9 := by
        refine Nat.pow_le_pow_right (by decide) ?_
        rw [List.length_take]
        omega
      omega

theorem decodeVarint_encodeVarint (n : UInt64) (rest : List UInt8) :
    decodeVarint (encodeVarint n ++ rest) = some (n, (encodeVarint n).length) := by
  have small := n.toNat_lt
  have spells : Varint.Spells (encodeVarint n) n.toNat := by
    rw [encodeVarint, encodeVarintLoop_eq]
    exact Varint.spells_encode (by omega)
  have short : (encodeVarint n).length ≤ 10 := by
    rw [encodeVarint, encodeVarintLoop_eq]
    exact Varint.length_encode_le 10 _
  refine decodeVarint_eq_some_iff.mpr ⟨Varint.scan_append spells.1 rest, short, ?_⟩
  rw [List.take_left, spells.2, UInt64.ofNat_toNat]

/-- The decoder is exact on a buffer if and only if its number is not one of ten bytes that is too
large, and it reads back whatever the encoder writes. -/
theorem decodeVarint_exact_iff (buf : List UInt8) :
    ((∀ v k, decodeVarint buf = some (v, k) ↔ Encodes buf v k) ↔ ¬Overflows buf) ∧
      ∀ n rest, decodeVarint (encodeVarint n ++ rest) = some (n, (encodeVarint n).length) := by
  refine ⟨⟨fun exact exceeds => ?_, fun fits v k => ?_⟩, decodeVarint_encodeVarint⟩
  · have scanned : Varint.scan buf = some 10 := by
      obtain ⟨continued, b, at_, last, -⟩ := exceeds
      have inside : 10 ≤ buf.length := (List.getElem?_eq_some_iff.mp at_).1
      refine Varint.scan_eq_some_iff.mpr ⟨by decide, inside, fun i c below at' => ?_⟩
      by_cases early : i < 9
      · exact iff_of_true (continued i c early at') (by omega)
      · obtain rfl : i = 9 := by omega
        cases at_.symm.trans at'
        exact iff_of_false (by rw [last]; exact Bool.false_ne_true) (by decide)
    have large := (overflows_iff scanned (by decide)).mp exceeds
    have read := decodeVarint_eq_some_iff.mpr ⟨scanned, by decide, rfl⟩
    have value := ((exact _ _).mp read).value
    have below := (UInt64.ofNat (Varint.number (buf.take 10))).toNat_lt
    omega
  · rw [decodeVarint_eq_some_iff, encodes_iff]
    refine and_congr_right fun scanned => and_congr_right fun short => ?_
    have small : Varint.number (buf.take k) < 2 ^ 64 := by
      rw [← Nat.not_le]
      exact mt (overflows_iff scanned short).mpr fits
    exact ofNat_eq_iff_of_lt small v

def tooLong : List UInt8 := List.replicate 9 0x80 ++ [2]

theorem too_long_is_truncated :
    decodeVarint tooLong = some (0, 10) ∧ Varint.number tooLong = 2 ^ 64 ∧
      ¬∀ v k, decodeVarint tooLong = some (v, k) ↔ Encodes tooLong v k := by
  have read : decodeVarint tooLong = some (0, 10) := by decide
  refine ⟨read, by decide, fun exact => ?_⟩
  have value := ((exact 0 10).mp read).value
  revert value
  decide

end HidConnect
