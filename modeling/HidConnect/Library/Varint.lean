import Mathlib.Algebra.Group.Nat.Defs
import Mathlib.Data.List.Basic

/-! Unsigned LEB128: a number as groups of seven bits, lowest first. Every byte but the last one of a
number has its high bit set. -/
namespace Varint

def continues (b : UInt8) : Bool := 128 ≤ b.toNat

def number : List UInt8 → Nat
  | [] => 0
  | b :: rest => b.toNat % 128 + 128 * number rest

/-- How many bytes the number at the front takes, if it ends there. -/
def scan : List UInt8 → Option Nat
  | [] => none
  | b :: rest => if continues b then (scan rest).map (· + 1) else some 1

/-- A number in as few groups as it needs, of at most `w`. -/
def encode : Nat → Nat → List UInt8
  | 0, _ => []
  | w + 1, n =>
    if n / 128 = 0 then [UInt8.ofNat n] else UInt8.ofNat (n % 128 + 128) :: encode w (n / 128)

theorem continues_iff {b : UInt8} : continues b = true ↔ 128 ≤ b.toNat := decide_eq_true_iff

theorem toNat_group {n : Nat} (h : n < 256) : (UInt8.ofNat n).toNat = n := by
  rw [UInt8.toNat_ofNat', Nat.mod_eq_of_lt h]

theorem scan_pos {bs : List UInt8} {h : Nat} (scanned : scan bs = some h) : 0 < h := by
  cases bs with
  | nil => cases scanned
  | cons b rest =>
    rw [scan] at scanned
    split at scanned
    · obtain ⟨k, _, rfl⟩ := Option.map_eq_some_iff.mp scanned
      exact Nat.succ_pos k
    · cases scanned
      exact Nat.one_pos

theorem scan_le {bs : List UInt8} {h : Nat} (scanned : scan bs = some h) : h ≤ bs.length := by
  induction bs generalizing h with
  | nil => cases scanned
  | cons b rest ih =>
    rw [scan] at scanned
    split at scanned
    · obtain ⟨k, inner, rfl⟩ := Option.map_eq_some_iff.mp scanned
      exact Nat.succ_le_succ (ih inner)
    · cases scanned
      simp

theorem scan_eq_some_iff {bs : List UInt8} {h : Nat} :
    scan bs = some h ↔
      0 < h ∧ h ≤ bs.length ∧ ∀ i b, i < h → bs[i]? = some b → (continues b = true ↔ i + 1 < h) := by
  induction bs generalizing h with
  | nil =>
    constructor
    · intro scanned
      cases scanned
    · rintro ⟨positive, inside, -⟩
      exact absurd positive (Nat.not_lt.mpr inside)
  | cons b bs ih =>
    rw [scan]
    constructor
    · intro scanned
      split at scanned
      case isTrue cont =>
        obtain ⟨k, inner, rfl⟩ := Option.map_eq_some_iff.mp scanned
        obtain ⟨positive, inside, marks⟩ := ih.mp inner
        refine ⟨Nat.succ_pos k, Nat.succ_le_succ inside, fun i c below at_ => ?_⟩
        cases i with
        | zero =>
          cases at_
          exact iff_of_true cont (Nat.succ_lt_succ positive)
        | succ i =>
          rw [marks i c (Nat.lt_of_succ_lt_succ below) at_]
          exact Nat.succ_lt_succ_iff.symm
      case isFalse last =>
        cases scanned
        refine ⟨Nat.one_pos, Nat.succ_le_succ (Nat.zero_le _), fun i c below at_ => ?_⟩
        obtain rfl : i = 0 := Nat.lt_one_iff.mp below
        cases at_
        exact iff_of_false last (Nat.lt_irrefl 1)
    · rintro ⟨positive, inside, marks⟩
      have first := marks 0 b positive rfl
      split
      case isTrue cont =>
        obtain ⟨k, rfl⟩ : ∃ k, h = k + 1 := ⟨h - 1, by omega⟩
        have inner : scan bs = some k := by
          refine ih.mpr ⟨Nat.lt_of_succ_lt_succ (first.mp cont), Nat.le_of_succ_le_succ inside,
            fun i c below at_ => ?_⟩
          rw [marks (i + 1) c (Nat.succ_lt_succ below) at_]
          exact Nat.succ_lt_succ_iff
        rw [inner]
        rfl
      case isFalse last =>
        have short : ¬0 + 1 < h := mt first.mpr last
        obtain rfl : h = 1 := by omega
        rfl

theorem scan_append {bs : List UInt8} {h : Nat} (scanned : scan bs = some h) (rest : List UInt8) :
    scan (bs ++ rest) = some h := by
  induction bs generalizing h with
  | nil => cases scanned
  | cons b bs ih =>
    rw [List.cons_append, scan]
    rw [scan] at scanned
    split at scanned
    · obtain ⟨k, inner, rfl⟩ := Option.map_eq_some_iff.mp scanned
      rename_i cont
      rw [if_pos cont, ih inner]
      rfl
    · rename_i last
      rw [if_neg last]
      exact scanned

theorem scan_open {bs : List UInt8} (unended : scan bs = none) (rest : List UInt8) :
    scan (bs ++ rest) = (scan rest).map (· + bs.length) := by
  induction bs with
  | nil => simp
  | cons b bs ih =>
    rw [scan] at unended
    split at unended
    · rename_i cont
      rw [Option.map_eq_none_iff] at unended
      rw [List.cons_append, scan, if_pos cont, ih unended, Option.map_map]
      rfl
    · cases unended

theorem scan_take_self {bs : List UInt8} {h : Nat} (scanned : scan bs = some h) :
    scan (bs.take h) = some (bs.take h).length := by
  have inside := scan_le scanned
  rw [List.length_take, Nat.min_eq_left inside]
  obtain ⟨positive, -, marks⟩ := scan_eq_some_iff.mp scanned
  refine scan_eq_some_iff.mpr ⟨positive, by simp [inside], fun i b below at_ => ?_⟩
  rw [List.getElem?_take_of_lt below] at at_
  exact marks i b below at_

theorem scan_take {bs : List UInt8} {h : Nat} (scanned : scan bs = some h) {k : Nat} (short : k < h) :
    scan (bs.take k) = none := by
  cases cut : scan (bs.take k) with
  | none => rfl
  | some j =>
    have whole := scan_append cut (bs.drop k)
    rw [List.take_append_drop, scanned] at whole
    have bound := scan_le cut
    rw [List.length_take] at bound
    cases whole
    omega

theorem number_append (bs cs : List UInt8) :
    number (bs ++ cs) = number bs + 128 ^ bs.length * number cs := by
  induction bs with
  | nil => simp [number]
  | cons b bs ih =>
    rw [List.cons_append, number, number, ih, List.length_cons, Nat.pow_succ, Nat.mul_add,
      Nat.add_assoc, Nat.mul_comm (128 ^ bs.length) 128, Nat.mul_assoc]

theorem number_lt (bs : List UInt8) : number bs < 128 ^ bs.length := by
  induction bs with
  | nil => exact Nat.one_pos
  | cons b bs ih =>
    rw [number, List.length_cons, Nat.pow_succ]
    have group := Nat.mod_lt b.toNat (show 0 < 128 by decide)
    omega

/- The encoder. -/

/-- The bytes are one number, and spell this one. -/
def Spells (bs : List UInt8) (n : Nat) : Prop := scan bs = some bs.length ∧ number bs = n

theorem spells_last {n : Nat} (small : n < 128) : Spells [UInt8.ofNat n] n := by
  have byte := toNat_group (n := n) (by omega)
  have last : ¬continues (UInt8.ofNat n) = true := by
    rw [continues_iff, byte]
    omega
  refine ⟨by rw [scan, if_neg last]; rfl, ?_⟩
  rw [number, number, byte]
  omega

theorem Spells.cons {bs : List UInt8} {n : Nat} (h : Spells bs (n / 128)) :
    Spells (UInt8.ofNat (n % 128 + 128) :: bs) n := by
  have byte := toNat_group (n := n % 128 + 128) (by omega)
  have cont : continues (UInt8.ofNat (n % 128 + 128)) = true := by
    rw [continues_iff, byte]
    omega
  refine ⟨by rw [scan, if_pos cont, h.1]; rfl, ?_⟩
  rw [number, h.2, byte]
  omega

theorem spells_encode {w n : Nat} (fits : n < 128 ^ (w + 1)) : Spells (encode (w + 1) n) n := by
  induction w generalizing n with
  | zero =>
    rw [encode, if_pos (by omega)]
    exact spells_last (by omega)
  | succ w ih =>
    rw [encode]
    split
    · exact spells_last (by omega)
    · rw [Nat.pow_succ] at fits
      exact (ih (Nat.div_lt_of_lt_mul (by rwa [Nat.mul_comm]))).cons

theorem length_encode_le (w n : Nat) : (encode w n).length ≤ w := by
  induction w generalizing n with
  | zero => exact Nat.le_refl 0
  | succ w ih =>
    rw [encode]
    split
    · simp
    · exact Nat.succ_le_succ (ih (n / 128))

end Varint
