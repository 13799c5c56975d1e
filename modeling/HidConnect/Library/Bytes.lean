import Mathlib.Algebra.Group.Nat.Defs
import Mathlib.Data.List.Basic

/-! Fixed-width numbers as bytes, and slices cut into runs of equal length. -/
namespace Bytes

def toLe : Nat → Nat → List UInt8
  | 0, _ => []
  | w + 1, n => UInt8.ofNat (n % 256) :: toLe w (n / 256)

def toBe (w n : Nat) : List UInt8 := (toLe w n).reverse

def ofLe : List UInt8 → Nat
  | [] => 0
  | b :: rest => b.toNat + 256 * ofLe rest

def ofBe (bs : List UInt8) : Nat := ofLe bs.reverse

@[simp] theorem length_toLe (w n : Nat) : (toLe w n).length = w := by
  induction w generalizing n with
  | zero => rfl
  | succ w ih => simp only [toLe, List.length_cons, ih]

@[simp] theorem length_toBe (w n : Nat) : (toBe w n).length = w := by
  simp only [toBe, List.length_reverse, length_toLe]

theorem ofLe_toLe (w n : Nat) : ofLe (toLe w n) = n % 256 ^ w := by
  induction w generalizing n with
  | zero => simp [toLe, ofLe, Nat.mod_one]
  | succ w ih =>
    have digit : (UInt8.ofNat (n % 256)).toNat = n % 256 := by simp
    rw [toLe, ofLe, ih, digit, Nat.pow_succ, Nat.mul_comm (256 ^ w) 256, Nat.mod_mul]

theorem ofBe_toBe (w n : Nat) : ofBe (toBe w n) = n % 256 ^ w := by
  simp only [ofBe, toBe, List.reverse_reverse, ofLe_toLe]

theorem ofBe_toBe_of_lt {w n : Nat} (h : n < 256 ^ w) : ofBe (toBe w n) = n := by
  rw [ofBe_toBe, Nat.mod_eq_of_lt h]

theorem toLe_ofLe (bs : List UInt8) : toLe bs.length (ofLe bs) = bs := by
  induction bs with
  | nil => rfl
  | cons b bs ih =>
    have digit : (b.toNat + 256 * ofLe bs) % 256 = b.toNat := by
      rw [Nat.add_mul_mod_self_left, Nat.mod_eq_of_lt b.toNat_lt]
    have above : (b.toNat + 256 * ofLe bs) / 256 = ofLe bs := by
      rw [Nat.add_mul_div_left _ _ (by decide), Nat.div_eq_of_lt b.toNat_lt, Nat.zero_add]
    rw [List.length_cons, ofLe, toLe, digit, above, ih, UInt8.ofNat_toNat]

theorem ofLe_lt (bs : List UInt8) : ofLe bs < 256 ^ bs.length := by
  rw [← toLe_ofLe bs, ofLe_toLe, length_toLe]
  exact Nat.mod_lt _ (Nat.pow_pos (by decide))

theorem toBe_ofBe (bs : List UInt8) : toBe bs.length (ofBe bs) = bs := by
  rw [toBe, ofBe, ← List.length_reverse, toLe_ofLe, List.reverse_reverse]

theorem ofBe_lt (bs : List UInt8) : ofBe bs < 256 ^ bs.length := by
  rw [← List.length_reverse]
  exact ofLe_lt bs.reverse

theorem ofBe_take_toBe {w n : Nat} (h : n < 256 ^ w) (rest : List UInt8) :
    ofBe ((toBe w n ++ rest).take w) = n := by
  rw [List.take_left' (length_toBe w n), ofBe_toBe_of_lt h]

/- Runs of `n` elements, the last one possibly shorter. -/

def chunksFuel {α : Type} (n : Nat) : Nat → List α → List (List α)
  | 0, _ => []
  | _, [] => []
  | fuel + 1, x :: xs => (x :: xs).take n :: chunksFuel n fuel ((x :: xs).drop n)

def chunks {α : Type} (n : Nat) (xs : List α) : List (List α) := chunksFuel n xs.length xs

theorem flatten_chunksFuel {α : Type} {n : Nat} (positive : 0 < n) (fuel : Nat) (xs : List α)
    (enough : xs.length ≤ fuel) : (chunksFuel n fuel xs).flatten = xs := by
  induction fuel generalizing xs with
  | zero =>
    have empty : xs = [] := List.length_eq_zero_iff.mp (by omega)
    subst empty
    rfl
  | succ fuel ih =>
    cases xs with
    | nil => rfl
    | cons x xs =>
      have shorter : ((x :: xs).drop n).length ≤ fuel := by
        simp only [List.length_drop, List.length_cons] at enough ⊢
        omega
      rw [chunksFuel, List.flatten_cons, ih _ shorter, List.take_append_drop]

theorem flatten_chunks {α : Type} {n : Nat} (positive : 0 < n) (xs : List α) :
    (chunks n xs).flatten = xs :=
  flatten_chunksFuel positive xs.length xs (Nat.le_refl _)

theorem length_of_mem_chunksFuel {α : Type} (n fuel : Nat) (xs : List α) :
    ∀ c ∈ chunksFuel n fuel xs, c.length ≤ n := by
  induction fuel generalizing xs with
  | zero => intro c h; cases h
  | succ fuel ih =>
    cases xs with
    | nil => intro c h; cases h
    | cons x xs =>
      intro c h
      rcases List.mem_cons.mp h with rfl | h
      · exact List.length_take_le n _
      · exact ih _ c h

theorem length_of_mem_chunks {α : Type} {n : Nat} {xs c : List α} (h : c ∈ chunks n xs) :
    c.length ≤ n :=
  length_of_mem_chunksFuel n xs.length xs c h

/- A fixed-size array written from the front. -/

/-- Overwrite the bytes at an offset, as copying into a slice of an array does. -/
def copyAt (offset : Nat) (bytes array : List UInt8) : List UInt8 :=
  array.take offset ++ bytes ++ array.drop (offset + bytes.length)

/-- Write the parts one after the other from an offset on. -/
def copyAll : Nat → List (List UInt8) → List UInt8 → List UInt8
  | _, [], array => array
  | offset, part :: parts, array =>
    copyAll (offset + part.length) parts (copyAt offset part array)

/-- The array starts with the given bytes, and still has its size. -/
def StartsWith (array front : List UInt8) (size : Nat) : Prop :=
  array.length = size ∧ array.take front.length = front

theorem StartsWith.copyAt {array front bytes : List UInt8} {size : Nat}
    (h : StartsWith array front size) (room : front.length + bytes.length ≤ size) :
    StartsWith (copyAt front.length bytes array) (front ++ bytes) size := by
  obtain ⟨length, front'⟩ := h
  constructor
  · simp only [Bytes.copyAt, List.length_append, List.length_take, List.length_drop, length]
    omega
  · rw [Bytes.copyAt, front', List.take_left]

theorem StartsWith.copyAll {array front : List UInt8} {size : Nat} (parts : List (List UInt8))
    (h : StartsWith array front size) (room : front.length + parts.flatten.length ≤ size) :
    StartsWith (copyAll front.length parts array) (front ++ parts.flatten) size := by
  induction parts generalizing array front with
  | nil => simpa [Bytes.copyAll] using h
  | cons part parts ih =>
    simp only [List.flatten_cons, List.length_append] at room
    have first : StartsWith (Bytes.copyAt front.length part array) (front ++ part) size :=
      h.copyAt (by omega)
    have next := ih first (by
      simp only [List.length_append]
      omega)
    simpa [Bytes.copyAll, List.append_assoc] using next

end Bytes
