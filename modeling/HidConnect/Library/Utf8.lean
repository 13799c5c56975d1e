import Mathlib.Data.List.Basic

/-! Where the UTF-8 encoding of a text may be cut: before every byte that does not continue a
character. -/
namespace Utf8

def bytes (cs : List Char) : List UInt8 := cs.flatMap String.utf8EncodeChar

def continues (b : UInt8) : Prop := b &&& 0xC0 = 0x80

instance (b : UInt8) : Decidable (continues b) := inferInstanceAs (Decidable (_ = _))

theorem bytes_cons (c : Char) (cs : List Char) :
    bytes (c :: cs) = String.utf8EncodeChar c ++ bytes cs := rfl

theorem bytes_append (cs ds : List Char) : bytes (cs ++ ds) = bytes cs ++ bytes ds :=
  List.flatMap_append

theorem toByteArray_toList (s : String) : s.toByteArray.data.toList = bytes s.toList := by
  rw [← String.utf8Encode_toList, List.utf8Encode, List.data_toByteArray]
  rfl

theorem not_continues_first {b : UInt8} (h : b.IsUTF8FirstByte) : ¬continues b := by
  intro cont
  have masked (m v : UInt8) (h : b &&& m = v) : v &&& 0xC0 = 0x80 &&& m := by
    rw [← h, UInt8.and_assoc, UInt8.and_comm m, ← UInt8.and_assoc, cont]
  rcases h with h | h | h | h
  · exact absurd (masked _ _ h) (by decide)
  · exact absurd (masked _ _ h) (by decide)
  · exact absurd (masked _ _ h) (by decide)
  · exact absurd (masked _ _ h) (by decide)

theorem continues_tail (x : UInt8) : continues (x &&& 0x3f ||| 0x80) := by
  refine UInt8.toBitVec_inj.mp ?_
  rw [UInt8.toBitVec_and, UInt8.toBitVec_or, UInt8.toBitVec_and, BitVec.and_or_distrib_right,
    BitVec.and_assoc]
  simp

/-- The first byte of a character starts it, and every other byte continues it. -/
theorem encode_eq (c : Char) :
    ∃ b rest, String.utf8EncodeChar c = b :: rest ∧ ¬continues b ∧ ∀ x ∈ rest, continues x := by
  have bound : 0 < (String.utf8EncodeChar c).length := by simp [c.utf8Size_pos]
  have first : ¬continues (String.utf8EncodeChar c)[0] :=
    not_continues_first (UInt8.isUTF8FirstByte_getElem_utf8EncodeChar.mpr rfl)
  match h : c.utf8Size, c.utf8Size_pos, c.utf8Size_le_four with
  | 1, _, _ =>
    have eq := String.utf8EncodeChar_eq_singleton h
    exact ⟨_, [], eq, by simpa only [eq, List.getElem_cons_zero] using first, by simp⟩
  | 2, _, _ =>
    have eq := String.utf8EncodeChar_eq_cons_cons h
    refine ⟨_, _, eq, by simpa only [eq, List.getElem_cons_zero] using first, ?_⟩
    simp [continues_tail]
  | 3, _, _ =>
    have eq := String.utf8EncodeChar_eq_cons_cons_cons h
    refine ⟨_, _, eq, by simpa only [eq, List.getElem_cons_zero] using first, ?_⟩
    simp [continues_tail]
  | 4, _, _ =>
    have eq := String.utf8EncodeChar_eq_cons_cons_cons_cons h
    refine ⟨_, _, eq, by simpa only [eq, List.getElem_cons_zero] using first, ?_⟩
    simp [continues_tail]

/-- The position lies between two characters. -/
def Between (cs : List Char) (n : Nat) : Prop := ∃ pre, pre <+: cs ∧ (bytes pre).length = n

theorem take_prefix {pre cs : List Char} (h : pre <+: cs) :
    (bytes cs).take (bytes pre).length = bytes pre := by
  obtain ⟨rest, rfl⟩ := h
  rw [bytes_append, List.take_left]

theorem between_cons {c : Char} {cs : List Char} {n : Nat} :
    Between (c :: cs) n ↔
      n = 0 ∨ ∃ m, n = (String.utf8EncodeChar c).length + m ∧ Between cs m := by
  constructor
  · rintro ⟨pre, first, rfl⟩
    cases pre with
    | nil => exact .inl rfl
    | cons d pre =>
      obtain ⟨rfl, rest⟩ := List.cons_prefix_cons.mp first
      exact .inr ⟨(bytes pre).length, by rw [bytes_cons, List.length_append], pre, rest, rfl⟩
  · rintro (rfl | ⟨m, rfl, pre, rest, rfl⟩)
    · exact ⟨[], List.nil_prefix, rfl⟩
    · exact ⟨c :: pre, List.cons_prefix_cons.mpr ⟨rfl, rest⟩, by
        rw [bytes_cons, List.length_append]⟩

theorem between_iff {cs : List Char} {n : Nat} {b : UInt8} (h : (bytes cs)[n]? = some b) :
    Between cs n ↔ ¬continues b := by
  induction cs generalizing n with
  | nil => simp [bytes] at h
  | cons c cs ih =>
    obtain ⟨first, rest, encoded, starts, tail⟩ := encode_eq c
    rw [bytes_cons, encoded] at h
    rw [between_cons, encoded]
    cases n with
    | zero =>
      obtain rfl : first = b := by simpa using h
      exact ⟨fun _ => starts, fun _ => .inl rfl⟩
    | succ n =>
      rw [List.cons_append, List.getElem?_cons_succ] at h
      by_cases inside : n < rest.length
      · rw [List.getElem?_append_left inside] at h
        have cont := tail b (List.mem_of_getElem? h)
        refine ⟨?_, fun starts => (starts cont).elim⟩
        rintro (zero | ⟨m, shifted, _⟩)
        · contradiction
        · rw [List.length_cons] at shifted
          omega
      · rw [List.getElem?_append_right (Nat.le_of_not_lt inside)] at h
        rw [← ih h]
        constructor
        · rintro (zero | ⟨m, shifted, between⟩)
          · contradiction
          · rw [List.length_cons] at shifted
            obtain rfl : n - rest.length = m := by omega
            exact between
        · exact fun between => .inr ⟨_, by rw [List.length_cons]; omega, between⟩

theorem length_bytes_cons (c : Char) (cs : List Char) :
    (bytes (c :: cs)).length = c.utf8Size + (bytes cs).length := by
  rw [bytes_cons, List.length_append, String.length_utf8EncodeChar]

theorem length_le_bytes (cs : List Char) : cs.length ≤ (bytes cs).length := by
  induction cs with
  | nil => exact Nat.zero_le _
  | cons c cs ih =>
    have one := c.utf8Size_pos
    rw [length_bytes_cons, List.length_cons]
    omega

theorem length_bytes_eq_iff (cs : List Char) :
    (bytes cs).length = cs.length ↔ ∀ c ∈ cs, c.utf8Size = 1 := by
  induction cs with
  | nil => exact iff_of_true rfl (by simp)
  | cons c cs ih =>
    have one := c.utf8Size_pos
    have more := length_le_bytes cs
    rw [length_bytes_cons, List.length_cons, List.forall_mem_cons, ← ih]
    omega

theorem length_bytes_take_le_iff (cs : List Char) (n : Nat) :
    (bytes (cs.take n)).length ≤ n ↔
      (bytes cs).length ≤ n ∨ ∀ c ∈ cs.take n, c.utf8Size = 1 := by
  by_cases short : cs.length ≤ n
  · rw [List.take_of_length_le short]
    constructor
    · exact .inl
    · rintro (fits | single)
      · exact fits
      · rwa [(length_bytes_eq_iff cs).mpr single]
  · have long := length_le_bytes cs
    have whole := List.length_take_of_le (Nat.le_of_not_le short)
    have least := length_le_bytes (cs.take n)
    rw [← length_bytes_eq_iff]
    omega

end Utf8
