import HidConnect.Library.Utf8

/-! Text out of bytes that need not be text: what is no character reads as the replacement
character. -/
namespace Utf8

/-- The character that the bytes start with. -/
def first? (bs : List UInt8) : Option Char := bs.toByteArray.utf8DecodeChar? 0

def within (low high b : UInt8) : Bool := low ≤ b && b ≤ high

/-- The second byte of a character that starts with the byte and takes three or four. -/
def secondOf (b x : UInt8) : Bool :=
  if b = 0xE0 then within 0xA0 0xBF x
  else if b = 0xED then within 0x80 0x9F x
  else if b = 0xF0 then within 0x90 0xBF x
  else if b = 0xF4 then within 0x80 0x8F x
  else within 0xE1 0xF3 b && within 0x80 0xBF x

/-- Where no character starts, how many bytes one could have started with, or a single one. -/
def brokenLen : List UInt8 → Nat
  | b :: x :: y :: _ => if secondOf b x then if 0xF0 ≤ b && continues y then 3 else 2 else 1
  | [b, x] => if secondOf b x then 2 else 1
  | _ => 1

/-- `String::from_utf8_lossy` -/
def fromUtf8Lossy : List UInt8 → List Char
  | [] => []
  | b :: bs =>
    match first? (b :: bs) with
    | some c => c :: fromUtf8Lossy (bs.drop (c.utf8Size - 1))
    | none => '\uFFFD' :: fromUtf8Lossy (bs.drop (brokenLen (b :: bs) - 1))
termination_by bs => bs.length
decreasing_by all_goals simp only [List.length_cons, List.length_drop]; omega

theorem first?_encode (c : Char) (bs : List UInt8) :
    first? (String.utf8EncodeChar c ++ bs) = some c := by
  rw [first?, List.toByteArray_append]
  exact ByteArray.utf8DecodeChar?_utf8EncodeChar_append

theorem fromUtf8Lossy_bytes (cs : List Char) : fromUtf8Lossy (bytes cs) = cs := by
  induction cs with
  | nil => simp [bytes, fromUtf8Lossy]
  | cons c cs ih =>
    obtain ⟨b, rest, encoded, -, -⟩ := encode_eq c
    have size : rest.length = c.utf8Size - 1 := by
      have length := String.length_utf8EncodeChar c
      rw [encoded, List.length_cons] at length
      omega
    have first := first?_encode c (bytes cs)
    rw [encoded, List.cons_append] at first
    rw [bytes_cons, encoded, List.cons_append, fromUtf8Lossy, first]
    simp [← size, ih]

theorem behind {cs : List Char} {xs ys : List UInt8} {c : Char}
    (h : bytes cs = xs ++ (String.utf8EncodeChar c ++ ys)) : ∃ ds, ys = bytes ds := by
  obtain ⟨b, tail, encoded, starts, -⟩ := encode_eq c
  have here : (bytes cs)[xs.length]? = some b := by simp [h, encoded]
  obtain ⟨pre, ⟨rest, rfl⟩, length⟩ := (between_iff here).mpr starts
  rw [bytes_append] at h
  obtain ⟨-, same⟩ := List.append_inj h length
  cases rest with
  | nil => simp [bytes, encoded] at same
  | cons d ds =>
    rw [bytes_cons] at same
    have first := first?_encode d (bytes ds)
    rw [same, first?_encode, Option.some_inj] at first
    subst first
    exact ⟨ds, (List.append_cancel_left same).symm⟩

end Utf8
