import HidConnect.Control.Message
import HidConnect.Library.Utf8

/-! The texts of control messages, which are cut at a number of bytes: when the cut is safe, and
what is left of the text. -/
namespace HidConnect
open Fallible

theorem asBytes_eq (s : String) : asBytes s = Utf8.bytes s.toList :=
  Utf8.toByteArray_toList s

theorem asBytes_ofList (cs : List Char) : asBytes (String.ofList cs) = Utf8.bytes cs := by
  rw [asBytes_eq, String.toList_ofList]

/-- The text is short enough, or the cap falls between two of its characters. -/
def CutsBetween (s : String) (cap : Nat) : Prop :=
  (asBytes s).length ≤ cap ∨ Utf8.Between s.toList cap

theorem sliceTo_eq (s : String) {n : Nat} (inside : n < (asBytes s).length) :
    (Utf8.Between s.toList n ∧ sliceTo s n = .ok ((asBytes s).take n)) ∨
      (¬Utf8.Between s.toList n ∧ sliceTo s n = .panic) := by
  have some := List.getElem?_eq_getElem inside
  have between : Utf8.Between s.toList n ↔ ¬Utf8.continues (asBytes s)[n] := by
    refine Utf8.between_iff ?_
    rw [← asBytes_eq, some]
  rw [between, sliceTo]
  simp only [some]
  by_cases h : (asBytes s)[n] &&& 0xC0 = 0x80
  · exact .inr ⟨fun starts => starts h, if_pos h⟩
  · exact .inl ⟨h, if_neg h⟩

/-- A truncation keeps whole characters from the front, or panics. -/
theorem truncateText_eq (s : String) (cap : Nat) :
    (CutsBetween s cap ∧ ∃ kept : String, kept.toList <+: s.toList ∧
      (asBytes kept).length ≤ cap ∧ truncateText s cap = .ok (asBytes kept)) ∨
    (¬CutsBetween s cap ∧ truncateText s cap = .panic) := by
  by_cases long : (asBytes s).length > cap
  · rw [truncateText, if_pos long]
    rcases sliceTo_eq s long with ⟨between, cut⟩ | ⟨inside, cut⟩
    · obtain ⟨pre, first, length⟩ := between
      refine .inl ⟨.inr ⟨pre, first, length⟩, String.ofList pre, ?_, ?_, ?_⟩
      · rwa [String.toList_ofList]
      · rw [asBytes_ofList]
        exact Nat.le_of_eq length
      · rw [cut, asBytes_ofList, asBytes_eq, ← length, Utf8.take_prefix first]
    · refine .inr ⟨?_, cut⟩
      rintro (short | between)
      · omega
      · exact inside between
  · rw [truncateText, if_neg long]
    exact .inl ⟨.inl (Nat.not_lt.mp long), s, List.prefix_rfl, Nat.not_lt.mp long, rfl⟩

theorem truncateText_ok_iff (s : String) (cap : Nat) :
    (truncateText s cap).isPanic = false ↔ CutsBetween s cap := by
  rcases truncateText_eq s cap with ⟨between, kept, _, _, cut⟩ | ⟨inside, cut⟩
  · simp [cut, between]
  · simp [cut, inside]

/-- A text under a cap; in the encoding of its message it follows `header` bytes, behind its
length. -/
structure CappedText where
  text : String
  cap : Nat
  header : Nat

namespace ControlMessage

def cappedText : ControlMessage → Option CappedText
  | injectText t => some { text := t.text, cap := injectTextMaxLength, header := 1 }
  | setClipboard s => some { text := s.text, cap := controlMsgMaxSize - 14, header := 10 }
  | _ => none

/-- The text of the message may be cut where its cap is. -/
def CutsWhole (msg : ControlMessage) : Prop :=
  ∀ c, msg.cappedText = some c → CutsBetween c.text c.cap

theorem neverPanics_tinyString (s : String) (maxLen : Nat) :
    Method.NeverPanics (writeTinyString s maxLen) := by
  unfold writeTinyString
  dsimp only
  split
  · exact Method.neverPanics_fail _
  · exact (Method.neverPanics_update _).bind fun _ => Method.neverPanics_update _

theorem neverPanics_uhidCreate (c : UhidCreate) : Method.NeverPanics (serializeUhidCreate c) := by
  refine (Method.neverPanics_update _).bind fun _ => (Method.neverPanics_update _).bind fun _ =>
    (Method.neverPanics_update _).bind fun _ => Method.NeverPanics.bind ?_ fun _ => ?_
  · cases c.name with
    | none => exact Method.neverPanics_update _
    | some n => exact neverPanics_tinyString n 127
  · split
    · exact Method.neverPanics_fail _
    · exact (Method.neverPanics_update _).bind fun _ => Method.neverPanics_update _

theorem neverPanics_uhidInput (i : UhidInput) : Method.NeverPanics (serializeUhidInput i) := by
  refine (Method.neverPanics_update _).bind fun _ => ?_
  split
  · exact Method.neverPanics_fail _
  · exact (Method.neverPanics_update _).bind fun _ => Method.neverPanics_update _

theorem neverPanics_text (s : String) (cap : Nat) (h : CutsBetween s cap) :
    Method.NeverPanics (Method.lift (truncateText s cap) >>= fun bytes => writeString bytes) :=
  (Method.neverPanics_lift ((truncateText_ok_iff s cap).mpr h)).bind fun _ =>
    (Method.neverPanics_update _).bind fun _ => Method.neverPanics_update _

theorem neverPanics_payload {msg : ControlMessage} (h : msg.CutsWhole) :
    Method.NeverPanics msg.serializePayload := by
  have bytes (bs : List UInt8) : Method.NeverPanics (extendFromSlice bs) :=
    Method.neverPanics_update _
  have position (x y : Int32) (w h : UInt16) : Method.NeverPanics (writePosition x y w h) :=
    (bytes _).bind fun _ => (bytes _).bind fun _ => (bytes _).bind fun _ => bytes _
  cases msg with
  | uhidCreate c => exact neverPanics_uhidCreate c
  | uhidInput i => exact neverPanics_uhidInput i
  | injectKeycode k =>
    exact (bytes _).bind fun _ => (bytes _).bind fun _ => (bytes _).bind fun _ => bytes _
  | injectText t => exact neverPanics_text t.text _ (h _ rfl)
  | injectTouchEvent t =>
    exact (bytes _).bind fun _ => (bytes _).bind fun _ => (position _ _ _ _).bind fun _ =>
      (bytes _).bind fun _ => (bytes _).bind fun _ => bytes _
  | injectScrollEvent s =>
    exact (position _ _ _ _).bind fun _ => (bytes _).bind fun _ => (bytes _).bind fun _ => bytes _
  | setClipboard s =>
    exact (bytes _).bind fun _ => (bytes _).bind fun _ => neverPanics_text s.text _ (h _ rfl)
  | startApp s => exact neverPanics_tinyString _ _
  | resizeDisplay r => exact (bytes _).bind fun _ => bytes _
  | aiConfig c => exact (bytes _).bind fun _ => (bytes _).bind fun _ => bytes _
  | uhidDestroy d => exact bytes _
  | backOrScreenOn b => exact bytes _
  | getClipboard g => exact bytes _
  | setDisplayPower s => exact bytes _
  | cameraSetTorch t => exact bytes _
  | aiQuery q => exact bytes _
  | _ => exact Method.neverPanics_pure _

theorem neverPanics_serializeInto {msg : ControlMessage} (h : msg.CutsWhole) :
    Method.NeverPanics msg.serializeInto := by
  refine Method.neverPanics_read.bind fun _ => Method.NeverPanics.bind
    (((Method.neverPanics_update _).bind fun _ => neverPanics_payload h).rollback _) fun _ =>
      Method.neverPanics_read.bind fun _ => ?_
  dsimp only
  split
  · exact (Method.neverPanics_update _).bind fun _ => Method.neverPanics_fail _
  · exact Method.neverPanics_pure _

theorem serialize_isPanic (msg : ControlMessage) :
    msg.serialize.isPanic = ((msg.serializeInto).run []).1.isPanic := by
  rw [serializeInto_run]
  cases msg.serialize <;> rfl

/-- A message whose cap falls inside a character panics, whatever is in the buffer. -/
theorem serialize_panics {msg : ControlMessage} (h : ¬msg.CutsWhole) : msg.serialize = .panic := by
  have panics {text : String} {cap : Nat} (inside : ¬CutsBetween text cap) :
      truncateText text cap = .panic := by
    rcases truncateText_eq text cap with ⟨between, _⟩ | ⟨_, cut⟩
    · exact (inside between).elim
    · exact cut
  have inside : ∃ c, msg.cappedText = some c ∧ ¬CutsBetween c.text c.cap := by
    simpa [CutsWhole] using h
  obtain ⟨c, capped, inside⟩ := inside
  have cut := panics inside
  cases msg with
  | injectText t =>
    cases capped
    simp [serialize, serializeInto, Method.run_bind, Method.rollback, serializeTagged,
      serializePayload, serializeInjectText, cut, pushByte, extendFromSlice]
  | setClipboard s =>
    cases capped
    simp [serialize, serializeInto, Method.run_bind, Method.rollback, serializeTagged,
      serializePayload, serializeSetClipboard, cut, pushByte, extendFromSlice, writeU64Be]
  | _ => cases capped

theorem serialize_isPanic_iff (msg : ControlMessage) :
    msg.serialize.isPanic = false ↔ msg.CutsWhole := by
  constructor
  · intro calm
    by_contra inside
    rw [serialize_panics inside] at calm
    contradiction
  · intro h
    rw [serialize_isPanic]
    exact neverPanics_serializeInto h []

theorem text_run {s : String} {cap : Nat} {kept : String}
    (cut : truncateText s cap = .ok (asBytes kept)) (short : (asBytes kept).length ≤ 2 ^ 18)
    (buf : List UInt8) :
    (Method.lift (truncateText s cap) >>= fun bytes => writeString bytes).run buf =
      (.ok (), buf ++ (Bytes.toBe 4 (asBytes kept).length ++ asBytes kept)) := by
  have word : (asBytes kept).length.toUInt32.toNat = (asBytes kept).length :=
    Nat.mod_eq_of_lt (by omega)
  rw [cut, Method.run_lift_ok_bind, writeString, writeU32Be, word, ← List.append_assoc]
  rfl

theorem text_written {msg : ControlMessage} {c : CappedText} (capped : msg.cappedText = some c)
    {bs : List UInt8} (h : msg.serialize = .ok bs) :
    ∃ kept : String, kept.toList <+: c.text.toList ∧ (asBytes kept).length ≤ c.cap ∧
      bs.drop c.header = Bytes.toBe 4 (asBytes kept).length ++ asBytes kept := by
  have serializes : msg.Serializes := by rw [Serializes, h]; rfl
  obtain ⟨payload, run, bytes⟩ := serializes.payload
  have whole : msg.CutsWhole := (serialize_isPanic_iff msg).mp (by rw [h]; rfl)
  rcases truncateText_eq c.text c.cap with ⟨_, kept, first, short, cut⟩ | ⟨inside, _⟩
  · refine ⟨kept, first, short, ?_⟩
    have same : bs = msg.bytes := by rw [ControlMessage.bytes, h]
    rw [same, bytes]
    cases msg with
    | injectText t =>
      cases capped
      have written := text_run cut (Nat.le_trans short (show 300 ≤ 2 ^ 18 by decide)) []
      rw [serializePayload, serializeInjectText, written] at run
      cases run
      simp
    | setClipboard s =>
      cases capped
      have written := text_run cut (Nat.le_trans short (show 2 ^ 18 - 14 ≤ 2 ^ 18 by decide))
        (Bytes.toBe 8 s.sequence.toNat ++ [s.paste.toUInt8])
      have all : (serializeSetClipboard s).run [] = _ := written
      rw [serializePayload, all] at run
      cases run
      exact List.drop_left' (by simp)
    | _ => cases capped
  · exact (inside (whole c capped)).elim

/-- Nothing panics, and what is written of a capped text is a prefix of it within the cap. -/
def TruncatesSafely (msg : ControlMessage) : Prop :=
  msg.serialize.isPanic = false ∧ (∀ buf, ((msg.serializeInto).run buf).1.isPanic = false) ∧
    ∀ c, msg.cappedText = some c → ∀ bs, msg.serialize = .ok bs →
      ∃ kept : String, kept.toList <+: c.text.toList ∧ (asBytes kept).length ≤ c.cap ∧
        bs.drop c.header = Bytes.toBe 4 (asBytes kept).length ++ asBytes kept

end ControlMessage

/-- A message is truncated safely exactly when its cap does not fall inside a character. -/
theorem text_truncates_safely (msg : ControlMessage) : msg.TruncatesSafely ↔ msg.CutsWhole := by
  constructor
  · exact fun safe => (ControlMessage.serialize_isPanic_iff msg).mp safe.1
  · intro whole
    exact ⟨(ControlMessage.serialize_isPanic_iff msg).mpr whole,
      ControlMessage.neverPanics_serializeInto whole,
      fun _ capped _ h => ControlMessage.text_written capped h⟩

def accented : String := String.ofList (List.replicate 299 'a' ++ ['é'])

theorem accented_text_panics :
    ¬(ControlMessage.injectText ⟨accented⟩).TruncatesSafely ∧
      (ControlMessage.injectText ⟨accented⟩).serialize = .panic := by
  have panics : (ControlMessage.injectText ⟨accented⟩).serialize = .panic := by decide +kernel
  refine ⟨fun safe => ?_, panics⟩
  have calm := safe.1
  rw [panics, Outcome.isPanic_panic] at calm
  exact Bool.noConfusion calm

end HidConnect
