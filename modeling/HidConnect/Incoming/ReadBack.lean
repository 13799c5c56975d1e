import HidConnect.Incoming
import HidConnect.Library.Decoder

/-! The stream from the device is read back message by message, also around malformed ones. -/
namespace HidConnect.Incoming
open Fallible

theorem fromUtf8_asBytes (utf8Error : List UInt8 → String) (text : String) :
    fromUtf8 utf8Error (asBytes text) = .ok text := by
  have same : (asBytes text).toByteArray = text.toByteArray := by
    refine ByteArray.ext ?_
    rw [List.data_toByteArray, asBytes, Array.toArray_toList]
    rfl
  have back : String.fromUTF8? text.toByteArray = some text := dif_pos text.isValidUTF8
  rw [fromUtf8, same, back]

theorem fromUtf8_err (utf8Error : List UInt8 → String) {payload : List UInt8}
    (malformed : ∀ text, asBytes text ≠ payload) :
    fromUtf8 utf8Error payload = .err (IoError.invalidData (utf8Error payload)) := by
  unfold fromUtf8
  split
  case h_1 text decoded =>
    refine absurd ?_ (malformed text)
    unfold String.fromUTF8? at decoded
    split at decoded
    · cases decoded
      exact congrArg Array.toList List.data_toByteArray
    · cases decoded
  case h_2 => rfl

theorem takes_readBody (payload : List UInt8) :
    Reader.Takes (readBody payload.length) payload (.ok payload) := by
  unfold readBody
  split
  case isTrue => exact Reader.takes_readExact payload
  case isFalse empty =>
    obtain rfl : payload = [] := List.length_eq_zero_iff.mp (Nat.eq_zero_of_not_pos empty)
    exact Reader.takes_pure []

theorem takes_sized {α γ : Type} {count : Reading IoError γ} {num : γ → Nat} {w max : Nat}
    {tooLong : γ → Reading IoError α} {rest : List UInt8 → Reading IoError α} {payload : List UInt8}
    {result : Outcome IoError α} {c : γ}
    (hc : Reader.Reads count (fun _ => True) (fun c => Bytes.toBe w (num c)))
    (counted : num c = payload.length) (fits : payload.length ≤ max)
    (h : Reader.Takes (rest payload) [] result) :
    Reader.Takes (count >>= fun c => if max < num c then tooLong c else readBody (num c) >>= rest)
      (Bytes.toBe w payload.length ++ payload) result := by
  have length := hc.takes c trivial
  rw [counted] at length
  refine length.bind ?_
  rw [counted, if_neg (Nat.not_lt.mpr fits)]
  exact (takes_readBody payload).last h

theorem toNat_length32 {payload : List UInt8} (fits : payload.length ≤ deviceMsgMaxSize - 5) :
    payload.length.toUInt32.toNat = payload.length :=
  UInt32.toNat_ofNat_of_lt' (Nat.lt_of_le_of_lt fits (by decide))

theorem takes_tag (ty : UInt8) : Reader.Takes (readU8 : Reading IoError _) [ty] (.ok ty) := by
  have one := readU8_reads.takes (ε := IoError) ty trivial
  have digit : Bytes.toBe 1 ty.toNat = [ty] := Bytes.toBe_ofBe [ty]
  rwa [digit] at one

theorem extension_frameSummary : typeUhidOutput < typeFrameSummary := by decide
theorem extension_aiStats : typeUhidOutput < typeAiStats := by decide

theorem tag_ne {tag limit ty : UInt8} (within : tag ≤ limit) (above : limit < ty) : ty ≠ tag :=
  (UInt8.ne_of_lt (UInt8.lt_of_le_of_lt within above)).symm

section Readers
variable (utf8Error : List UInt8 → String)

theorem takes_readClipboard {payload : List UInt8} (fits : payload.length ≤ deviceMsgTextMaxLength) :
    Reader.Takes (readClipboard utf8Error) (Bytes.toBe 4 payload.length ++ payload)
      ((fromUtf8 utf8Error payload).map .clipboard) := by
  refine takes_sized readU32Be_reads (toNat_length32 fits) fits ?_
  exact Reader.Takes.map _ (Reader.takes_lift _)

theorem takes_readAckClipboard (sequence : UInt64) :
    Reader.Takes readAckClipboard (Bytes.toBe 8 sequence.toNat) (.ok (.ackClipboard sequence)) :=
  (readU64Be_reads.takes sequence trivial).map DeviceMessage.ackClipboard

theorem takes_readUhidOutput (id : UInt16) {data : List UInt8} (fits : data.length < 2 ^ 16) :
    Reader.Takes readUhidOutput (Bytes.toBe 2 id.toNat ++ (Bytes.toBe 2 data.length ++ data))
      (.ok (.uhidOutput id data)) := by
  have counted : data.length.toUInt16.toNat = data.length := UInt16.toNat_ofNat_of_lt' fits
  have below : data.length ≤ deviceMsgMaxSize - 5 := Nat.le_trans (Nat.le_of_lt fits) (by decide)
  exact (readU16Be_reads.takes id trivial).bind
    (takes_sized readU16Be_reads counted below (Reader.takes_pure _))

theorem takes_clipboard {payload : List UInt8} (fits : payload.length ≤ deviceMsgTextMaxLength) :
    Reader.Takes (readDeviceEvent utf8Error) (envelope typeClipboard payload)
      (((fromUtf8 utf8Error payload).map .clipboard).map .native) := by
  refine (takes_tag typeClipboard).bind ?_
  rw [if_pos rfl]
  exact Reader.Takes.map _ (takes_readClipboard utf8Error fits)

theorem takes_native {message : DeviceMessage} (fits : message.Fits) :
    Reader.Takes (readDeviceEvent utf8Error) message.encode (.ok (.native message)) := by
  cases message with
  | clipboard text =>
    have whole := takes_clipboard utf8Error fits
    rwa [fromUtf8_asBytes] at whole
  | ackClipboard sequence =>
    refine (takes_tag typeAckClipboard).bind ?_
    rw [if_neg (by decide), if_pos rfl]
    exact (takes_readAckClipboard sequence).map DeviceEvent.native
  | uhidOutput id data =>
    refine (takes_tag typeUhidOutput).bind ?_
    rw [if_neg (by decide), if_neg (by decide), if_pos rfl]
    exact (takes_readUhidOutput id fits).map DeviceEvent.native

theorem takes_message {message : DeviceMessage} (fits : message.Fits) :
    Reader.Takes (readDeviceMessage utf8Error) message.encode (.ok message) := by
  cases message with
  | clipboard text =>
    have body := takes_readClipboard utf8Error fits
    rw [fromUtf8_asBytes] at body
    refine (takes_tag typeClipboard).bind ?_
    rw [if_pos rfl]
    exact body
  | ackClipboard sequence =>
    refine (takes_tag typeAckClipboard).bind ?_
    rw [if_neg (by decide), if_pos rfl]
    exact takes_readAckClipboard sequence
  | uhidOutput id data =>
    refine (takes_tag typeUhidOutput).bind ?_
    rw [if_neg (by decide), if_neg (by decide), if_pos rfl]
    exact takes_readUhidOutput id fits

def unpack (ty : UInt8) (payload : List UInt8) : Outcome IoError DeviceEvent :=
  if ty = typeFrameSummary then ((FrameSummary.parse payload).map .frameSummary).mapErr aiErrorToIo
  else if ty = typeAiStats then ((AiStats.parse payload).map .aiStats).mapErr aiErrorToIo
  else .ok (.unknownEnvelope ty payload)

theorem takes_envelope {ty : UInt8} (extension : typeUhidOutput < ty) {payload : List UInt8}
    (fits : payload.length ≤ deviceMsgMaxSize - 5) :
    Reader.Takes (readDeviceEvent utf8Error) (envelope ty payload) (unpack ty payload) := by
  refine (takes_tag ty).bind ?_
  rw [if_neg (tag_ne (by decide) extension), if_neg (tag_ne (by decide) extension),
    if_neg (tag_ne (by decide) extension)]
  refine takes_sized readU32Be_reads (toNat_length32 fits) fits ?_
  unfold unpack
  split_ifs
  · exact Reader.takes_lift _
  · exact Reader.takes_lift _
  · exact Reader.takes_pure _

theorem Sent.Sound.answered {sent : Sent} (sound : sent.Sound) :
    ∃ result, Reader.Takes (readDeviceEvent utf8Error) sent.bytes result ∧ sent.Answers result := by
  cases sent with
  | native message => exact ⟨_, takes_native utf8Error sound, rfl⟩
  | frameSummary summary padding =>
    have parsed : FrameSummary.parse (summary.encode ++ padding) = .ok summary :=
      (FrameSummary.reads.ok_iff _ _ _).mpr ⟨sound.1, padding, rfl⟩
    have whole := takes_envelope utf8Error extension_frameSummary sound.2
    rw [unpack, if_pos rfl, parsed] at whole
    exact ⟨_, whole, rfl⟩
  | aiStats stats padding =>
    have parsed : AiStats.parse (stats.encode ++ padding) = .ok stats :=
      (AiStats.reads.ok_iff _ _ _).mpr ⟨trivial, padding, rfl⟩
    have whole := takes_envelope utf8Error extension_aiStats sound
    rw [unpack, if_neg (by decide), if_pos rfl, parsed] at whole
    exact ⟨_, whole, rfl⟩
  | unknown ty payload =>
    obtain ⟨new, fits⟩ := sound
    have whole := takes_envelope utf8Error (UInt8.lt_trans extension_aiStats new) fits
    rw [unpack, if_neg (tag_ne (by decide) new), if_neg (tag_ne (by decide) new)] at whole
    exact ⟨_, whole, rfl⟩
  | badClipboard payload =>
    have whole := takes_clipboard utf8Error sound.1
    rw [fromUtf8_err utf8Error sound.2] at whole
    exact ⟨_, whole, _, rfl⟩
  | badFrameSummary payload =>
    obtain ⟨e, failed⟩ := FrameSummary.reads.err sound.2 (ioErr cursorEnd)
    have whole := takes_envelope utf8Error extension_frameSummary sound.1
    rw [unpack, if_pos rfl, FrameSummary.parse, failed] at whole
    exact ⟨_, whole, _, rfl⟩
  | badAiStats payload =>
    obtain ⟨e, failed⟩ := AiStats.reads.err (fun stats _ => sound.2 stats) (ioErr cursorEnd)
    have whole := takes_envelope utf8Error extension_aiStats sound.1
    rw [unpack, if_neg (by decide), if_pos rfl, AiStats.parse, failed] at whole
    exact ⟨_, whole, _, rfl⟩

/-- Every message that is sent is answered in its turn, and the reader then stands right behind
the last one. -/
theorem events_read_back (sents : List Sent) (sound : ∀ sent ∈ sents, sent.Sound)
    (rest : List UInt8) (closing : IoError) :
    ∃ results, Reader.calls (readDeviceEvent utf8Error) sents.length
        ⟨sents.flatMap Sent.bytes ++ rest, closing⟩ = (results, ⟨rest, closing⟩) ∧
      List.Forall₂ Sent.Answers sents results :=
  Reader.calls_flatMap sents (fun sent h => (sound sent h).answered utf8Error) rest closing

end Readers

theorem events_read_back_four :
    let summary : FrameSummary := {
      timestampMs := 100, frameSeq := 42, width := 1000, height := 2000, flags := 9
      features := [0x3E800000], motion := [⟨100, 200, 5, -3⟩]
      objects := [⟨100, 200, 301, 101, 7, 220⟩], textRegions := [] }
    let sents : List Sent := [.frameSummary summary [0xAA], .badClipboard [0xE4, 0xBD],
      .native (.ackClipboard 7), .badAiStats [1, 2, 3]]
    ∃ results, Reader.calls (readDeviceEvent fun _ => "invalid utf-8") 4
        ⟨sents.flatMap Sent.bytes ++ [2], cursorEnd⟩ = (results, ⟨[2], cursorEnd⟩) ∧
      List.Forall₂ Sent.Answers sents results := by
  intro summary sents
  refine events_read_back _ sents ?_ [2] cursorEnd
  simp only [sents, List.forall_mem_cons, List.not_mem_nil]
  refine ⟨?_, ?_, ?_, ?_, ?_⟩
  · exact ⟨⟨by decide, by decide, by decide, by decide⟩, by decide⟩
  · refine ⟨by decide, fun text same => ?_⟩
    have decoded := fromUtf8_asBytes (fun _ => "invalid utf-8") text
    have malformed : (fromUtf8 (fun _ => "invalid utf-8") [0xE4, 0xBD]).isOk = false := by
      decide +kernel
    rw [← same, decoded] at malformed
    contradiction
  · trivial
  · refine ⟨by decide, fun stats starts => ?_⟩
    have long := starts.length_le
    rw [stats.length_encode] at long
    exact absurd long (by decide)
  · exact fun _ none => absurd none id

end HidConnect.Incoming
