import HidConnect.Incoming.ReadBack
import HidConnect.Library.Stalls
import Mathlib.Data.List.Forall2

/-! Sockets that time out: where a caller of the device reader may call again. -/
namespace HidConnect.Incoming
open Fallible

def isTimeout (e : IoError) : Bool := e.kind == .timedOut || e.kind == .wouldBlock

/-- Native messages, AI envelopes and unknown envelopes, with the event that each of them is. -/
def WellFormed (sent : Sent) (event : DeviceEvent) : Prop := sent.Sound ∧ sent.event = some event

section Readers
variable (utf8Error : List UInt8 → String)

theorem steady_readU8 : Reader.Steady (readU8 : Reading IoError _) := (Reader.steady_readUint 1).map _
theorem steady_readU16Be : Reader.Steady (readU16Be : Reading IoError _) :=
  (Reader.steady_readUint 2).map _
theorem steady_readU32Be : Reader.Steady (readU32Be : Reading IoError _) :=
  (Reader.steady_readUint 4).map _
theorem steady_readU64Be : Reader.Steady (readU64Be : Reading IoError _) :=
  (Reader.steady_readUint 8).map _

theorem steady_readBody (len : Nat) : Reader.Steady (readBody len) := by
  unfold readBody
  split
  · exact Reader.steady_readExact len
  · exact Reader.steady_pure []

theorem steady_readClipboard : Reader.Steady (readClipboard utf8Error) := by
  refine steady_readU32Be.bind fun len => ?_
  split
  · exact Reader.steady_fail _
  · exact (steady_readBody _).bind fun payload => (Reader.steady_lift _).map _

theorem steady_readAckClipboard : Reader.Steady readAckClipboard := steady_readU64Be.map _

theorem steady_readUhidOutput : Reader.Steady readUhidOutput := by
  refine steady_readU16Be.bind fun id => steady_readU16Be.bind fun size => ?_
  split
  · exact Reader.steady_fail _
  · exact (steady_readBody _).map _

theorem steady_readAiOrUnknownEnvelope (ty : UInt8) : Reader.Steady (readAiOrUnknownEnvelope ty) := by
  refine steady_readU32Be.bind fun len => ?_
  split
  · exact Reader.steady_fail _
  · refine (steady_readBody _).bind fun payload => ?_
    split_ifs
    · exact Reader.steady_lift _
    · exact Reader.steady_lift _
    · exact Reader.steady_pure _

theorem steady_readDeviceMessage : Reader.Steady (readDeviceMessage utf8Error) := by
  refine steady_readU8.bind fun ty => ?_
  split_ifs
  · exact steady_readClipboard utf8Error
  · exact steady_readAckClipboard
  · exact steady_readUhidOutput
  · exact Reader.steady_fail _

theorem steady_readDeviceEvent : Reader.Steady (readDeviceEvent utf8Error) := by
  refine steady_readU8.bind fun ty => ?_
  split_ifs
  · exact (steady_readClipboard utf8Error).map _
  · exact steady_readAckClipboard.map _
  · exact steady_readUhidOutput.map _
  · exact steady_readAiOrUnknownEnvelope ty

theorem DeviceMessage.encode_ne_nil (message : DeviceMessage) : message.encode ≠ [] := by
  cases message <;> exact List.cons_ne_nil _ _

theorem Sent.bytes_ne_nil (sent : Sent) : sent.bytes ≠ [] := by
  cases sent with
  | native message => exact message.encode_ne_nil
  | _ => exact List.cons_ne_nil _ _

theorem WellFormed.takes {sent : Sent} {event : DeviceEvent} (h : WellFormed sent event) :
    Reader.Takes (readDeviceEvent utf8Error) sent.bytes (.ok event) := by
  obtain ⟨result, takes, answers⟩ := h.1.answered utf8Error
  unfold Sent.Answers at answers
  rw [h.2] at answers
  exact answers ▸ takes

/-- A caller who calls again after every timeout reads the stream as if there had been none, and loses
nothing, if and only if the timeouts fall between two messages: for events, and for native messages
alone. -/
theorem timeouts_harmless_iff :
    (∀ sents events, List.Forall₂ WellFormed sents events → ∀ s : Reader.Stalled isTimeout,
      s.content = sents.flatMap Sent.bytes →
        (Reader.Unharmed (readDeviceEvent utf8Error) cursorEnd events s ↔
          Reader.Between Sent.bytes sents s.bytes s.stalls)) ∧
    ∀ messages, (∀ message ∈ messages, message.Fits) → ∀ s : Reader.Stalled isTimeout,
      s.content = messages.flatMap DeviceMessage.encode →
        (Reader.Unharmed (readDeviceMessage utf8Error) cursorEnd messages s ↔
          Reader.Between DeviceMessage.encode messages s.bytes s.stalls) := by
  constructor
  · intro sents events wellFormed s carries
    refine Reader.unharmed_iff (steady_readDeviceEvent utf8Error) rfl (fun e => rfl) ?_ s carries
    exact wellFormed.imp fun sent event h => ⟨h.takes utf8Error, sent.bytes_ne_nil⟩
  · intro messages fits s carries
    refine Reader.unharmed_iff (steady_readDeviceMessage utf8Error) rfl (fun e => rfl) ?_ s carries
    exact List.forall₂_same.mpr fun message member =>
      ⟨takes_message utf8Error (fits message member), message.encode_ne_nil⟩

end Readers

def wouldBlock : {e : IoError // isTimeout e = true} :=
  ⟨{ kind := .wouldBlock, message := "Resource temporarily unavailable (os error 11)" }, rfl⟩

def report : DeviceMessage := .uhidOutput 1 [1, 0, 0, 0, 0, 0, 0, 0, 42]

def cutReport : Reader.Stalled isTimeout where
  bytes := report.encode.take 5
  stalls := [(wouldBlock, report.encode.drop 5)]

/-- The data of the report are read as a message of their own. -/
theorem cut_report_is_misread :
    (Reader.session (readDeviceEvent fun _ => "invalid utf-8") cursorEnd 3 cutReport).filterMap
        Reader.Call.value = [.native (.ackClipboard 42)] ∧
      ¬Reader.Unharmed (readDeviceEvent fun _ => "invalid utf-8") cursorEnd [.native report] cutReport := by
  refine ⟨rfl, fun unharmed => ?_⟩
  have first : Reader.session (readDeviceEvent fun _ => "invalid utf-8") cursorEnd 1 cutReport =
      [{ outcome := .err wouldBlock, taken := 5 }] := rfl
  have none := unharmed.unlost 1 { outcome := .err wouldBlock, taken := 5 }
    (by rw [first]; exact List.mem_singleton_self _) wouldBlock rfl wouldBlock.2
  contradiction

/-- The same report, with the stall before it. -/
theorem stall_before_report :
    Reader.Unharmed (readDeviceMessage fun _ => "invalid utf-8") cursorEnd [report]
      (⟨[], [(wouldBlock, report.encode)]⟩ : Reader.Stalled isTimeout) := by
  have fits : ∀ message ∈ [report], message.Fits := by simp [report, DeviceMessage.Fits]
  exact ((timeouts_harmless_iff fun _ => "invalid utf-8").2 [report] fits _ rfl).mpr
    ⟨[], [report], rfl, rfl, rfl⟩

end HidConnect.Incoming
