import HidConnect.Ai
import HidConnect.Control.Text
import HidConnect.Kernel.Bridge

/-! Messages from the device to the host: native ones, and envelopes of the AI extension. -/
namespace HidConnect.Incoming
open Fallible

def deviceMsgMaxSize : Nat := 1 <<< 18
def deviceMsgTextMaxLength : Nat := deviceMsgMaxSize - 5

def typeClipboard : UInt8 := 0
def typeAckClipboard : UInt8 := 1
def typeUhidOutput : UInt8 := 2

inductive DeviceMessage where
  | clipboard (text : String)
  | ackClipboard (sequence : UInt64)
  | uhidOutput (id : UInt16) (data : List UInt8)
  deriving DecidableEq

inductive DeviceEvent where
  | native (message : DeviceMessage)
  | frameSummary (summary : FrameSummary)
  | aiStats (stats : AiStats)
  | unknownEnvelope (msgType : UInt8) (payload : List UInt8)
  deriving DecidableEq

def tooLarge (what : String) (len max : Nat) : IoError :=
  IoError.invalidData
    (what ++ " payload too large: " ++ toString len ++ " bytes (max " ++ toString max ++ ")")

/-- An empty body is not read at all. -/
def readBody (len : Nat) : Reading IoError (List UInt8) :=
  if 0 < len then Reader.readExact len else pure []

def aiErrorToIo (e : Error) : IoError := IoError.invalidData e.display

section Readers
/- How the standard library displays what is wrong with bytes that are not UTF-8. -/
variable (utf8Error : List UInt8 → String)

def fromUtf8 (payload : List UInt8) : Outcome IoError String :=
  match String.fromUTF8? payload.toByteArray with
  | some text => .ok text
  | none => .err (IoError.invalidData (utf8Error payload))

def readClipboard : Reading IoError DeviceMessage := do
  let len ← readU32Be
  if deviceMsgTextMaxLength < len.toNat then
    .fail (tooLarge "clipboard" len.toNat deviceMsgTextMaxLength)
  else
    let payload ← readBody len.toNat
    let text ← .lift (fromUtf8 utf8Error payload)
    pure (.clipboard text)

def readAckClipboard : Reading IoError DeviceMessage := do
  let sequence ← readU64Be
  pure (.ackClipboard sequence)

def readUhidOutput : Reading IoError DeviceMessage := do
  let id ← readU16Be
  let size ← readU16Be
  if deviceMsgMaxSize - 5 < size.toNat then
    .fail (tooLarge "uhid output" size.toNat (deviceMsgMaxSize - 5))
  else
    let data ← readBody size.toNat
    pure (.uhidOutput id data)

def readAiOrUnknownEnvelope (ty : UInt8) : Reading IoError DeviceEvent := do
  let len ← readU32Be
  if deviceMsgMaxSize - 5 < len.toNat then
    .fail (tooLarge "device event" len.toNat (deviceMsgMaxSize - 5))
  else
    let payload ← readBody len.toNat
    if ty = typeFrameSummary then
      .lift (((FrameSummary.parse payload).map .frameSummary).mapErr aiErrorToIo)
    else if ty = typeAiStats then
      .lift (((AiStats.parse payload).map .aiStats).mapErr aiErrorToIo)
    else pure (.unknownEnvelope ty payload)

def readDeviceMessage : Reading IoError DeviceMessage := do
  let ty ← readU8
  if ty = typeClipboard then readClipboard utf8Error
  else if ty = typeAckClipboard then readAckClipboard
  else if ty = typeUhidOutput then readUhidOutput
  else .fail (IoError.invalidData ("unknown device message type " ++ toString ty))

def readDeviceEvent : Reading IoError DeviceEvent := do
  let ty ← readU8
  if ty = typeClipboard then pure (.native (← readClipboard utf8Error))
  else if ty = typeAckClipboard then pure (.native (← readAckClipboard))
  else if ty = typeUhidOutput then pure (.native (← readUhidOutput))
  else readAiOrUnknownEnvelope ty

end Readers

/- The format of the stream. -/

def DeviceMessage.encode : DeviceMessage → List UInt8
  | clipboard text => typeClipboard :: (Bytes.toBe 4 (asBytes text).length ++ asBytes text)
  | ackClipboard sequence => typeAckClipboard :: Bytes.toBe 8 sequence.toNat
  | uhidOutput id data =>
    typeUhidOutput :: (Bytes.toBe 2 id.toNat ++ (Bytes.toBe 2 data.length ++ data))

/-- The caps, and the lengths that a length field can hold. -/
def DeviceMessage.Fits : DeviceMessage → Prop
  | clipboard text => (asBytes text).length ≤ deviceMsgTextMaxLength
  | ackClipboard _ => True
  | uhidOutput _ data => data.length < 2 ^ 16

def envelope (ty : UInt8) (payload : List UInt8) : List UInt8 :=
  ty :: (Bytes.toBe 4 payload.length ++ payload)

/-- What a device may send: messages, envelopes whose payload may end in padding, and messages whose
length is accepted but whose body is malformed. -/
inductive Sent where
  | native (message : DeviceMessage)
  | frameSummary (summary : FrameSummary) (padding : List UInt8)
  | aiStats (stats : AiStats) (padding : List UInt8)
  | unknown (ty : UInt8) (payload : List UInt8)
  | badClipboard (payload : List UInt8)
  | badFrameSummary (payload : List UInt8)
  | badAiStats (payload : List UInt8)

namespace Sent

def bytes : Sent → List UInt8
  | native message => message.encode
  | frameSummary summary padding => envelope typeFrameSummary (summary.encode ++ padding)
  | aiStats stats padding => envelope typeAiStats (stats.encode ++ padding)
  | unknown ty payload => envelope ty payload
  | badClipboard payload => envelope typeClipboard payload
  | badFrameSummary payload => envelope typeFrameSummary payload
  | badAiStats payload => envelope typeAiStats payload

def Sound : Sent → Prop
  | native message => message.Fits
  | frameSummary summary padding =>
    summary.Fits ∧ (summary.encode ++ padding).length ≤ deviceMsgMaxSize - 5
  | aiStats stats padding => (stats.encode ++ padding).length ≤ deviceMsgMaxSize - 5
  | unknown ty payload => typeAiStats < ty ∧ payload.length ≤ deviceMsgMaxSize - 5
  | badClipboard payload =>
    payload.length ≤ deviceMsgTextMaxLength ∧ ∀ text, asBytes text ≠ payload
  | badFrameSummary payload =>
    payload.length ≤ deviceMsgMaxSize - 5 ∧
      ∀ summary : FrameSummary, summary.Fits → ¬summary.encode <+: payload
  | badAiStats payload =>
    payload.length ≤ deviceMsgMaxSize - 5 ∧ ∀ stats : AiStats, ¬stats.encode <+: payload

def event : Sent → Option DeviceEvent
  | native message => some (.native message)
  | frameSummary summary _ => some (.frameSummary summary)
  | aiStats stats _ => some (.aiStats stats)
  | unknown ty payload => some (.unknownEnvelope ty payload)
  | badClipboard _ | badFrameSummary _ | badAiStats _ => none

/-- How a call that reads the message has to come back. -/
def Answers (sent : Sent) (result : Outcome IoError DeviceEvent) : Prop :=
  match sent.event with
  | some event => result = .ok event
  | none => ∃ message, result = .err (IoError.invalidData message)

end Sent

end HidConnect.Incoming
