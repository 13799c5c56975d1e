import HidConnect.Control.Device
import HidConnect.Hid.Gamepad

/-! The coalescing writer: input messages are gathered in a buffer and written together, critical
messages pass the buffer by, and a direct writer writes every message at once. -/
namespace HidConnect
open Fallible

inductive FlushReason where
  | pending | full | window | critical
  deriving DecidableEq, Repr

def defaultHardLimit : Nat := 4096
/-- One millisecond; durations are in nanoseconds. -/
def defaultWindow : Nat := 1000000
def directGamepadBatchFrames : Nat := 32
def gamepadReportSize : Nat := 15
def directGamepadBatchBytes : Nat := directGamepadBatchFrames * (gamepadReportSize + 5)

/-- `clock` is what `Instant::now` answers, by how often it was asked. -/
structure CoalescingWriter where
  transport : Transport
  pending : List UInt8
  scratch : List UInt8
  lastFlush : Nat
  window : Nat
  hardLimit : Nat
  direct : Bool
  pushed : Nat
  written : Nat
  flushes : Nat
  clock : Nat → Nat
  ticks : Nat

abbrev Coalescing := Method Error CoalescingWriter

/- The bytes of an input message, part by part in the order the source writes them. -/

def be16 (v : UInt16) : List UInt8 := Bytes.toBe 2 v.toNat

def inputHeader (id : UInt16) (size : Nat) : List (List UInt8) :=
  [[ControlMsgType.uhidInput.toU8], be16 id, be16 size.toUInt16]

def uhidInputParts (id : UInt16) (size : Nat) (data : List UInt8) : List (List UInt8) :=
  inputHeader id size ++ [data.take size]

def gamepadInputParts (id : UInt16) (data : Payload) : List (List UInt8) :=
  inputHeader id gamepadReportSize ++ [data.toList]

def gamepadFieldsParts (id : UInt16) (frame : GamepadFrameRaw) : List (List UInt8) :=
  inputHeader id gamepadReportSize ++
    [leBytes (axisRescale frame.leftX), leBytes (axisRescale frame.leftY),
     leBytes (axisRescale frame.rightX), leBytes (axisRescale frame.rightY),
     leBytes (triggerRescale frame.leftTrigger), leBytes (triggerRescale frame.rightTrigger),
     leBytes frame.buttons.toUInt16, [dpadHatValue frame.buttons]]

def extendAll (parts : List (List UInt8)) : Writer Unit := .forEach parts extendFromSlice

def tooLarge (size : Nat) : Error := .controlMessageTooLarge size (hidMaxSize + 5)

def pushUhidInputToBuf (id : UInt16) (size : Nat) (data : List UInt8) : Writer Unit :=
  if size > hidMaxSize ∨ size > data.length then .fail (tooLarge size)
  else extendAll (uhidInputParts id size data)

def pushGamepadInputToBuf (id : UInt16) (data : Payload) : Writer Unit :=
  extendAll (gamepadInputParts id data)

def pushGamepadInputFieldsToBuf (id : UInt16) (frame : GamepadFrameRaw) : Writer Unit :=
  extendAll (gamepadFieldsParts id frame)

def zeros (n : Nat) : List UInt8 := List.replicate n 0

/-- The stack array and how much of it is the message. -/
def encodeUhidInputToArray (id : UInt16) (size : Nat) (data : List UInt8) :
    Result (List UInt8 × Nat) :=
  if size > hidMaxSize ∨ size > data.length then .err (tooLarge size)
  else .ok (Bytes.copyAll 0 (uhidInputParts id size data) (zeros (hidMaxSize + 5)), 5 + size)

def encodeGamepadInputToArray (id : UInt16) (data : Payload) : List UInt8 :=
  Bytes.copyAll 0 (gamepadInputParts id data) (zeros (gamepadReportSize + 5))

def encodeGamepadInputFieldsToArray (id : UInt16) (frame : GamepadFrameRaw) : List UInt8 :=
  Bytes.copyAll 0 (gamepadFieldsParts id frame) (zeros (gamepadReportSize + 5))

namespace CoalescingWriter

def withLimits (transport : Transport) (window hardLimit : Nat) (clock : Nat → Nat) :
    CoalescingWriter :=
  { transport, pending := [], scratch := [], lastFlush := clock 0, window, hardLimit
    direct := hardLimit = 0 && window = 0, pushed := 0, written := 0, flushes := 0, clock
    ticks := 1 }

def new (transport : Transport) (clock : Nat → Nat) : CoalescingWriter :=
  withLimits transport defaultWindow defaultHardLimit clock

def makeDirect (transport : Transport) (clock : Nat → Nat) : CoalescingWriter :=
  withLimits transport 0 0 clock

def onTransport {α : Type} (m : Method Error Transport α) : Coalescing α :=
  .zoom (·.transport) (fun t w => { w with transport := t }) m

def onPending {α : Type} (m : Writer α) : Coalescing α :=
  .zoom (·.pending) (fun buf w => { w with pending := buf }) m

def onScratch {α : Type} (m : Writer α) : Coalescing α :=
  .zoom (·.scratch) (fun buf w => { w with scratch := buf }) m

def now : Coalescing Nat :=
  ⟨fun w => (.ok (w.clock w.ticks), { w with ticks := w.ticks + 1 })⟩

/-- `self.last_flush.elapsed()`, which is zero for a time in the future. -/
def elapsed : Coalescing Nat := do
  let t ← now
  pure (t - (← .read).lastFlush)

def stampFlush : Coalescing Unit := do
  let t ← now
  .update fun w => { w with lastFlush := t }

def countPushed (n : Nat) : Coalescing Unit := .update fun w => { w with pushed := w.pushed + n }

def countFlush (bytes : Nat) : Coalescing Unit :=
  .update fun w => { w with written := w.written + bytes, flushes := w.flushes + 1 }

/-- One write and one transport flush, counted when both succeeded. -/
def writeThrough (bytes : List UInt8) : Coalescing Unit := do
  onTransport (Transport.deliver bytes)
  countFlush bytes.length

def flushNow : Coalescing Nat := do
  let pending := (← .read).pending
  if pending = [] then do
    stampFlush
    pure 0
  else do
    onTransport (Transport.deliver pending)
    .update fun w => { w with pending := [] }
    stampFlush
    countFlush pending.length
    pure pending.length

/-- The window check made after a message or a batch was buffered. -/
def flushIfWindow (otherwise : FlushReason) : Coalescing FlushReason := do
  let e ← elapsed
  let w ← .read
  if e ≥ w.window ∧ w.pending ≠ [] then do
    let _ ← flushNow
    pure .window
  else pure otherwise

/-- The limit check and then the window check. -/
def flushIfDue : Coalescing FlushReason := do
  let w ← .read
  if w.pending.length ≥ w.hardLimit then do
    let _ ← flushNow
    pure .full
  else flushIfWindow .pending

/-- The end of every direct push. -/
def writeDirect (bytes : List UInt8) : Coalescing Unit := do
  writeThrough bytes
  stampFlush

def pushGamepadInputFields (id : UInt16) (frame : GamepadFrameRaw) : Coalescing FlushReason := do
  let w ← .read
  countPushed 1
  if w.direct then do
    writeDirect (encodeGamepadInputFieldsToArray id frame)
    pure .window
  else do
    onPending (pushGamepadInputFieldsToBuf id frame)
    flushIfDue

def pushUhidInput (id size : UInt16) (data : List UInt8) : Coalescing FlushReason := do
  let w ← .read
  countPushed 1
  if w.direct then do
    let (raw, serializedLen) ← .lift (encodeUhidInputToArray id size.toNat data)
    writeDirect (raw.take serializedLen)
    pure .window
  else do
    onPending (pushUhidInputToBuf id size.toNat data)
    flushIfDue

def pushGamepadInput (id : UInt16) (data : Payload) : Coalescing FlushReason := do
  let w ← .read
  countPushed 1
  if w.direct then do
    writeDirect (encodeGamepadInputToArray id data)
    pure .window
  else do
    onPending (pushGamepadInputToBuf id data)
    flushIfDue

/- Batches. A frame is given by its parts, so that packed frames and frames in fields share
one definition. -/

/-- Encode the frames of a chunk one after the other; the array is reused from chunk to chunk. -/
def encodeChunk : Nat → List (List (List UInt8)) → List UInt8 → List UInt8
  | _, [], raw => raw
  | offset, frame :: rest, raw =>
    encodeChunk (offset + (gamepadReportSize + 5)) rest (Bytes.copyAll offset frame raw)

def writeChunks : List (List (List (List UInt8))) → List UInt8 → Nat → Coalescing Nat
  | [], _, serialized => pure serialized
  | chunk :: rest, raw, serialized => do
    let raw := encodeChunk 0 chunk raw
    let offset := chunk.length * (gamepadReportSize + 5)
    onTransport (Transport.writeAll (raw.take offset))
    writeChunks rest raw (serialized + offset)

/-- Buffer the frames, flushing whenever the limit is reached. -/
def pushLimited : List (List (List UInt8)) → FlushReason → Coalescing FlushReason
  | [], reason => pure reason
  | frame :: rest, reason => do
    onPending (extendAll frame)
    let w ← .read
    if w.pending.length ≥ w.hardLimit then do
      let _ ← flushNow
      pushLimited rest .full
    else pushLimited rest reason

def pushBatch (frames : List (List (List UInt8))) : Coalescing FlushReason := do
  let w ← .read
  countPushed frames.length
  if w.direct then do
    let serialized ← writeChunks (Bytes.chunks directGamepadBatchFrames frames)
      (zeros directGamepadBatchBytes) 0
    onTransport Transport.flush
    countFlush serialized
    stampFlush
    pure .window
  else do
    let w ← .read
    if w.pending.length + frames.length * (gamepadReportSize + 5) ≤ w.hardLimit then do
      .forEach frames fun frame => onPending (extendAll frame)
      flushIfWindow .pending
    else do
      let reason ← pushLimited frames .pending
      flushIfWindow reason

def pushGamepadInputBatch (id : UInt16) : List Payload → Coalescing FlushReason
  | [] => pure .pending
  | [data] => pushGamepadInput id data
  | data => pushBatch (data.map (gamepadInputParts id))

def pushGamepadInputBatchFromFields (id : UInt16) : List GamepadFrameRaw → Coalescing FlushReason
  | [] => pure .pending
  | [frame] => pushGamepadInputFields id frame
  | frames => pushBatch (frames.map (gamepadFieldsParts id))

def pushMessageToScratch (msg : ControlMessage) : Coalescing Unit := do
  .update fun w => { w with scratch := [] }
  let _ ← onScratch msg.serializeInto
  pure ()

/-- Serialize, write and flush; the scratch buffer is taken out for the write and comes back
empty. -/
def writeScratch (msg : ControlMessage) (stamp : Coalescing Unit) : Coalescing Unit := do
  pushMessageToScratch msg
  let serialized := (← .read).scratch
  .update fun w => { w with scratch := [] }
  writeThrough serialized
  stamp

def pushDirect (msg : ControlMessage) : Coalescing FlushReason := do
  countPushed 1
  match msg with
  | .uhidInput input => do
    let (raw, serializedLen) ←
      .lift (encodeUhidInputToArray input.id input.size.toNat input.data.toList)
    writeDirect (raw.take serializedLen)
    pure .window
  | msg => do
    writeScratch msg stampFlush
    pure (if msg.isCritical then .critical else .window)

def bufferMessage : ControlMessage → Coalescing Unit
  | .uhidInput input =>
    onPending (pushUhidInputToBuf input.id input.size.toNat input.data.toList)
  | msg => do
    pushMessageToScratch msg
    let scratch := (← .read).scratch
    onPending (extendFromSlice scratch)

def push (msg : ControlMessage) : Coalescing FlushReason := do
  let w ← .read
  if w.direct then pushDirect msg
  else do
    countPushed 1
    if msg.isCritical then do
      let _ ← flushNow
      -- The time of this write is not recorded as the last flush.
      writeScratch msg (pure ())
      pure .critical
    else do
      bufferMessage msg
      flushIfDue

/-- `into_inner`: flush, and hand the transport out. -/
def intoInner : Coalescing Transport := do
  let _ ← flushNow
  pure (← .read).transport

end CoalescingWriter

end HidConnect
