import HidConnect.Client.Command
import HidConnect.Client.Ring

/-! The gamepad methods of a client: into the ring where there is one, and into the channel. -/
namespace HidConnect
open Fallible

inductive SendAnswer where
  | accepted | full | disconnected
  deriving DecidableEq, Repr

/-- The command channel, with what it answers to each try in turn. -/
structure Channel where
  sent : List HidCommand
  sends : Nat
  answers : Nat → SendAnswer

/-- What the consumer thread does before a push: it pops so many frames, and may leave its loop. -/
structure ConsumerMove where
  pops : Nat
  leaves : Bool

/-- The ring with the consumer thread at its other end. `taken` is what the consumer has popped,
`moves` what it does before each push, and `admitted` the numbers of the pushes that found room. -/
structure FastPath where
  ring : GamepadFrameRing
  taken : List GamepadFrameRaw
  admitted : List Nat
  live : Bool
  moves : Nat → ConsumerMove
  pushes : Nat

namespace FastPath

def start (moves : Nat → ConsumerMove) : FastPath :=
  { ring := .new, taken := [], admitted := [], live := true, moves, pushes := 0 }

def drain : Nat → FastPath → FastPath
  | 0, p => p
  | n + 1, p =>
    match p.ring.pop with
    | (none, _) => p
    | (some frame, ring) => drain n { p with ring, taken := p.taken ++ [frame] }

def consume (p : FastPath) : FastPath :=
  if p.live then
    { p.drain (p.moves p.pushes).pops with live := !(p.moves p.pushes).leaves }
  else p

/-- The consumer's turn and then a push; `false` if the ring is full. -/
def push (frame : GamepadFrameRaw) (p : FastPath) : Bool × FastPath :=
  match p.consume.ring.push frame with
  | none => (false, { p.consume with pushes := p.pushes + 1 })
  | some ring =>
    (true, { p.consume with
      ring, admitted := p.admitted ++ [p.pushes], pushes := p.pushes + 1 })

def entered (p : FastPath) : List GamepadFrameRaw := p.taken ++ p.ring.contents

end FastPath

structure HidClient where
  channel : Channel
  gamepadRing : Option FastPath

abbrev Sending := Method Error HidClient

def noneFrame : GamepadFrameRaw :=
  { buttons := 0, leftX := 0, leftY := 0, rightX := 0, rightY := 0, leftTrigger := 0
    rightTrigger := 0 }

/-- The first frames of a stack buffer. -/
def fixedBuffer {α : Type} (pad : α) (frames : List α) : Vector α directGamepadBatchFrames :=
  .ofFn fun i => (frames[i.val]?).getD pad

theorem fixedBuffer_pos : 0 < directGamepadBatchFrames := by decide

theorem take_one {α : Type} (frames : Vector α directGamepadBatchFrames) :
    frames.toList.take 1 = [frames.get ⟨0, fixedBuffer_pos⟩] := by
  have size : frames.toList.length = directGamepadBatchFrames := frames.length_toList
  apply List.ext_getElem
  · rw [List.length_take, size]
    rfl
  · intro i short one
    obtain rfl : i = 0 := by simpa using one
    simp [Vector.get]

namespace HidClient

def channelFull : Error := .sessionLifecycle "channel full (back-pressure)"
def channelDown : Error := .dispatcherDown "channel disconnected"

/-- A full channel makes a blocking send wait. -/
def send (cmd : HidCommand) : Sending Unit := ⟨fun c =>
  let next := { c.channel with sends := c.channel.sends + 1 }
  match c.channel.answers c.channel.sends with
  | .disconnected => (.err channelDown, { c with channel := next })
  | _ => (.ok (), { c with channel := { next with sent := next.sent ++ [cmd] } })⟩

def trySend (cmd : HidCommand) : Sending Unit := ⟨fun c =>
  let next := { c.channel with sends := c.channel.sends + 1 }
  match c.channel.answers c.channel.sends with
  | .accepted => (.ok (), { c with channel := { next with sent := next.sent ++ [cmd] } })
  | .full => (.err channelFull, { c with channel := next })
  | .disconnected => (.err channelDown, { c with channel := next })⟩

def hasRing : Sending Bool := do
  pure (← .read).gamepadRing.isSome

/-- Whether the ring took the frame. Without a ring nothing does. -/
def ringPush (frame : GamepadFrameRaw) : Sending Bool := ⟨fun c =>
  match c.gamepadRing with
  | none => (.ok false, c)
  | some p => (.ok (p.push frame).1, { c with gamepadRing := some (p.push frame).2 })⟩

/-- Push every frame, and collect those that found the ring full. -/
def spill : List GamepadFrameRaw → Sending (List GamepadFrameRaw)
  | [] => pure []
  | frame :: frames => do
    let pushed ← ringPush frame
    let rest ← spill frames
    pure (if pushed then rest else frame :: rest)

def sendFrame (frame : GamepadFrameRaw) : Sending Unit := do
  if ← ringPush frame then pure () else send (.gamepadFrameRaw frame)

def sendFrameUnchecked (frame : GamepadFrameRaw) : Sending Unit := do
  if ← ringPush frame then pure () else send (.gamepadFrameRawUnchecked frame)

/-- The ring first, and the channel for what the ring refused. -/
def sendAll (frames : List GamepadFrameRaw) (command : List GamepadFrameRaw → HidCommand) :
    Sending Unit := do
  if ← hasRing then do
    let rest ← spill frames
    if rest.isEmpty then pure () else send (command rest)
  else send (command frames)

def sendFrameBatch : List GamepadFrameRaw → Sending Unit
  | [] => pure ()
  | [frame] => sendFrame frame
  | frames => sendAll frames .gamepadFrameRawBatch

def batchOverflow : Error := .sessionLifecycle "frame batch fixed length overflow"

/-- The command of a stack buffer. -/
def fixedCommand (dedupe : Bool) (len : Nat)
    (frames : Vector GamepadFrameRaw directGamepadBatchFrames) : HidCommand :=
  if dedupe then .gamepadFrameRawBatchFixed len.toUInt8 frames
  else .gamepadFrameRawBatchFixedUnchecked len.toUInt8 frames

def sendFrameBatchFixedInternal (len : Nat)
    (frames : Vector GamepadFrameRaw directGamepadBatchFrames) (dedupe : Bool) : Sending Unit :=
  if len = 0 then pure ()
  else if len > directGamepadBatchFrames then .fail batchOverflow
  else if len = 1 then
    if dedupe then sendFrame (frames.get ⟨0, fixedBuffer_pos⟩)
    else sendFrameUnchecked (frames.get ⟨0, fixedBuffer_pos⟩)
  else do
    if ← hasRing then do
      let spilled ← spill (frames.toList.take len)
      if spilled.isEmpty then pure ()
      else send (fixedCommand dedupe spilled.length (fixedBuffer noneFrame spilled))
    else send (fixedCommand dedupe len frames)

def sendFrameBatchFixed (len : Nat) (frames : Vector GamepadFrameRaw directGamepadBatchFrames) :
    Sending Unit :=
  sendFrameBatchFixedInternal len frames true

/- The non-blocking forms. -/

def ringFull : Error := .sessionLifecycle "gamepad ring full (drop-on-full)"

def trySendOne (frame : GamepadFrameRaw) (command : HidCommand) : Sending Unit := do
  if ← hasRing then
    if ← ringPush frame then pure () else .fail ringFull
  else trySend command

def trySendFrame (frame : GamepadFrameRaw) : Sending Unit :=
  trySendOne frame (.gamepadFrameRaw frame)

def trySendFrameUnchecked (frame : GamepadFrameRaw) : Sending Unit :=
  trySendOne frame (.gamepadFrameRawUnchecked frame)

def trySendFrameBatch : List GamepadFrameRaw → Sending Unit
  | [] => pure ()
  | [frame] => trySendFrame frame
  | frames => trySend (.gamepadFrameRawBatch frames)

def trySendFrameBatchUnchecked : List GamepadFrameRaw → Sending Unit
  | [] => pure ()
  | [frame] => trySendFrameUnchecked frame
  | frames => trySend (.gamepadFrameRawBatchUnchecked frames)

def trySendFrameBatchFixedInternal (len : Nat)
    (frames : Vector GamepadFrameRaw directGamepadBatchFrames) (dedupe : Bool) : Sending Unit :=
  if len = 0 then pure ()
  else if len > directGamepadBatchFrames then .fail batchOverflow
  else if len = 1 then
    if dedupe then trySendFrame (frames.get ⟨0, fixedBuffer_pos⟩)
    else trySendFrameUnchecked (frames.get ⟨0, fixedBuffer_pos⟩)
  else trySend (fixedCommand dedupe len frames)

def trySendFrameBatchFixed (len : Nat)
    (frames : Vector GamepadFrameRaw directGamepadBatchFrames) : Sending Unit :=
  trySendFrameBatchFixedInternal len frames true

def trySendFrameBatchFixedUnchecked (len : Nat)
    (frames : Vector GamepadFrameRaw directGamepadBatchFrames) : Sending Unit :=
  trySendFrameBatchFixedInternal len frames false

/- Packed frames only go through the channel. -/

def trySendFramePacked (frame : Payload) : Sending Unit := trySend (.gamepadPackedFrame frame)

def packedOverflow : Error := .sessionLifecycle "frame packed batch fixed length overflow"

def trySendFramePackedBatchFixed (len : Nat) (frames : Vector Payload directGamepadBatchFrames) :
    Sending Unit :=
  if len = 0 then pure ()
  else if len > directGamepadBatchFrames then .fail packedOverflow
  else if len = 1 then trySendFramePacked (frames.get ⟨0, fixedBuffer_pos⟩)
  else trySend (.gamepadPackedFrameBatchFixed len.toUInt8 frames)

end HidClient

end HidConnect
