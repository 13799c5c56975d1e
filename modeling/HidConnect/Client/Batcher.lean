import HidConnect.Client.Send
import HidConnect.Library.Run

/-! The gamepad frame batchers: frames gathered on the caller's thread and sent when a batch is full,
in a stack buffer for small batches and in a `Vec` for large ones. -/
namespace HidConnect
open Fallible

structure FrameBatcher (α : Type) where
  fixedFrames : Vector α directGamepadBatchFrames
  fixedLen : Nat
  frames : List α
  batchSize : Nat
  useFixed : Bool

/-- The sends a batcher flushes through: of one frame, of a stack buffer, of a `Vec`. -/
structure BatchSends (α : Type) where
  one : α → Sending Unit
  fixed : Nat → Vector α directGamepadBatchFrames → Sending Unit
  owned : List α → Sending Unit

/-- A batcher and the client it borrows. -/
structure Batching (α : Type) where
  batcher : FrameBatcher α
  client : HidClient

namespace FrameBatcher
variable {α : Type}

def new (blank : α) (batchSize : Nat) : FrameBatcher α :=
  { fixedFrames := .replicate directGamepadBatchFrames blank
    fixedLen := 0
    frames := []
    batchSize := max batchSize 1
    useFixed := max batchSize 1 ≤ directGamepadBatchFrames }

def len (b : FrameBatcher α) : Nat := if b.useFixed then b.fixedLen else b.frames.length

def contents (b : FrameBatcher α) : List α :=
  if b.useFixed then b.fixedFrames.toList.take b.fixedLen else b.frames

def onClient (m : Sending Unit) : Method Error (Batching α) Unit :=
  .zoom (·.client) (fun client s => { s with client }) m

def edit (f : FrameBatcher α → FrameBatcher α) : Method Error (Batching α) Unit :=
  .update fun s => { s with batcher := f s.batcher }

/-- `flush` or `try_flush`, by its sends. A send that fails leaves the frames where they were: the
source swaps the stack buffer back and takes the `Vec` back. -/
def flushBy (sends : BatchSends α) (blank : α) : Method Error (Batching α) Unit := do
  let b := (← .read).batcher
  if b.useFixed then
    if b.fixedLen = 0 then pure ()
    else if b.fixedLen = 1 then do
      onClient (sends.one (b.fixedFrames.get ⟨0, fixedBuffer_pos⟩))
      edit fun b => { b with fixedLen := 0 }
    else do
      onClient (sends.fixed b.fixedLen b.fixedFrames)
      edit fun b => { b with
        fixedLen := 0, fixedFrames := .replicate directGamepadBatchFrames blank }
  else
    match b.frames with
    | [] => pure ()
    | [frame] => do
      onClient (sends.one frame)
      edit fun b => { b with frames := [] }
    | frames => do
      onClient (sends.owned frames)
      edit fun b => { b with frames := [] }

/-- `self.fixed_frames[self.fixed_len] = frame` -/
def store (frame : α) : Method Error (Batching α) Unit := do
  let b := (← .read).batcher
  if small : b.fixedLen < directGamepadBatchFrames then
    edit fun b' => { b' with
      fixedFrames := b.fixedFrames.set b.fixedLen frame, fixedLen := b.fixedLen + 1 }
  else .crash

/-- `push` or `try_push`, by its flush. -/
def pushBy (flush : Method Error (Batching α) Unit) (tooFull : Error) (frame : α) :
    Method Error (Batching α) Unit := do
  let b := (← .read).batcher
  if b.useFixed then do
    if b.fixedLen ≥ b.batchSize then do
      flush
      let b := (← .read).batcher
      if b.fixedLen ≥ b.batchSize then .fail tooFull
    store frame
    let b := (← .read).batcher
    if b.fixedLen ≥ b.batchSize then flush
  else do
    edit fun b => { b with frames := b.frames ++ [frame] }
    let b := (← .read).batcher
    if b.frames.length ≥ b.batchSize then flush

end FrameBatcher

namespace GamepadFrameBatcher

/-- `GamepadFrameBatcher::dedupe` and `GamepadFrameBatcher::unchecked`; the flag goes with the calls. -/
def new (batchSize : Nat) : FrameBatcher GamepadFrameRaw := .new noneFrame batchSize

def ownedCommand (dedupe : Bool) (frames : List GamepadFrameRaw) : HidCommand :=
  if dedupe then .gamepadFrameRawBatch frames else .gamepadFrameRawBatchUnchecked frames

def sends (dedupe : Bool) : BatchSends GamepadFrameRaw where
  one frame := if dedupe then HidClient.sendFrame frame else HidClient.sendFrameUnchecked frame
  fixed len frames := HidClient.sendFrameBatchFixedInternal len frames dedupe
  owned frames := HidClient.send (ownedCommand dedupe frames)

def trySends (dedupe : Bool) : BatchSends GamepadFrameRaw where
  one frame :=
    if dedupe then HidClient.trySendFrame frame else HidClient.trySendFrameUnchecked frame
  fixed len frames :=
    if dedupe then HidClient.trySendFrameBatchFixed len frames
    else HidClient.trySendFrameBatchFixedUnchecked len frames
  owned frames := HidClient.trySend (ownedCommand dedupe frames)

def tooFull : Error := .sessionLifecycle "frame batcher fixed buffer full (flush did not make space)"

def flush (dedupe : Bool) : Method Error (Batching GamepadFrameRaw) Unit :=
  FrameBatcher.flushBy (sends dedupe) noneFrame

def tryFlush (dedupe : Bool) : Method Error (Batching GamepadFrameRaw) Unit :=
  FrameBatcher.flushBy (trySends dedupe) noneFrame

def tryPush (dedupe : Bool) (frame : GamepadFrameRaw) :
    Method Error (Batching GamepadFrameRaw) Unit :=
  FrameBatcher.pushBy (tryFlush dedupe) tooFull frame

end GamepadFrameBatcher

namespace PackedGamepadFrameBatcher

def blank : Payload := .replicate hidMaxSize 0

def new (batchSize : Nat) : FrameBatcher Payload := .new blank batchSize

def trySends : BatchSends Payload where
  one := HidClient.trySendFramePacked
  fixed := HidClient.trySendFramePackedBatchFixed
  owned frames := HidClient.trySend (.gamepadPackedFrameBatch frames)

def tooFull : Error :=
  .sessionLifecycle "packed frame batcher fixed buffer full (flush did not make space)"

def tryFlush : Method Error (Batching Payload) Unit := FrameBatcher.flushBy trySends blank

def tryPush (frame : Payload) : Method Error (Batching Payload) Unit :=
  FrameBatcher.pushBy tryFlush tooFull frame

end PackedGamepadFrameBatcher

end HidConnect
