import HidConnect.Client.Send

/-! The batchers over a fixed stack buffer: touch, keyboard, Android key, mouse and scroll frames.
They differ in the frame, the buffer's size and the command a batch is sent as. -/
namespace HidConnect
open Fallible

inductive FrameKind where
  | touch | keyboard | androidKey | mouse | scroll
  deriving DecidableEq, Repr

namespace FrameKind

abbrev Frame : FrameKind → Type
  | touch => TouchFrame
  | keyboard => KeyboardFrame
  | androidKey => AndroidKeyFrame
  | mouse => MouseFrame
  | scroll => ScrollFrame

abbrev capacity : FrameKind → Nat
  | touch => touchBatchFrames
  | keyboard => keyboardBatchFrames
  | androidKey => androidKeyBatchFrames
  | mouse => mouseBatchFrames
  | scroll => scrollBatchFrames

def empty : (k : FrameKind) → k.Frame
  | touch => { action := 0, pointerId := 0, x := 0, y := 0, pressure := 0 }
  | keyboard => { scancode := 0, pressed := false, mods := .empty }
  | androidKey => { action := 0, keycode := 0, repeats := 0, metastate := 0 }
  | mouse => { dx := 0, dy := 0, buttons := 0 }
  | scroll => { x := 0, y := 0, hscroll := 0, vscroll := 0, buttons := 0 }

def tooLarge : FrameKind → Error
  | touch => .sessionLifecycle "touch batch length too large"
  | keyboard => .sessionLifecycle "keyboard batch length too large"
  | androidKey => .sessionLifecycle "android key batch length too large"
  | mouse => .sessionLifecycle "mouse batch length too large"
  | scroll => .sessionLifecycle "scroll batch length too large"

theorem capacity_pos (k : FrameKind) : 0 < k.capacity := by cases k <;> decide

def first {k : FrameKind} (frames : Vector k.Frame k.capacity) : k.Frame :=
  frames.get ⟨0, k.capacity_pos⟩

/-- The command of one frame, where there is one for it. Touch frames always go as a batch. -/
def single : (k : FrameKind) → k.Frame → Option HidCommand
  | touch, _ => none
  | keyboard, f => some (.key f.scancode f.pressed f.mods)
  | androidKey, f => some (.injectKeycode f.action f.keycode f.repeats f.metastate)
  | mouse, f => some (.mouseMotion f.dx f.dy f.buttons)
  | scroll, f => some (.injectScroll f.x f.y f.hscroll f.vscroll f.buttons)

def batch : (k : FrameKind) → UInt8 → Vector k.Frame k.capacity → HidCommand
  | touch => .touchBatchFixed
  | keyboard => .keyBatchFixed
  | androidKey => .androidKeyBatchFixed
  | mouse => .mouseBatchFixed
  | scroll => .injectScrollBatchFixed

def command (k : FrameKind) (len : Nat) (frames : Vector k.Frame k.capacity) : HidCommand :=
  if len = 1 then (k.single (first frames)).getD (k.batch len.toUInt8 frames)
  else k.batch len.toUInt8 frames

end FrameKind

namespace HidClient

/-- A batch of a stack buffer through one channel send. -/
def sendFixedBy (transmit : HidCommand → Sending Unit) (k : FrameKind) (len : Nat)
    (frames : Vector k.Frame k.capacity) : Sending Unit :=
  if len = 0 then pure ()
  else if len > k.capacity then .fail k.tooLarge
  else transmit (k.command len frames)

def sendTouchBatchFixed := sendFixedBy send .touch
def sendKeyBatchFixed := sendFixedBy send .keyboard
def sendAndroidKeyBatchFixed := sendFixedBy send .androidKey
def sendMouseBatchFixed := sendFixedBy send .mouse
def sendScrollBatchFixed := sendFixedBy send .scroll

def trySendTouchBatchFixed := sendFixedBy trySend .touch
def trySendKeyBatchFixed := sendFixedBy trySend .keyboard
def trySendAndroidKeyBatchFixed := sendFixedBy trySend .androidKey
def trySendMouseBatchFixed := sendFixedBy trySend .mouse
def trySendScrollBatchFixed := sendFixedBy trySend .scroll

end HidClient

namespace FrameKind

def send : (k : FrameKind) → Nat → Vector k.Frame k.capacity → Sending Unit
  | touch => HidClient.sendTouchBatchFixed
  | keyboard => HidClient.sendKeyBatchFixed
  | androidKey => HidClient.sendAndroidKeyBatchFixed
  | mouse => HidClient.sendMouseBatchFixed
  | scroll => HidClient.sendScrollBatchFixed

def trySend : (k : FrameKind) → Nat → Vector k.Frame k.capacity → Sending Unit
  | touch => HidClient.trySendTouchBatchFixed
  | keyboard => HidClient.trySendKeyBatchFixed
  | androidKey => HidClient.trySendAndroidKeyBatchFixed
  | mouse => HidClient.trySendMouseBatchFixed
  | scroll => HidClient.trySendScrollBatchFixed

end FrameKind

structure FixedBatcher (k : FrameKind) where
  frames : Vector k.Frame k.capacity
  len : Nat

/-- A batcher and the client it borrows. `copied` is every frame that was written into the buffer. -/
structure FixedBatching (k : FrameKind) where
  batcher : FixedBatcher k
  client : HidClient
  copied : List k.Frame

/-- `dst[start..].copy_from_slice(frames)` for frames that fit. -/
def copyFromSlice {α : Type} {n : Nat} (dst : Vector α n) (start : Nat) : List α → Vector α n
  | [] => dst
  | frame :: frames => copyFromSlice (dst.setIfInBounds start frame) (start + 1) frames

namespace FixedBatcher
variable {k : FrameKind}

abbrev Batch (k : FrameKind) := Method Error (FixedBatching k)

def new (k : FrameKind) : FixedBatcher k :=
  { frames := .replicate k.capacity k.empty, len := 0 }

def contents (b : FixedBatcher k) : List k.Frame := b.frames.toList.take b.len

/-- `flush` or `try_flush`, by its send. A send that fails leaves the buffer as it is. -/
def flushBy (send : Nat → Vector k.Frame k.capacity → Sending Unit) : Batch k Unit := do
  let b := (← .read).batcher
  if b.len = 0 then pure ()
  else do
    .zoom (·.client) (fun client s => { s with client }) (send b.len b.frames)
    .update fun s => { s with batcher := new k }

/-- `self.frames[self.len] = frame` -/
def store (frame : k.Frame) : Batch k Unit := do
  let b := (← .read).batcher
  if b.len < k.capacity then
    .update fun s => { s with
      batcher := { frames := b.frames.setIfInBounds b.len frame, len := b.len + 1 }
      copied := s.copied ++ [frame] }
  else .crash

def flushFull (flush : Batch k Unit) : Batch k Unit := do
  if (← .read).batcher.len = k.capacity then flush

def pushBy (flush : Batch k Unit) (frame : k.Frame) : Batch k Unit := do
  flushFull flush
  store frame

/-- What the buffer has room for, from `idx` on; the next index. The difference, the two slices and
their lengths are checked as the source's operators check them. -/
def copyChunk (frames : List k.Frame) (idx : Nat) : Batch k Nat := do
  let b := (← .read).batcher
  let room := k.capacity - b.len
  let n := min (frames.length - idx) room
  if b.len ≤ k.capacity ∧ b.len + n ≤ k.capacity ∧ idx + n ≤ frames.length then do
    let chunk := (frames.drop idx).take n
    .update fun s => { s with
      batcher := { frames := copyFromSlice b.frames b.len chunk, len := b.len + n }
      copied := s.copied ++ chunk }
    pure (idx + n)
  else .crash

/-- The loop of `push_many_slice`, in at most so many turns. -/
def sliceLoop (flush : Batch k Unit) (frames : List k.Frame) : Nat → Nat → Batch k Unit
  | 0, idx => if idx < frames.length then .crash else pure ()
  | turns + 1, idx =>
    if idx < frames.length then do
      flushFull flush
      let idx ← copyChunk frames idx
      flushFull flush
      sliceLoop flush frames turns idx
    else pure ()

def flush : Batch k Unit := flushBy k.send
def tryFlush : Batch k Unit := flushBy k.trySend

def push (frame : k.Frame) : Batch k Unit := pushBy flush frame
def tryPush (frame : k.Frame) : Batch k Unit := pushBy tryFlush frame

def pushMany (frames : List k.Frame) : Batch k Unit := .forEach frames push
def tryPushMany (frames : List k.Frame) : Batch k Unit := .forEach frames tryPush

def pushManySlice (frames : List k.Frame) : Batch k Unit := sliceLoop flush frames frames.length 0
def tryPushManySlice (frames : List k.Frame) : Batch k Unit :=
  sliceLoop tryFlush frames frames.length 0

end FixedBatcher

end HidConnect
