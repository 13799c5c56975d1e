import HidConnect.Client.Acked
import HidConnect.Client.FixedExact

/-! The gestures of a client: touch frames through a batcher of its own, and a flush that is waited for. -/
namespace HidConnect
open Fallible

namespace TouchFrameBatcher

def down (pointerId : UInt64) (x y : Int32) (pressure : Float32) : FixedBatcher.Batch .touch Unit :=
  FixedBatcher.push { action := TouchAction.down, pointerId, x, y, pressure }

def moveTo (pointerId : UInt64) (x y : Int32) (pressure : Float32) : FixedBatcher.Batch .touch Unit :=
  FixedBatcher.push { action := TouchAction.move, pointerId, x, y, pressure }

def up (pointerId : UInt64) (x y : Int32) : FixedBatcher.Batch .touch Unit :=
  FixedBatcher.push { action := TouchAction.up, pointerId, x, y, pressure := 0 }

end TouchFrameBatcher

namespace HidClient
open FixedBatcher TouchFrameBatcher

/-- A block with a batcher of its own. At the end of the block its `Drop` sends what is left, if the
channel has room. What this client has sent before counts as copied. -/
def withTouchFrameBatcher (body : Batch .touch Unit) : Sending Unit := ⟨fun client =>
  let (result, s) := body.run {
    batcher := .new .touch, client, copied := client.channel.sent.flatMap FrameKind.touch.framesOf }
  (result, ((Method.ignore tryFlush).run s).2.client)⟩

/-- A flush to wait for: its number and slot, and what the dispatcher answers. -/
structure Ack where
  seq : UInt64
  slot : FlushSlot
  answer : Result Nat

def flushWait (ack : Ack) : Sending Nat := do
  send (.flushAck ack.seq ack.slot)
  .lift ack.answer

def tapPointer (pointerId : UInt64) (x y : Int32) (ack : Ack) : Sending Unit := do
  withTouchFrameBatcher do
    down pointerId x y 1
    up pointerId x y
    flush
  .discard (flushWait ack)

def doubleTapPointer (pointerId : UInt64) (x y : Int32) (ack : Ack) : Sending Unit := do
  withTouchFrameBatcher do
    down pointerId x y 1
    up pointerId x y
    down pointerId x y 1
    up pointerId x y
    flush
  .discard (flushWait ack)

/-- The samples end at the target itself. -/
def swipePointer (pointerId : UInt64) (origin target : Int32 × Int32) (steps : UInt64) (ack : Ack) :
    Sending Unit := do
  let steps := max steps 1
  withTouchFrameBatcher do
    down pointerId origin.1 origin.2 1
    .forEach (List.range' 1 steps.toNat) fun i =>
      let t := i.toUInt64.toFloat32 / steps.toFloat32
      moveTo pointerId (HidSession.interpolate origin.1 target.1 t)
        (HidSession.interpolate origin.2 target.2 t) 1
    up pointerId target.1 target.2
    flush
  .discard (flushWait ack)

/-- The finger is held between the two flushes. -/
def longPressPointer (pointerId : UInt64) (x y : Int32) (held ack : Ack) : Sending Unit := do
  withTouchFrameBatcher do
    down pointerId x y 1
    flush
  .discard (flushWait held)
  withTouchFrameBatcher do
    up pointerId x y
    flush
  .discard (flushWait ack)

def threeFingerScreenshot (screenW screenH : UInt16) (ack : Ack) : Sending Unit := do
  let w := screenW.toUInt32.toInt32
  let h := screenH.toUInt32.toInt32
  withTouchFrameBatcher do
    .forEach HidSession.threeFingers fun id => down id (w / 4 * (id.toUInt32.toInt32 + 1)) (h / 4) 1
    .forEach (List.range' 1 10) fun step =>
      .forEach HidSession.threeFingers fun id =>
        moveTo id (w / 4 * (id.toUInt32.toInt32 + 1)) (h / 4 + h / 2 * step.toUInt32.toInt32 / 10) 1
    .forEach HidSession.threeFingers fun id => up id (w / 4 * (id.toUInt32.toInt32 + 1)) (h * 3 / 4)
    flush
  .discard (flushWait ack)

end HidClient

inductive ClientGesture where
  | tapPointer (pointerId : UInt64) (x y : Int32)
  | doubleTapPointer (pointerId : UInt64) (x y : Int32)
  | swipePointer (pointerId : UInt64) (origin target : Int32 × Int32) (steps : UInt64)
  | longPressPointer (pointerId : UInt64) (x y : Int32)
  | threeFingerScreenshot (screenW screenH : UInt16)

namespace ClientGesture
open HidClient HidSession

/-- `held` is the flush in the middle of a long press. -/
def run (held ack : Ack) : ClientGesture → Sending Unit
  | tapPointer pointerId x y => HidClient.tapPointer pointerId x y ack
  | doubleTapPointer pointerId x y => HidClient.doubleTapPointer pointerId x y ack
  | swipePointer pointerId origin target steps => HidClient.swipePointer pointerId origin target steps ack
  | longPressPointer pointerId x y => HidClient.longPressPointer pointerId x y held ack
  | threeFingerScreenshot screenW screenH => HidClient.threeFingerScreenshot screenW screenH ack

def touches : ClientGesture → List Touch
  | tapPointer id x y => [touchDown id (x, y), touchUp id (x, y)]
  | doubleTapPointer id x y =>
    [touchDown id (x, y), touchUp id (x, y), touchDown id (x, y), touchUp id (x, y)]
  | swipePointer id origin target steps =>
    touchDown id origin :: (List.range' 1 (max steps 1).toNat).map (fun i =>
      touchMove id (between origin target (i.toUInt64.toFloat32 / (max steps 1).toFloat32))) ++
    [touchUp id target]
  | longPressPointer id x y => [touchDown id (x, y), touchUp id (x, y)]
  | threeFingerScreenshot screenW screenH =>
    let w := screenW.toUInt32.toInt32
    let h := screenH.toUInt32.toInt32
    let column (id : UInt64) : Int32 := w / 4 * (id.toUInt32.toInt32 + 1)
    threeFingers.map (fun id => touchDown id (column id, h / 4)) ++
      ((List.range' 1 10).flatMap fun step => threeFingers.map fun id =>
        touchMove id (column id, h / 4 + h / 2 * step.toUInt32.toInt32 / 10)) ++
      threeFingers.map fun id => touchUp id (column id, h * 3 / 4)

/-- The gesture of the session that makes the same touches. A swipe samples its way otherwise. -/
def namesake (s : HidSession) : ClientGesture → Option Gesture
  | tapPointer id x y => some (.tapPointer id x y)
  | doubleTapPointer id x y => if id = 0 then some (.doubleTap x y) else none
  | swipePointer .. => none
  | longPressPointer id x y => if id = 0 then some (.longPress x y) else none
  | threeFingerScreenshot screenW screenH =>
    if s.screenW = screenW ∧ s.screenH = screenH then some .threeFingerScreenshot else none

end ClientGesture

/- What a gesture puts on the channel. -/

def Touch.frame (t : Touch) : TouchFrame :=
  { action := t.action, pointerId := t.id, x := t.x, y := t.y, pressure := t.pressure }

def TouchFrame.touch (f : TouchFrame) : Touch := ⟨f.action, f.pointerId, f.x, f.y, f.pressure⟩

/-- A batch of touches that fits its array, or a flush that is waited for. -/
def HidCommand.IsTouch (cmd : HidCommand) : Prop :=
  (∃ len frames, cmd = .touchBatchFixed len frames ∧ len.toNat ≤ touchBatchFrames) ∨
    ∃ seq slot, cmd = .flushAck seq slot

namespace FixedBatcher

/-- The buffer stays within its bounds, and what goes on the channel are touches. -/
def TouchesOnly (s s' : FixedBatching .touch) : Prop :=
  s.batcher.len ≤ touchBatchFrames → s'.batcher.len ≤ touchBatchFrames ∧
    ∃ sent, s'.client.channel.sent = s.client.channel.sent ++ sent ∧ ∀ cmd ∈ sent, cmd.IsTouch

instance : IsPreorder (FixedBatching .touch) TouchesOnly where
  refl _ fits := ⟨fits, [], (List.append_nil _).symm, List.forall_mem_nil _⟩
  trans := by
    intro a b c first second fits
    obtain ⟨fits₁, sent₁, joined₁, only₁⟩ := first fits
    obtain ⟨fits₂, sent₂, joined₂, only₂⟩ := second fits₁
    refine ⟨fits₂, sent₁ ++ sent₂, by rw [joined₂, joined₁, List.append_assoc], ?_⟩
    intro cmd hm
    exact (List.mem_append.mp hm).elim (only₁ cmd) (only₂ cmd)

theorem touchesOnly_flushBy {transmit : HidCommand → Sending Unit} (transmits : Transmits transmit) :
    Method.Keeps TouchesOnly (flushBy (HidClient.sendFixedBy transmit .touch)) := by
  intro s fits
  rw [flushBy, Method.run_read_bind]
  dsimp only
  split_ifs with none
  · exact ⟨fits, [], (List.append_nil _).symm, List.forall_mem_nil _⟩
  · rw [HidClient.sendFixedBy, if_neg none, if_neg (Nat.not_lt.mpr fits)]
    have byte : s.batcher.len.toUInt8.toNat = s.batcher.len :=
      Nat.mod_eq_of_lt (Nat.lt_of_le_of_lt fits FrameKind.touch.capacity_lt)
    have isTouch : (FrameKind.touch.command s.batcher.len s.batcher.frames).IsTouch := by
      refine .inl ⟨s.batcher.len.toUInt8, s.batcher.frames, ?_, by rwa [byte]⟩
      rw [FrameKind.command]
      split
      · rfl
      · rfl
    rcases transmits (FrameKind.touch.command s.batcher.len s.batcher.frames) s.client with
      ⟨c, run, sent⟩ | ⟨e, c, run, sent⟩
    · rw [Method.run_bind_ok (by rw [Method.run_zoom, run]), Method.run_update]
      exact ⟨Nat.zero_le _, _, sent, List.forall_mem_singleton.mpr isTouch⟩
    · rw [Method.run_bind_err (by rw [Method.run_zoom, run])]
      exact ⟨fits, [], by simp [sent], List.forall_mem_nil _⟩

theorem touchesOnly_flush : Method.Keeps TouchesOnly (flush (k := .touch)) :=
  touchesOnly_flushBy transmits_send

theorem touchesOnly_push (frame : TouchFrame) : Method.Keeps TouchesOnly (push (k := .touch) frame) := by
  have store : Method.Keeps TouchesOnly (store (k := .touch) frame) := by
    intro s fits
    by_cases room : s.batcher.len < touchBatchFrames
    · rw [run_store room]
      exact ⟨room, [], (List.append_nil _).symm, List.forall_mem_nil _⟩
    · rw [FixedBatcher.store, Method.run_read_bind]
      dsimp only
      rw [if_neg room]
      exact ⟨fits, [], (List.append_nil _).symm, List.forall_mem_nil _⟩
  apply Method.Keeps.bind
  · unfold flushFull
    refine Method.keeps_read.bind fun s => ?_
    split
    · exact touchesOnly_flush
    · exact Method.keeps_pure _
  · exact fun _ => store

theorem copies_push (frame : TouchFrame) : Copies (k := .touch) [frame] (push frame) :=
  (Call.push (k := .touch) frame).copies

theorem copies_flush : Copies (k := .touch) [] flush := (Call.flush (k := .touch)).copies

structure Pushes (touches : List Touch) (m : Batch .touch Unit) : Prop where
  copies : Copies (k := .touch) (touches.map Touch.frame) m
  only : Method.Keeps TouchesOnly m

theorem pushes_push (t : Touch) : Pushes [t] (push t.frame) :=
  ⟨copies_push t.frame, touchesOnly_push t.frame⟩

theorem Pushes.bind {xs ys : List Touch} {m m' : Batch .touch Unit} (h : Pushes xs m)
    (h' : Pushes ys m') : Pushes (xs ++ ys) (m >>= fun _ => m') := by
  refine ⟨?_, h.only.bind fun _ => h'.only⟩
  rw [List.map_append]
  exact h.copies.bind h'.copies

theorem pushes_forEach {α : Type} {touches : α → List Touch} {m : α → Batch .touch Unit}
    (h : ∀ a, Pushes (touches a) (m a)) (xs : List α) :
    Pushes (xs.flatMap touches) (Method.forEach xs m) := by
  induction xs with
  | nil => exact ⟨copies_pure, Method.keeps_pure ()⟩
  | cons x rest ih => exact (h x).bind ih

end FixedBatcher

namespace HidClient
open FixedBatcher

def touchesOf (sent : List HidCommand) : List Touch :=
  (sent.flatMap FrameKind.touch.framesOf).map TouchFrame.touch

/-- What the call puts on the channel stands for a first part of the touches, and for all of them if it
succeeds. -/
def Delivers (touches : List Touch) (m : Sending Unit) : Prop :=
  ∀ c, ∃ sent, ((m.run c).2).channel.sent = c.channel.sent ++ sent ∧ (∀ cmd ∈ sent, cmd.IsTouch) ∧
    touchesOf sent <+: touches ∧ ((m.run c).1.isOk = true → touchesOf sent = touches)

theorem touchesOf_append (xs ys : List HidCommand) : touchesOf (xs ++ ys) = touchesOf xs ++ touchesOf ys := by
  rw [touchesOf, List.flatMap_append, List.map_append]
  rfl

theorem map_frame_touch (touches : List Touch) : (touches.map Touch.frame).map TouchFrame.touch = touches := by
  rw [List.map_map]
  exact List.map_id touches

theorem Delivers.bind {xs ys : List Touch} {m m' : Sending Unit} (h : Delivers xs m)
    (h' : Delivers ys m') : Delivers (xs ++ ys) (m >>= fun _ => m') := by
  intro c
  obtain ⟨sent, joined, only, part, all⟩ := h c
  rcases run : m.run c with ⟨r, c₁⟩
  rw [run] at joined all
  cases r with
  | ok _ =>
    obtain ⟨sent', joined', only', part', all'⟩ := h' c₁
    have whole := all rfl
    rw [Method.run_bind_ok run]
    refine ⟨sent ++ sent', by rw [joined', joined, List.append_assoc], ?_, ?_, fun ok => ?_⟩
    · exact fun cmd hm => (List.mem_append.mp hm).elim (only cmd) (only' cmd)
    · rw [touchesOf_append, whole]
      exact (List.prefix_append_right_inj _).mpr part'
    · rw [touchesOf_append, whole, all' ok]
  | err e =>
    rw [Method.run_bind_err run]
    exact ⟨sent, joined, only, part.trans (List.prefix_append _ _), nofun⟩
  | panic =>
    rw [Method.run_bind_panic run]
    exact ⟨sent, joined, only, part.trans (List.prefix_append _ _), nofun⟩

theorem run_flushWait (ack : Ack) (c : HidClient) : ∃ sent,
    ((Method.discard (flushWait ack)).run c).2.channel.sent = c.channel.sent ++ sent ∧
      (sent = [] ∨ sent = [.flushAck ack.seq ack.slot]) ∧
      (((Method.discard (flushWait ack)).run c).1.isOk = true → sent = [.flushAck ack.seq ack.slot]) := by
  rcases transmits_send (.flushAck ack.seq ack.slot) c with ⟨c', run, sent⟩ | ⟨e, c', run, sent⟩
  · rw [Method.run_discard, flushWait, Method.run_bind_ok run]
    exact ⟨_, sent, .inr rfl, fun _ => rfl⟩
  · rw [Method.run_discard, flushWait, Method.run_bind_err run]
    exact ⟨[], by simp [sent], .inl rfl, nofun⟩

theorem delivers_flushWait (ack : Ack) : Delivers [] (.discard (flushWait ack)) := by
  intro c
  obtain ⟨sent, joined, rfl | rfl, -⟩ := run_flushWait ack c
  · exact ⟨_, joined, List.forall_mem_nil _, List.prefix_rfl, fun _ => rfl⟩
  · refine ⟨_, joined, List.forall_mem_singleton.mpr (.inr ⟨_, _, rfl⟩), List.prefix_rfl, fun _ => rfl⟩

/-- The call delivers the touches, and where it succeeds a flush behind them. -/
def Waits (touches : List Touch) (ack : Ack) (m : Sending Unit) : Prop :=
  ∀ c, ∃ sent, ((m.run c).2).channel.sent = c.channel.sent ++ sent ∧ (∀ cmd ∈ sent, cmd.IsTouch) ∧
    touchesOf sent <+: touches ∧ ((m.run c).1.isOk = true → touchesOf sent = touches ∧
      ∃ before, sent = before ++ [.flushAck ack.seq ack.slot])

theorem Delivers.waits {touches : List Touch} {m : Sending Unit} (h : Delivers touches m) (ack : Ack) :
    Waits touches ack (m >>= fun _ => .discard (flushWait ack)) := by
  intro c
  obtain ⟨sent, joined, only, part, all⟩ := h c
  rcases run : m.run c with ⟨r, c₁⟩
  rw [run] at joined all
  cases r with
  | ok _ =>
    obtain ⟨sent', joined', cases', last⟩ := run_flushWait ack c₁
    rw [Method.run_bind_ok run]
    have none : touchesOf sent' = [] := by
      rcases cases' with rfl | rfl
      · rfl
      · rfl
    refine ⟨sent ++ sent', by rw [joined', joined, List.append_assoc], ?_, ?_, fun ok => ⟨?_, sent, ?_⟩⟩
    · intro cmd hm
      rcases List.mem_append.mp hm with early | late
      · exact only cmd early
      · rcases cases' with rfl | rfl
        · cases late
        · exact .inr ⟨_, _, List.mem_singleton.mp late⟩
    · rwa [touchesOf_append, none, List.append_nil]
    · rw [touchesOf_append, none, List.append_nil, all rfl]
    · rw [last ok]
  | err e =>
    rw [Method.run_bind_err run]
    exact ⟨sent, joined, only, part, nofun⟩
  | panic =>
    rw [Method.run_bind_panic run]
    exact ⟨sent, joined, only, part, nofun⟩

theorem delivers_scope {touches : List Touch} {body : Batch .touch Unit} (h : Pushes touches body) :
    Delivers touches (withTouchFrameBatcher (body >>= fun _ => flush)) := by
  intro c
  let start : FixedBatching .touch := {
    batcher := .new .touch, client := c, copied := c.channel.sent.flatMap FrameKind.touch.framesOf }
  have exact₀ : Exact start := ⟨List.append_nil _, Nat.zero_le _⟩
  obtain ⟨-, exact₁, n, copied₁, all⟩ := (h.copies.bind copies_flush) start exact₀
  obtain ⟨fits₁, sent₁, joined₁, only₁⟩ :=
    (h.only.bind fun _ => touchesOnly_flush) start (Nat.zero_le _)
  have emptied : ∀ s, (body >>= fun _ => flush).run start = (.ok (), s) → s.batcher.len = 0 := by
    intro s run
    obtain ⟨_, s', -, flushed⟩ := Method.of_run_bind_ok run
    exact empties_flushBy _ s' s flushed
  rcases run : (body >>= fun _ => flush).run start with ⟨r, s₁⟩
  rw [run] at exact₁ copied₁ all fits₁ joined₁
  -- the drop at the end of the block
  obtain ⟨calm, exact₂, _, copied₂, -⟩ := (Call.tryFlush (k := .touch)).copies s₁ exact₁
  obtain ⟨-, sent₂, joined₂, only₂⟩ := touchesOnly_flushBy transmits_trySend s₁ fits₁
  rcases drop : (tryFlush (k := .touch)).run s₁ with ⟨r', s₂⟩
  rw [show (Call.tryFlush (k := .touch)).method.run s₁ = _ from drop] at calm exact₂ copied₂
  rw [show (flushBy (sendFixedBy trySend .touch)).run s₁ = _ from drop] at joined₂
  have dropped : ((Method.ignore (tryFlush (k := .touch))).run s₁).2 = s₂ := by
    rw [Method.run_ignore (by rw [drop]; exact calm), drop]
  have joined : s₂.client.channel.sent = c.channel.sent ++ (sent₁ ++ sent₂) := by
    rw [joined₂, joined₁, List.append_assoc]
  have split :
      touchesOf (sent₁ ++ sent₂) ++ s₂.batcher.contents.map TouchFrame.touch = touches.take n := by
    have whole := exact₂.frames
    rw [copied₂, copied₁, sentFrames, joined, List.flatMap_append, List.append_assoc, List.append_assoc]
      at whole
    have frames := List.append_cancel_left whole
    simp only [Call.frames, List.take_nil, List.append_nil] at frames
    rw [touchesOf, ← List.map_append, frames, List.map_take, map_frame_touch]
  have scope : (withTouchFrameBatcher (body >>= fun _ => flush)).run c = (r, s₂.client) := by
    change (((body >>= fun _ => flush).run start).1,
      ((Method.ignore tryFlush).run ((body >>= fun _ => flush).run start).2).2.client) = _
    rw [run, dropped]
  rw [scope]
  refine ⟨sent₁ ++ sent₂, joined, ?_, ?_, fun ok => ?_⟩
  · exact fun cmd hm => (List.mem_append.mp hm).elim (only₁ cmd) (only₂ cmd)
  · exact (List.prefix_append _ _).trans (split ▸ List.take_prefix _ _)
  · obtain ⟨_, rfl⟩ := Outcome.isOk_iff.mp ok
    have nothing : (tryFlush (k := .touch)).run s₁ = (.ok (), s₁) := by
      rw [tryFlush, flushBy, Method.run_read_bind]
      dsimp only
      rw [if_pos (emptied s₁ run)]
      rfl
    obtain rfl : s₁ = s₂ := congrArg Prod.snd (nothing.symm.trans drop)
    have empty : s₁.batcher.contents = [] := by rw [contents, emptied s₁ run, List.take_zero]
    have enough := all rfl
    rw [List.append_nil, List.length_map] at enough
    rwa [empty, List.map_nil, List.append_nil, List.take_of_length_le enough] at split

end HidClient

namespace ClientGesture
open HidClient FixedBatcher HidSession

theorem waits_block {touches : List Touch} {body pushes : Batch .touch Unit} (h : Pushes touches pushes)
    (same : body = pushes >>= fun _ => flush) (ack : Ack) :
    Waits touches ack (withTouchFrameBatcher body >>= fun _ => .discard (flushWait ack)) := by
  apply Delivers.waits
  rw [same]
  exact delivers_scope h

theorem waits_run (held ack : Ack) (g : ClientGesture) : Waits g.touches ack (g.run held ack) := by
  cases g with
  | tapPointer id x y =>
    have pushes := (pushes_push (touchDown id (x, y))).bind (pushes_push (touchUp id (x, y)))
    exact waits_block pushes (Method.bind_assoc _ _ _).symm ack
  | doubleTapPointer id x y =>
    have tap := (pushes_push (touchDown id (x, y))).bind (pushes_push (touchUp id (x, y)))
    apply waits_block (tap.bind tap)
    simp only [Method.bind_assoc]
    rfl
  | swipePointer id origin target steps =>
    have moves := pushes_forEach (fun i : Nat => pushes_push (touchMove id (between origin target
      (i.toUInt64.toFloat32 / (max steps 1).toFloat32)))) (List.range' 1 (max steps 1).toNat)
    have pushes := (pushes_push (touchDown id origin)).bind (moves.bind (pushes_push (touchUp id target)))
    rw [touches, List.map_eq_flatMap, List.cons_append]
    apply waits_block pushes
    simp only [Method.bind_assoc]
    rfl
  | longPressPointer id x y =>
    have press := (delivers_scope (pushes_push (touchDown id (x, y)))).bind (delivers_flushWait held)
    have whole := (press.bind (delivers_scope (pushes_push (touchUp id (x, y))))).waits ack
    simp only [Method.bind_assoc] at whole
    exact whole
  | threeFingerScreenshot screenW screenH =>
    let w := screenW.toUInt32.toInt32
    let h := screenH.toUInt32.toInt32
    let column (id : UInt64) : Int32 := w / 4 * (id.toUInt32.toInt32 + 1)
    have each (t : UInt64 → Touch) := pushes_forEach (fun id => pushes_push (t id)) threeFingers
    have moves := pushes_forEach (fun step : Nat => each fun id =>
      touchMove id (column id, h / 4 + h / 2 * step.toUInt32.toInt32 / 10)) (List.range' 1 10)
    have pushes := ((each fun id => touchDown id (column id, h / 4)).bind moves).bind
      (each fun id => touchUp id (column id, h * 3 / 4))
    simp only [touches, List.map_eq_flatMap]
    apply waits_block pushes
    simp only [Method.bind_assoc]
    rfl

end ClientGesture

/- What becomes of it. -/

theorem HidSession.inject_works {s t : HidSession} (even : Even True s t) (touch : Touch) :
    ∃ s' t', touch.inject.run s = (.ok (), s') ∧ touch.inject.run t = (.ok (), t') ∧ Even True s' t' := by
  obtain ⟨d, sent, held, _, _, carries, -⟩ := even.level.stream
  let msg := s.touchMsg touch.action touch.id touch.x touch.y touch.pressure
  have effect := (CoalescingWriter.emits_push d msg).discard s.transport sent held carries
  have total := effect.total (even.level.calm trivial) (List.forall_mem_singleton.mpr (touch_serializes _))
  obtain ⟨_, ok⟩ := Outcome.isOk_iff.mp total
  have run : touch.inject.run s = (.ok (), (touch.inject.run s).2) := by
    rw [inject_push]
    exact Prod.ext ok rfl
  obtain ⟨t', run', after⟩ := (evenly_injectTouch _ _ _ _ _ s t even).ok () _ run
  exact ⟨_, t', run, run', after⟩

namespace Dispatcher
open HidClient HidSession

/-- No fault is pending, and every waiter was told a value. -/
structure Clean (d : Dispatcher) : Prop where
  pending : d.pendingError = none
  told : ∀ answer ∈ d.notified, answer.2.isOk = true

/-- The dispatcher performs the commands beside a session that is touched directly. -/
def Plays (m : Dispatch Unit) (touches : List Touch) (flushed : Prop) : Prop :=
  ∀ d t, d.Clean → Even True d.session t → ∃ d' t', m.run d = (.ok (), d') ∧
    (touchAll touches).run t = (.ok (), t') ∧ d'.Clean ∧ Even True d'.session t' ∧
    (flushed → d'.session.transport.pending = [])

theorem plays_nil : Plays (pure ()) [] False :=
  fun d t clean even => ⟨d, t, rfl, rfl, clean, even, False.elim⟩

theorem Plays.bind {xs ys : List Touch} {m m' : Dispatch Unit} {p q : Prop} (h : Plays m xs p)
    (h' : Plays m' ys q) : Plays (m >>= fun _ => m') (xs ++ ys) q := by
  intro d t clean even
  obtain ⟨d₁, t₁, run₁, ran₁, clean₁, even₁, -⟩ := h d t clean even
  obtain ⟨d₂, t₂, run₂, ran₂, clean₂, even₂, flushed⟩ := h' d₁ t₁ clean₁ even₁
  refine ⟨d₂, t₂, (Method.run_bind_ok run₁).trans run₂, ?_, clean₂, even₂, flushed⟩
  rw [touchAll_append, Method.run_bind_ok ran₁, ran₂]

theorem plays_attempt (touch : Touch) : Plays (attempt touch.inject) [touch] False := by
  intro d t clean even
  obtain ⟨s', t', run, run', after⟩ := inject_works even touch
  have performed := attempt_run (m := touch.inject) 0 (by rw [run]; rfl)
  rw [run, clean.pending] at performed
  refine ⟨_, t', performed, ?_, ⟨rfl, clean.told⟩, after, False.elim⟩
  rw [touchAll, Method.forEach_cons, Method.forEach_nil, Method.bind_pure_unit, run']

theorem plays_flushAck (slot : FlushSlot) : Plays (flushAck slot) [] True := by
  intro d t clean even
  obtain ⟨w, rfl, level⟩ := even
  obtain ⟨n, w', run, empty, after⟩ := CoalescingWriter.level_flush level
  have flushed : HidSession.flushNow.run d.session = (.ok n, { d.session with transport := w' }) := by
    rw [HidSession.flushNow, onWriter, Method.run_zoom, run]
  have pending : d.pendingError = ((none : Option Fault).toList ++ []).head?.map Fault.error := clean.pending
  have performed := flushAck_run 0 slot pending flushed
  refine ⟨_, _, performed, rfl, ⟨rfl, ?_⟩, ⟨w, rfl, after⟩, fun _ => empty⟩
  intro answer hm
  rcases List.mem_append.mp hm with early | late
  · exact clean.told answer early
  · rw [List.mem_singleton.mp late]
    rfl

theorem plays_attempts (touches : List Touch) :
    Plays (Method.forEach (touches.map Touch.inject) attempt) touches False := by
  induction touches with
  | nil => exact plays_nil
  | cons touch rest ih => exact (plays_attempt touch).bind ih

theorem plays_command {cmd : HidCommand} (isTouch : cmd.IsTouch) :
    Plays (perform cmd) (touchesOf [cmd]) (∃ seq slot, cmd = .flushAck seq slot) := by
  rcases isTouch with ⟨len, frames, rfl, fits⟩ | ⟨seq, slot, rfl⟩
  · have calls : perform (.touchBatchFixed len frames) =
        Method.forEach ((touchesOf [.touchBatchFixed len frames]).map Touch.inject) attempt := by
      rw [touchesOf, List.flatMap_singleton, List.map_map]
      exact eachOf_calls fits frames _
    intro d t clean even
    rw [calls]
    obtain ⟨d', t', run, ran, clean', even', -⟩ :=
      plays_attempts (touchesOf [.touchBatchFixed len frames]) d t clean even
    exact ⟨d', t', run, ran, clean', even', nofun⟩
  · intro d t clean even
    obtain ⟨d', t', run, ran, clean', even', flushed⟩ := plays_flushAck slot d t clean even
    exact ⟨d', t', run, ran, clean', even', fun _ => flushed trivial⟩

theorem plays_commands {sent : List HidCommand} (only : ∀ cmd ∈ sent, cmd.IsTouch) :
    Plays (Method.forEach sent perform) (touchesOf sent) False := by
  induction sent with
  | nil => exact plays_nil
  | cons cmd rest ih =>
    rw [← List.singleton_append, touchesOf_append]
    exact (plays_command (only cmd (List.mem_cons_self ..))).bind
      (ih fun cmd hm => only cmd (List.mem_cons_of_mem _ hm))

end Dispatcher

namespace ClientGesture
open HidSession

theorem namesake_run {g : ClientGesture} {s : HidSession} (even : Even True s s) {gesture : Gesture}
    (same : g.namesake s = some gesture) : gesture.run.run s = (touchAll g.touches).run s := by
  cases g with
  | tapPointer id x y =>
    cases same
    obtain ⟨s₁, _, down, -, even₁⟩ := inject_works even (touchDown id (x, y))
    obtain ⟨s₂, _, up, -, -⟩ := inject_works even₁.symm.right (touchUp id (x, y))
    have tapped : (HidSession.tapPointer id x y).run s = (.ok (), s₂) := by
      rw [HidSession.tapPointer, ← inject_touchDown id (x, y), Method.run_bind_ok down]
      exact Method.run_rollback_ok up
    have touched : (touchAll [touchDown id (x, y), touchUp id (x, y)]).run s = (.ok (), s₂) := by
      rw [touchAll, Method.forEach_cons, Method.run_bind_ok down, Method.forEach_cons, Method.forEach_nil,
        Method.bind_pure_unit, up]
    exact tapped.trans touched.symm
  | doubleTapPointer id x y =>
    rw [namesake] at same
    split at same
    · cases same
      subst id
      rw [Gesture.run, doubleTap_eq]
      rfl
    · cases same
  | swipePointer id origin target steps => cases same
  | longPressPointer id x y =>
    rw [namesake] at same
    split at same
    · cases same
      subst id
      simp only [Gesture.run, longPress, touches, touchAll, Method.forEach_cons, Method.forEach_nil,
        Method.bind_pure_unit, inject_touchDown, inject_touchUp]
    · cases same
  | threeFingerScreenshot screenW screenH =>
    rw [namesake] at same
    split at same
    · rename_i sizes
      obtain ⟨rfl, rfl⟩ := sizes
      cases same
      exact threeFingerScreenshot_run s
    · cases same

end ClientGesture

open Dispatcher HidSession HidClient in
/-- Whatever the channel answers: what a gesture of a client puts on it stands for a first part of the
gesture's touches, in order. If the gesture succeeds it is all of them with a flush behind, and a
dispatcher that performs it from any state of a session that works puts on the wire what the session's
own gesture of that name puts in its stream. -/
theorem client_gesture_plays (g : ClientGesture) (held ack : Ack) (client : HidClient) (t : Transport)
    (clock : Nat → Nat) (req : OpenRequest) (fresh : t.wire = []) (never : t.NeverFails)
    (ops : List SessionOp) :
    let ran := (g.run held ack).run client
    let s := Run.after step (afterOpen t clock req) ops
    ∃ sent, ran.2.channel.sent = client.channel.sent ++ sent ∧ touchesOf sent <+: g.touches ∧
      (ran.1.isOk = true →
        ∃ d s', (Method.forEach sent perform).run (idleDispatcher s) = (.ok (), d) ∧
          (∀ answer ∈ d.notified, answer.2.isOk = true) ∧
          (touchAll g.touches).run s = (.ok (), s') ∧
          (∀ gesture, g.namesake s = some gesture → gesture.run.run s = (.ok (), s')) ∧
          d.session = { s' with transport := d.session.transport } ∧
          d.session.transport.pending = [] ∧
          d.session.transport.transport.wire = s'.transport.transport.wire ++ s'.transport.pending) := by
  intro ran s
  obtain ⟨sent, joined, only, part, all⟩ := g.waits_run held ack client
  refine ⟨sent, joined, part, fun ok => ?_⟩
  obtain ⟨touches, before, behind⟩ := all ok
  obtain ⟨⟨_, _, _, carries⟩, working⟩ := working_reached clock req fresh never ops
  have even := even_self carries working
  have clean : (idleDispatcher s).Clean := ⟨rfl, List.forall_mem_nil _⟩
  have plays : Plays (Method.forEach sent perform) g.touches True := by
    have first : Plays (Method.forEach before perform) (touchesOf before) False :=
      plays_commands fun cmd hm => only cmd (behind ▸ List.mem_append_left _ hm)
    rw [← touches, behind, Method.forEach_append, touchesOf_append, Method.forEach_cons, Method.forEach_nil,
      Method.bind_pure_unit]
    exact first.bind (plays_flushAck ack.slot)
  obtain ⟨d, s', run, touched, clean', ⟨w, rfl, level⟩, flushed⟩ :=
    plays (idleDispatcher s) s clean even
  have bytes := level.bytes
  rw [flushed trivial, List.append_nil] at bytes
  refine ⟨d, _, run, clean'.told, touched, fun gesture same => ?_, rfl, flushed trivial, bytes⟩
  rw [g.namesake_run even same, touched]

open Dispatcher HidSession HidClient in
/-- The screenshot takes two batches. A key is held meanwhile. -/
theorem client_screenshot_plays :
    let g : ClientGesture := .threeFingerScreenshot 1080 1920
    let client : HidClient :=
      { channel := { sent := [], sends := 0, answers := fun _ => .accepted }, gamepadRing := none }
    let ran := (g.run ⟨0, 0, .ok 0⟩ ⟨1, 1, .ok 0⟩).run client
    let s := Run.after step (afterOpen .steady id .all) [.key 4 true .empty]
    ∃ sent, ran.2.channel.sent = client.channel.sent ++ sent ∧ touchesOf sent <+: g.touches ∧
      (ran.1.isOk = true →
        ∃ d s', (Method.forEach sent perform).run (idleDispatcher s) = (.ok (), d) ∧
          (∀ answer ∈ d.notified, answer.2.isOk = true) ∧
          (touchAll g.touches).run s = (.ok (), s') ∧
          (∀ gesture, g.namesake s = some gesture → gesture.run.run s = (.ok (), s')) ∧
          d.session = { s' with transport := d.session.transport } ∧
          d.session.transport.pending = [] ∧
          d.session.transport.transport.wire = s'.transport.transport.wire ++ s'.transport.pending) :=
  client_gesture_plays (.threeFingerScreenshot 1080 1920) ⟨0, 0, .ok 0⟩ ⟨1, 1, .ok 0⟩
    { channel := { sent := [], sends := 0, answers := fun _ => .accepted }, gamepadRing := none }
    .steady id .all rfl Transport.steady_neverFails [.key 4 true .empty]

end HidConnect
