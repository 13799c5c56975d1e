import HidConnect.Client.Batcher

/-! What a batcher has sent and what it still holds, over a channel that may be full at any time. -/
namespace HidConnect
open Fallible

namespace HidClient

def took (c : HidClient) (cmd : HidCommand) : HidClient :=
  { c with channel := { c.channel with
      sent := c.channel.sent ++ [cmd], sends := c.channel.sends + 1 } }

def refused (c : HidClient) : HidClient :=
  { c with channel := { c.channel with sends := c.channel.sends + 1 } }

def Accepts (c : HidClient) : Prop := c.channel.answers c.channel.sends = .accepted

/-- The call puts one command on the channel of a plain client, and that command holds the frames. -/
def Transfers {α : Type} (holds : HidCommand → List α) (m : Sending Unit) (frames : List α) :
    Prop :=
  ∀ c, c.gamepadRing = none →
    (c.Accepts → ∃ cmd, holds cmd = frames ∧ m.run c = (.ok (), c.took cmd)) ∧
    (¬c.Accepts → ∃ e, m.run c = (.err e, c.refused))

theorem transfers_trySend {α : Type} {holds : HidCommand → List α} {cmd : HidCommand}
    {frames : List α} (h : holds cmd = frames) : Transfers holds (trySend cmd) frames := by
  intro c _
  unfold Accepts
  cases ha : c.channel.answers c.channel.sends with
  | accepted => exact ⟨fun _ => ⟨cmd, h, by simp [trySend, ha, took]⟩, fun no => (no rfl).elim⟩
  | full => exact ⟨nofun, fun _ => ⟨channelFull, by simp [trySend, ha, refused]⟩⟩
  | disconnected => exact ⟨nofun, fun _ => ⟨channelDown, by simp [trySend, ha, refused]⟩⟩

theorem transfers_trySendOne {α : Type} {holds : HidCommand → List α} {cmd : HidCommand}
    {frames : List α} (h : holds cmd = frames) (frame : GamepadFrameRaw) :
    Transfers holds (trySendOne frame cmd) frames := by
  intro c plain
  have run : (trySendOne frame cmd).run c = (trySend cmd).run c := by
    simp [trySendOne, hasRing, Method.run_bind, plain]
  rw [run]
  exact transfers_trySend h c plain

end HidClient

namespace BatchSends
variable {α : Type}

/-- Every send a batcher makes transfers its frames. -/
structure Transfer (sends : BatchSends α) (holds : HidCommand → List α) : Prop where
  one : ∀ frame, HidClient.Transfers holds (sends.one frame) [frame]
  fixed : ∀ len frames, 2 ≤ len → len ≤ directGamepadBatchFrames →
    HidClient.Transfers holds (sends.fixed len frames) (frames.toList.take len)
  owned : ∀ frames, HidClient.Transfers holds (sends.owned frames) frames

end BatchSends

namespace FrameBatcher
variable {α : Type} {sends : BatchSends α} {holds : HidCommand → List α} {blank : α}

/-- The stack buffer is only used for batches that fit it. -/
def Fits (b : FrameBatcher α) : Prop :=
  b.useFixed = true → b.fixedLen ≤ directGamepadBatchFrames ∧ b.batchSize ≤ directGamepadBatchFrames

theorem length_contents {b : FrameBatcher α} (fits : b.Fits) : b.contents.length = b.len := by
  rw [contents, len]
  split
  · rename_i fixed
    rw [List.length_take, Vector.length_toList]
    exact Nat.min_eq_left (fits fixed).1
  · rfl

structure Emptied (b b' : FrameBatcher α) : Prop where
  contents : b'.contents = []
  batchSize : b'.batchSize = b.batchSize
  fits : b.Fits → b'.Fits

theorem emptied_fixed {b : FrameBatcher α} (fixed : b.useFixed = true)
    (frames : Vector α directGamepadBatchFrames) :
    Emptied b { b with fixedLen := 0, fixedFrames := frames } := by
  refine ⟨?_, rfl, fun fits _ => ⟨Nat.zero_le _, (fits fixed).2⟩⟩
  simp [contents, fixed]

theorem emptied_vec {b : FrameBatcher α} (fixed : b.useFixed = false) :
    Emptied b { b with frames := [] } := by
  refine ⟨?_, rfl, fun _ still => ?_⟩
  · simp [contents, fixed]
  · rw [fixed] at still
    contradiction

theorem onClient_ok {m : Sending Unit} {b : FrameBatcher α} {c c' : HidClient}
    (h : m.run c = (.ok (), c')) : (onClient m).run ⟨b, c⟩ = (.ok (), ⟨b, c'⟩) := by
  rw [onClient, Method.run_zoom, h]

theorem onClient_err {m : Sending Unit} {b : FrameBatcher α} {c c' : HidClient} {e : Error}
    (h : m.run c = (.err e, c')) : (onClient m).run ⟨b, c⟩ = (.err e, ⟨b, c'⟩) := by
  rw [onClient, Method.run_zoom, h]

/-- The send that a flush of a buffer with frames makes. -/
inductive FlushSend (sends : BatchSends α) (b : FrameBatcher α) : Sending Unit → Prop
  | one (frame : α) : b.contents = [frame] → b.len = 1 → FlushSend sends b (sends.one frame)
  | fixed : b.useFixed = true → b.len = b.fixedLen → 2 ≤ b.fixedLen →
      b.contents = b.fixedFrames.toList.take b.fixedLen →
      FlushSend sends b (sends.fixed b.fixedLen b.fixedFrames)
  | owned : b.useFixed = false → 2 ≤ b.len → b.contents = b.frames →
      FlushSend sends b (sends.owned b.frames)

theorem flushBy_cases (sends : BatchSends α) (blank : α) (b : FrameBatcher α) :
    (b.contents = [] ∧ b.len = 0 ∧
      ∀ c, (flushBy sends blank).run ⟨b, c⟩ = (.ok (), ⟨b, c⟩)) ∨
    ∃ m f, b.FlushSend sends m ∧ Emptied b (f b) ∧
      ∀ c, (flushBy sends blank).run ⟨b, c⟩ = (onClient m >>= fun _ => edit f).run ⟨b, c⟩ := by
  cases mode : b.useFixed with
  | true =>
    have size : b.len = b.fixedLen := by rw [len, mode, if_pos rfl]
    have held : b.contents = b.fixedFrames.toList.take b.fixedLen := by
      rw [contents, mode, if_pos rfl]
    by_cases none : b.fixedLen = 0
    · refine .inl ⟨by rw [held, none, List.take_zero], size.trans none, fun c => ?_⟩
      simp [flushBy, mode, none]
    · by_cases one : b.fixedLen = 1
      · refine .inr ⟨_, fun b => { b with fixedLen := 0 },
          .one _ (by rw [held, one, take_one]) (size.trans one),
          emptied_fixed mode b.fixedFrames, fun c => ?_⟩
        rw [flushBy, Method.run_read_bind]
        simp only [mode, if_true, one, Nat.one_ne_zero, if_false]
      · refine .inr ⟨_, fun b => { b with
          fixedLen := 0, fixedFrames := .replicate directGamepadBatchFrames blank },
          .fixed mode size (by omega) held, emptied_fixed mode _, fun c => ?_⟩
        rw [flushBy, Method.run_read_bind]
        simp only [mode, if_true, none, one, if_false]
  | false =>
    have size : b.len = b.frames.length := by rw [len, mode, if_neg Bool.false_ne_true]
    have held : b.contents = b.frames := by rw [contents, mode, if_neg Bool.false_ne_true]
    rcases hf : b.frames with _ | ⟨frame, _ | ⟨second, rest⟩⟩
    · refine .inl ⟨held.trans hf, by rw [size, hf, List.length_nil], fun c => ?_⟩
      rw [flushBy, Method.run_read_bind]
      simp only [mode, Bool.false_eq_true, if_false, hf]
      rfl
    · refine .inr ⟨_, fun b => { b with frames := [] },
        .one frame (held.trans hf) (by rw [size, hf, List.length_singleton]), emptied_vec mode,
        fun c => ?_⟩
      rw [flushBy, Method.run_read_bind]
      simp only [mode, Bool.false_eq_true, if_false, hf]
    · refine .inr ⟨_, fun b => { b with frames := [] },
        .owned mode (by rw [size, hf]; simp) held, emptied_vec mode, fun c => ?_⟩
      rw [flushBy, Method.run_read_bind]
      simp only [mode, Bool.false_eq_true, if_false, hf]

theorem send_edit {m : Sending Unit} {frames : List α} (h : HidClient.Transfers holds m frames)
    {b b' : FrameBatcher α} {f : FrameBatcher α → FrameBatcher α} (after : f b = b')
    {c : HidClient} (plain : c.gamepadRing = none) :
    (c.Accepts ∧ ∃ cmd, holds cmd = frames ∧
      (onClient m >>= fun _ => edit f).run ⟨b, c⟩ = (.ok (), ⟨b', c.took cmd⟩)) ∨
    ¬c.Accepts ∧ ∃ e, (onClient m >>= fun _ => edit f).run ⟨b, c⟩ = (.err e, ⟨b, c.refused⟩) := by
  obtain ⟨accepted, refused⟩ := h c plain
  by_cases accepts : c.Accepts
  · obtain ⟨cmd, held, run⟩ := accepted accepts
    refine .inl ⟨accepts, cmd, held, ?_⟩
    rw [Method.run_bind_ok (onClient_ok run), edit, ← after]
    rfl
  · obtain ⟨e, run⟩ := refused accepts
    exact .inr ⟨accepts, e, Method.run_bind_err (onClient_err run)⟩

theorem flushBy_fate (blank : α) (transfer : sends.Transfer holds) {b : FrameBatcher α} (fits : b.Fits)
    {c : HidClient} (plain : c.gamepadRing = none) :
    (b.contents = [] ∧ (flushBy sends blank).run ⟨b, c⟩ = (.ok (), ⟨b, c⟩)) ∨
    (c.Accepts ∧ ∃ cmd b', holds cmd = b.contents ∧ Emptied b b' ∧
      (flushBy sends blank).run ⟨b, c⟩ = (.ok (), ⟨b', c.took cmd⟩)) ∨
    ¬c.Accepts ∧ b.contents ≠ [] ∧
      ∃ e, (flushBy sends blank).run ⟨b, c⟩ = (.err e, ⟨b, c.refused⟩) := by
  rcases flushBy_cases sends blank b with ⟨empty, _, nothing⟩ | ⟨m, f, send, empties, run⟩
  · exact .inl ⟨empty, nothing c⟩
  · have moves : HidClient.Transfers holds m b.contents ∧ b.contents ≠ [] := by
      cases send with
      | one frame held size => exact ⟨held ▸ transfer.one frame, held ▸ List.cons_ne_nil _ _⟩
      | fixed mode size many held =>
        refine ⟨held ▸ transfer.fixed _ _ many (fits mode).1, fun empty => ?_⟩
        rw [← length_contents fits, empty] at size
        exact absurd size.symm (by rw [List.length_nil]; omega)
      | owned mode many held =>
        refine ⟨held ▸ transfer.owned b.frames, fun empty => ?_⟩
        rw [← length_contents fits, empty] at many
        exact absurd many (by simp)
    rw [run c]
    rcases send_edit moves.1 (f := f) rfl plain with ⟨accepts, cmd, held, done⟩ | ⟨refuses, e, failed⟩
    · exact .inr (.inl ⟨accepts, cmd, f b, held, empties, done⟩)
    · exact .inr (.inr ⟨refuses, moves.2, e, failed⟩)

structure Appended (b : FrameBatcher α) (frame : α) (b' : FrameBatcher α) : Prop where
  contents : b'.contents = b.contents ++ [frame]
  batchSize : b'.batchSize = b.batchSize
  fits : b'.Fits

theorem pushBy_room (sends : BatchSends α) (blank : α) {b : FrameBatcher α} (fits : b.Fits)
    (room : b.len < b.batchSize) (c : HidClient) (tooFull : Error) (frame : α) :
    ∃ b', Appended b frame b' ∧
      (pushBy (flushBy sends blank) tooFull frame).run ⟨b, c⟩ =
        (if b.len + 1 ≥ b.batchSize then flushBy sends blank else pure ()).run ⟨b', c⟩ := by
  cases fixed : b.useFixed with
  | true =>
    obtain ⟨most, small⟩ := fits fixed
    have size : b.len = b.fixedLen := by rw [len, fixed, if_pos rfl]
    rw [size] at room ⊢
    have index : b.fixedLen < directGamepadBatchFrames := Nat.lt_of_lt_of_le room small
    refine ⟨{ b with
      fixedFrames := b.fixedFrames.set b.fixedLen frame, fixedLen := b.fixedLen + 1 },
      ⟨?_, rfl, fun _ => ⟨index, small⟩⟩, ?_⟩
    · simp only [contents, fixed, if_true]
      have whole : b.fixedFrames.toList.length = directGamepadBatchFrames :=
        b.fixedFrames.length_toList
      rw [Vector.toList_set, List.take_add_one, List.take_set_of_le (Nat.le_refl _),
        List.getElem?_set_self (by omega)]
      rfl
    · have stored : (store frame).run ⟨b, c⟩ = (.ok (), ⟨{ b with
          fixedFrames := b.fixedFrames.set b.fixedLen frame, fixedLen := b.fixedLen + 1 }, c⟩) := by
        rw [store, Method.run_read_bind, dif_pos index]
        rfl
      conv_lhs =>
        rw [pushBy, Method.run_read_bind]
        simp only [fixed, if_true, ge_iff_le, Nat.not_le_of_lt room, if_false]
      exact Method.run_bind_ok stored
  | false =>
    have size : b.len = b.frames.length := by rw [len, fixed, if_neg Bool.false_ne_true]
    rw [size]
    refine ⟨{ b with frames := b.frames ++ [frame] }, ⟨?_, rfl, ?_⟩, ?_⟩
    · simp [contents, fixed]
    · intro still
      rw [fixed] at still
      contradiction
    · conv_lhs =>
        rw [pushBy, Method.run_read_bind]
        simp only [fixed, Bool.false_eq_true, if_false]
      have grown : b.frames.length + 1 = (b.frames ++ [frame]).length := by simp
      rw [grown]
      rfl

end FrameBatcher

inductive BatcherCall (α : Type) where
  | tryPush (frame : α)
  | tryFlush

/-- A batcher with the frames whose `try_push` returned `Ok`. -/
structure BatcherRun (α : Type) where
  batching : Batching α
  accepted : List α

namespace BatcherRun
variable {α : Type}

def step (tryPush : α → Method Error (Batching α) Unit) (tryFlush : Method Error (Batching α) Unit)
    (s : BatcherRun α) : BatcherCall α → BatcherRun α
  | .tryPush frame =>
    let (r, batching) := (tryPush frame).run s.batching
    { batching, accepted := if r.isOk then s.accepted ++ [frame] else s.accepted }
  | .tryFlush => { s with batching := (tryFlush.run s.batching).2 }

/-- A new batcher on a plain client whose channel gives the answers in turn. -/
def start (batcher : FrameBatcher α) (answers : Nat → SendAnswer) : BatcherRun α :=
  { batching := { batcher, client := {
      channel := { sent := [], sends := 0, answers }, gamepadRing := none } }
    accepted := [] }

def sent (holds : HidCommand → List α) (s : BatcherRun α) : List α :=
  s.batching.client.channel.sent.flatMap holds

/-- Each frame that was accepted has been sent once or is buffered, in order, and the buffer is no
longer than a batch. -/
def ExactlyOnce (holds : HidCommand → List α) (s : BatcherRun α) : Prop :=
  s.sent holds ++ s.batching.batcher.contents = s.accepted ∧
    s.batching.batcher.contents.length ≤ s.batching.batcher.batchSize

/-- A push that fills the batch finds the channel willing. -/
def Roomy (s : BatcherRun α) : BatcherCall α → Prop
  | .tryPush _ => s.batching.batcher.len + 1 ≥ s.batching.batcher.batchSize →
      s.batching.client.Accepts
  | .tryFlush => True

/-- What holds between the calls as long as no push has failed. -/
structure Sound (holds : HidCommand → List α) (s : BatcherRun α) : Prop where
  plain : s.batching.client.gamepadRing = none
  fits : s.batching.batcher.Fits
  room : s.batching.batcher.len < s.batching.batcher.batchSize
  whole : s.sent holds ++ s.batching.batcher.contents = s.accepted

section
variable {sends : BatchSends α} {holds : HidCommand → List α} {blank : α} {tooFull : Error}

theorem sent_took {holds : HidCommand → List α} {c : HidClient} {cmd : HidCommand} {b : FrameBatcher α}
    {accepted : List α} :
    sent holds ⟨⟨b, c.took cmd⟩, accepted⟩ = c.channel.sent.flatMap holds ++ holds cmd := by
  simp [sent, HidClient.took]

theorem sound_took {s : BatcherRun α} (h : s.Sound holds) {b b' : FrameBatcher α}
    {frames : List α} (same : b.batchSize = s.batching.batcher.batchSize) (fits : b.Fits)
    (emptied : FrameBatcher.Emptied b b') {cmd : HidCommand} (held : holds cmd = frames)
    {accepted : List α} (whole : s.sent holds ++ frames = accepted) :
    Sound holds ⟨⟨b', s.batching.client.took cmd⟩, accepted⟩ := by
  refine ⟨h.plain, emptied.fits fits, ?_, ?_⟩
  · have none := FrameBatcher.length_contents (emptied.fits fits)
    have room := h.room
    rw [emptied.contents, List.length_nil] at none
    rw [← none, emptied.batchSize, same]
    omega
  · change sent holds _ ++ b'.contents = accepted
    rw [emptied.contents, List.append_nil, sent_took, held]
    exact whole

theorem sound_flush (transfer : sends.Transfer holds) {s : BatcherRun α} (h : s.Sound holds)
    (tryPush : α → Method Error (Batching α) Unit) :
    (s.step tryPush (FrameBatcher.flushBy sends blank) .tryFlush).Sound holds := by
  rw [step]
  rcases FrameBatcher.flushBy_fate blank transfer h.fits h.plain with
    ⟨-, run⟩ | ⟨-, cmd, b', held, emptied, run⟩ | ⟨-, -, e, run⟩
  · rw [run]
    exact h
  · rw [run]
    exact sound_took h rfl h.fits emptied held h.whole
  · rw [run]
    exact ⟨h.plain, h.fits, h.room, h.whole⟩

/-- What a push does: with the channel willing it is sound; without, the frame of a failed push stays
in the buffer. -/
theorem push_fate (transfer : sends.Transfer holds) {s : BatcherRun α} (h : s.Sound holds)
    (tryFlush : Method Error (Batching α) Unit) (frame : α) :
    (s.Roomy (.tryPush frame) →
      (s.step (FrameBatcher.pushBy (FrameBatcher.flushBy sends blank) tooFull) tryFlush
        (.tryPush frame)).Sound holds) ∧
    (¬s.Roomy (.tryPush frame) →
      ¬(s.step (FrameBatcher.pushBy (FrameBatcher.flushBy sends blank) tooFull) tryFlush
        (.tryPush frame)).ExactlyOnce holds) := by
  obtain ⟨b', appended, run⟩ := FrameBatcher.pushBy_room sends blank h.fits
    h.room s.batching.client tooFull frame
  have size := FrameBatcher.length_contents h.fits
  have size' := FrameBatcher.length_contents appended.fits
  have length := congrArg List.length appended.contents
  have joined : s.sent holds ++ b'.contents = s.accepted ++ [frame] := by
    rw [appended.contents, ← List.append_assoc, h.whole]
  rw [List.length_append, List.length_singleton] at length
  rw [step]
  split at run
  · rename_i fills
    have full : b'.contents ≠ [] := fun empty => by
      rw [empty, List.length_nil] at length
      omega
    rcases FrameBatcher.flushBy_fate blank transfer appended.fits h.plain with
      ⟨empty, -⟩ | ⟨accepts, cmd, b'', held, emptied, flushed⟩ | ⟨refuses, -, e, failed⟩
    · exact (full empty).elim
    · refine ⟨fun _ => ?_, fun unwilling => (unwilling fun _ => accepts).elim⟩
      rw [run, flushed]
      exact sound_took h appended.batchSize appended.fits emptied held joined
    · refine ⟨fun willing => (refuses (willing fills)).elim, fun _ once => ?_⟩
      rw [run, failed] at once
      have extra : s.sent holds ++ b'.contents = s.accepted := once.1
      rw [joined] at extra
      exact List.cons_ne_nil _ _ (List.append_right_eq_self.mp extra)
  · rename_i more
    refine ⟨fun _ => ?_, fun unwilling => (unwilling fun fills => (more fills).elim).elim⟩
    rw [run]
    refine ⟨h.plain, appended.fits, ?_, joined⟩
    change b'.len < b'.batchSize
    rw [appended.batchSize, ← size', length, size]
    omega

theorem sound_start (blank : α) (batchSize : Nat) (answers : Nat → SendAnswer) :
    (start (FrameBatcher.new blank batchSize) answers).Sound holds := by
  refine ⟨rfl, fun fixed => ⟨Nat.zero_le _, of_decide_eq_true fixed⟩, ?_, ?_⟩
  · have empty : (FrameBatcher.new blank batchSize).len = 0 := ite_self 0
    change (FrameBatcher.new blank batchSize).len < max batchSize 1
    omega
  · simp [start, sent, FrameBatcher.new, FrameBatcher.contents]

theorem exactlyOnce_iff (transfer : sends.Transfer holds) (batchSize : Nat)
    (answers : Nat → SendAnswer) (calls : List (BatcherCall α)) :
    let run := Run.after (step (FrameBatcher.pushBy (FrameBatcher.flushBy sends blank) tooFull)
      (FrameBatcher.flushBy sends blank)) (start (FrameBatcher.new blank batchSize) answers)
    (∀ n, (run (calls.take n)).ExactlyOnce holds) ↔
      Run.Along (step (FrameBatcher.pushBy (FrameBatcher.flushBy sends blank) tooFull)
        (FrameBatcher.flushBy sends blank)) Roomy
        (start (FrameBatcher.new blank batchSize) answers) calls := by
  refine Run.always_iff (Sound holds) (ExactlyOnce holds) (fun s h => ?_) (fun s call h met => ?_)
    (fun s call h unmet => ?_) (sound_start blank batchSize answers) calls
  · refine ⟨h.whole, ?_⟩
    rw [FrameBatcher.length_contents h.fits]
    exact Nat.le_of_lt h.room
  · cases call with
    | tryPush frame => exact (push_fate transfer h _ frame).1 met
    | tryFlush => exact sound_flush transfer h _
  · cases call with
    | tryPush frame => exact (push_fate transfer h _ frame).2 unmet
    | tryFlush => exact (unmet trivial).elim

end

end BatcherRun

namespace GamepadFrameBatcher

def framesOf : HidCommand → List GamepadFrameRaw
  | .gamepadFrameRaw frame => [frame]
  | .gamepadFrameRawUnchecked frame => [frame]
  | .gamepadFrameRawBatch frames => frames
  | .gamepadFrameRawBatchUnchecked frames => frames
  | .gamepadFrameRawBatchFixed len frames => frames.toList.take len.toNat
  | .gamepadFrameRawBatchFixedUnchecked len frames => frames.toList.take len.toNat
  | _ => []

theorem framesOf_fixed (dedupe : Bool) {len : Nat} (short : len ≤ directGamepadBatchFrames)
    (frames : Vector GamepadFrameRaw directGamepadBatchFrames) :
    framesOf (HidClient.fixedCommand dedupe len frames) = frames.toList.take len := by
  have small : len ≤ 32 := short
  have exact' : len.toUInt8.toNat = len := Nat.mod_eq_of_lt (by omega)
  cases dedupe <;> simp [HidClient.fixedCommand, framesOf, exact']

theorem transfer_trySends (dedupe : Bool) : (trySends dedupe).Transfer framesOf where
  one frame := by
    cases dedupe
    · exact HidClient.transfers_trySendOne rfl frame
    · exact HidClient.transfers_trySendOne rfl frame
  fixed len frames many short := by
    have sent : (trySends dedupe).fixed len frames =
        HidClient.trySend (HidClient.fixedCommand dedupe len frames) := by
      have run (dedupe : Bool) : HidClient.trySendFrameBatchFixedInternal len frames dedupe =
          HidClient.trySend (HidClient.fixedCommand dedupe len frames) := by
        rw [HidClient.trySendFrameBatchFixedInternal, if_neg (by omega), if_neg (by omega),
          if_neg (by omega)]
      cases dedupe
      · exact run false
      · exact run true
    rw [sent]
    exact HidClient.transfers_trySend (framesOf_fixed dedupe short frames)
  owned frames := by
    cases dedupe
    · exact HidClient.transfers_trySend rfl
    · exact HidClient.transfers_trySend rfl

def step (dedupe : Bool) : BatcherRun GamepadFrameRaw → BatcherCall GamepadFrameRaw →
    BatcherRun GamepadFrameRaw :=
  BatcherRun.step (tryPush dedupe) (tryFlush dedupe)

end GamepadFrameBatcher

namespace PackedGamepadFrameBatcher

def framesOf : HidCommand → List Payload
  | .gamepadPackedFrame frame => [frame]
  | .gamepadPackedFrameBatch frames => frames
  | .gamepadPackedFrameBatchFixed len frames => frames.toList.take len.toNat
  | _ => []

theorem transfer_trySends : trySends.Transfer framesOf where
  one frame := HidClient.transfers_trySend rfl
  fixed len frames many short := by
    have small : len ≤ 32 := short
    have exact' : len.toUInt8.toNat = len := Nat.mod_eq_of_lt (by omega)
    have sent : trySends.fixed len frames =
        HidClient.trySend (.gamepadPackedFrameBatchFixed len.toUInt8 frames) := by
      change HidClient.trySendFramePackedBatchFixed len frames = _
      rw [HidClient.trySendFramePackedBatchFixed, if_neg (by omega), if_neg (by omega),
        if_neg (by omega)]
    rw [sent]
    exact HidClient.transfers_trySend (by simp [framesOf, exact'])
  owned frames := HidClient.transfers_trySend rfl

def step : BatcherRun Payload → BatcherCall Payload → BatcherRun Payload :=
  BatcherRun.step tryPush tryFlush

end PackedGamepadFrameBatcher

open BatcherRun in
/-- A batcher of either kind, whatever the channel answers, has sent each accepted frame once or holds
it, in order and at most one batch of them, at every point of a run exactly if no push that fills
the batch is turned away. -/
theorem batcher_exactly_once (batchSize : Nat) (answers : Nat → SendAnswer) :
    (∀ (dedupe : Bool) (calls : List (BatcherCall GamepadFrameRaw)),
      (∀ n, ExactlyOnce GamepadFrameBatcher.framesOf (Run.after (GamepadFrameBatcher.step dedupe)
        (start (GamepadFrameBatcher.new batchSize) answers) (calls.take n))) ↔
      Run.Along (GamepadFrameBatcher.step dedupe) Roomy
        (start (GamepadFrameBatcher.new batchSize) answers) calls) ∧
    ∀ calls : List (BatcherCall Payload),
      (∀ n, ExactlyOnce PackedGamepadFrameBatcher.framesOf (Run.after PackedGamepadFrameBatcher.step
        (start (PackedGamepadFrameBatcher.new batchSize) answers) (calls.take n))) ↔
      Run.Along PackedGamepadFrameBatcher.step Roomy
        (start (PackedGamepadFrameBatcher.new batchSize) answers) calls :=
  ⟨fun dedupe calls => exactlyOnce_iff (GamepadFrameBatcher.transfer_trySends dedupe) batchSize
      answers calls,
    fun calls => exactlyOnce_iff PackedGamepadFrameBatcher.transfer_trySends batchSize answers calls⟩

/-- A batch of one over a full channel: the push fails and its frame stays in the buffer. -/
theorem refused_push_stays :
    ¬BatcherRun.ExactlyOnce GamepadFrameBatcher.framesOf
      (Run.after (GamepadFrameBatcher.step true)
        (BatcherRun.start (GamepadFrameBatcher.new 1) fun _ => .full) [.tryPush noneFrame]) := by
  rintro ⟨whole, -⟩
  revert whole
  decide +kernel

end HidConnect
