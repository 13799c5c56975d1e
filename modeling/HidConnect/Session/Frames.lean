import HidConnect.Session.Shadow

/-! A run of gamepad frames over a transport that never fails: which of them are reported. -/
namespace HidConnect
open Fallible

/-- A frame, and whether it goes through a checked form. -/
abbrev SentFrame := Bool × GamepadFrameRaw

/-- The slot after the frames: an unchecked one passes it by. -/
def slotAfter : GamepadSlot → List SentFrame → GamepadSlot
  | slot, [] => slot
  | slot, (true, frame) :: rest => slotAfter (slot.holdFrame frame) rest
  | slot, (false, _) :: rest => slotAfter slot rest

/-- The frames that are reported: a checked one if it changes the slot, and every unchecked one. -/
def reported : GamepadSlot → List SentFrame → List GamepadFrameRaw
  | _, [] => []
  | slot, (true, frame) :: rest =>
    if slot.holdFrame frame = slot then reported slot rest
    else frame :: reported (slot.holdFrame frame) rest
  | slot, (false, frame) :: rest => frame :: reported slot rest

theorem slotAfter_append (slot : GamepadSlot) (xs ys : List SentFrame) :
    slotAfter slot (xs ++ ys) = slotAfter (slotAfter slot xs) ys := by
  induction xs generalizing slot with
  | nil => rfl
  | cons x rest ih =>
    obtain ⟨checked, frame⟩ := x
    cases checked with
    | true => exact ih _
    | false => exact ih _

theorem reported_append (slot : GamepadSlot) (xs ys : List SentFrame) :
    reported slot (xs ++ ys) = reported slot xs ++ reported (slotAfter slot xs) ys := by
  induction xs generalizing slot with
  | nil => rfl
  | cons x rest ih =>
    obtain ⟨checked, frame⟩ := x
    cases checked with
    | true =>
      simp only [List.cons_append, reported, slotAfter]
      split
      · rename_i same
        rw [ih, same]
      · rw [ih]
        rfl
    | false => exact congrArg (frame :: ·) (ih slot)

def allChecked (frames : List GamepadFrameRaw) : List SentFrame := frames.map fun f => (true, f)

def frameReport (frame : GamepadFrameRaw) : ControlMessage :=
  gamepadMessage hidIdGamepadFirst frame.pack

theorem changes_frames (slot : GamepadSlot) (frames : List GamepadFrameRaw) :
    (changes slot (HidSession.AtSlot.frameEvents frames)).map (slotReport 0) =
        (reported slot (allChecked frames)).map frameReport ∧
      (changes slot (HidSession.AtSlot.frameEvents frames)).getLast?.getD slot =
        slotAfter slot (allChecked frames) := by
  induction frames generalizing slot with
  | nil => exact ⟨rfl, rfl⟩
  | cons frame rest ih =>
    have events : HidSession.AtSlot.frameEvents (frame :: rest) =
      GamepadSlot.fullStateEvent frame :: HidSession.AtSlot.frameEvents rest := rfl
    have all : allChecked (frame :: rest) = (true, frame) :: allChecked rest := rfl
    rw [events, all, reported, slotAfter]
    cases he : GamepadSlot.fullStateEvent frame slot with
    | none =>
      have same := GamepadSlot.changed_eq_none.mp he
      rw [changes_same he, if_pos same.symm, ← same]
      exact ih slot
    | some next =>
      obtain rfl := GamepadSlot.changed_eq_some he
      have changed : slot.holdFrame frame ≠ slot := by
        intro same
        rw [GamepadSlot.fullStateEvent, GamepadSlot.changed_eq_none.mpr same.symm] at he
        contradiction
      obtain ⟨reports, last⟩ := ih (slot.holdFrame frame)
      have first : slotReport 0 (slot.holdFrame frame) = frameReport frame := by
        rw [slotReport, GamepadSlot.toPayload_holdFrame]
        rfl
      rw [changes_next he, if_neg changed]
      constructor
      · rw [List.map_cons, List.map_cons, reports, first]
      · rw [← last, List.getLast?_cons]
        rfl

namespace HidSession

/-- A live session over a transport that never fails, with the gamepad in its first slot. -/
structure Reporting (d : Bool) (slot : GamepadSlot) (stream : List ControlMessage)
    (s : HidSession) : Prop where
  at' : AtSlot d 0 slot stream s
  working : Working s
  hidId : s.gamepadHidId = some hidIdGamepadFirst

namespace Reporting
variable {d : Bool} {slot : GamepadSlot} {stream : List ControlMessage} {s : HidSession}

theorem delivered (h : Reporting d slot stream s) : s.delivered = stream.map eventOfMessage :=
  h.at'.delivered h.working

theorem checked (h : Reporting d slot stream s) {next : List GamepadSlot} {ok : Bool}
    {s' : HidSession} (updated : Updated d 0 slot stream s next ok s')
    (hidId : s'.gamepadHidId = s.gamepadHidId) :
    ok = true ∧
      Reporting d (next.getLast?.getD slot) (stream ++ next.map (slotReport 0)) s' := by
  have total := updated.total h.working
  obtain ⟨slot', k, at', _, _, whole, _⟩ := updated.after
  obtain ⟨rfl, rfl⟩ := whole total
  rw [List.take_length] at at'
  exact ⟨total, at', working_of_plans h.working updated.onWrite updated.onFlush,
    hidId.trans h.hidId⟩

theorem gamepadOp_hidId (op : GamepadOp) (s : HidSession) :
    (op.run.run s).2.gamepadHidId = s.gamepadHidId :=
  ((keeps_gamepadOp (g := anyReport) op) s).same.hidId

theorem setFrameRawBatch (h : Reporting d slot stream s) (frames : List GamepadFrameRaw) :
    ((HidSession.setFrameRawBatch frames).run s).1.isOk = true ∧
      Reporting d (slotAfter slot (allChecked frames))
        (stream ++ (reported slot (allChecked frames)).map frameReport)
        ((HidSession.setFrameRawBatch frames).run s).2 := by
  obtain ⟨reports, last⟩ := changes_frames slot frames
  have updated := h.checked (h.at'.setFrameRawBatch frames)
    (gamepadOp_hidId (.setFrameRawBatch frames) s)
  rwa [reports, last] at updated

theorem setFrameRaw (h : Reporting d slot stream s) (frame : GamepadFrameRaw) :
    ((HidSession.setFrameRaw frame).run s).1.isOk = true ∧
      Reporting d (slotAfter slot [(true, frame)])
        (stream ++ (reported slot [(true, frame)]).map frameReport)
        ((HidSession.setFrameRaw frame).run s).2 := by
  obtain ⟨reports, last⟩ := changes_frames slot [frame]
  let call : GamepadOp := .update (.setFrameRaw frame)
  have updated := h.checked (h.at'.checkedOp (show call.checked = true from rfl))
    (gamepadOp_hidId call s)
  have events : call.events = AtSlot.frameEvents [frame] := rfl
  rw [events, reports, last] at updated
  exact updated

/-- Frame by frame, as the ring's consumer does it. -/
theorem setFrameRaws (h : Reporting d slot stream s) (frames : List GamepadFrameRaw) :
    ∃ s', (Method.forEach frames HidSession.setFrameRaw).run s = (.ok (), s') ∧
      Reporting d (slotAfter slot (allChecked frames))
        (stream ++ (reported slot (allChecked frames)).map frameReport) s' := by
  induction frames generalizing slot stream s with
  | nil => exact ⟨s, rfl, by simpa [allChecked, reported, slotAfter] using h⟩
  | cons frame rest ih =>
    obtain ⟨ok, after⟩ := h.setFrameRaw frame
    obtain ⟨u, hu⟩ := Outcome.isOk_iff.mp ok
    obtain ⟨s', run, after'⟩ := ih after
    have all : allChecked (frame :: rest) = [(true, frame)] ++ allChecked rest := rfl
    refine ⟨s', ?_, ?_⟩
    · rw [Method.forEach_cons]
      exact (Method.run_bind_ok (Prod.ext hu rfl)).trans run
    · rw [all, slotAfter_append, reported_append, List.map_append, ← List.append_assoc]
      exact after'

theorem setFrameRawUncheckedFrame (h : Reporting d slot stream s) (frame : GamepadFrameRaw) :
    ((HidSession.setFrameRawUncheckedFrame frame).run s).1.isOk = true ∧
      Reporting d slot (stream ++ [frameReport frame])
        ((HidSession.setFrameRawUncheckedFrame frame).run s).2 := by
  obtain ⟨sent, held, carries, joined⟩ := h.at'.carries
  have effect := (CoalescingWriter.emits_pushGamepadInputFields d hidIdGamepadFirst frame).discard
    s.transport sent held carries
  obtain ⟨landed, sent', held', carries', joined', _, whole⟩ := effect.stream
  have ok := effect.total h.working fun msg hm => by
    obtain rfl := List.mem_singleton.mp hm
    exact gamepadMessage_serializes _ _
  rw [HidSession.setFrameRawUncheckedFrame, h.at'.hidId_run h.hidId]
  refine ⟨ok, h.at'.onWriter ⟨sent', held', carries', ?_⟩,
    working_of_plans h.working effect.onWrite effect.onFlush, h.hidId⟩
  rw [joined', joined, whole ok]
  rfl

theorem op (h : Reporting d slot stream s) {op : SessionOp} (within : Within anyReport op) :
    ∃ slot' stream', Reporting d slot' stream' (step s op) := by
  have stays := keeps_op within s
  obtain ⟨sent, held, carries, _⟩ := h.at'.carries
  obtain ⟨landed, sent', held', carries', joined, _⟩ := stays.stream d sent held carries
  obtain ⟨gp, hg, _⟩ := h.at'.driver
  have same := stays.same.gamepad
  rw [hg] at same
  obtain ⟨gp', hg', _⟩ := Option.map_eq_some_iff.mp same
  exact ⟨_, _, ⟨⟨stays.same.closed.trans h.at'.live, stays.same.slot.trans h.at'.cached,
    ⟨gp', hg', rfl⟩, ⟨sent', held', carries', rfl⟩⟩, stays.working carries h.working,
    stays.same.hidId.trans h.hidId⟩⟩

theorem ops (h : Reporting d slot stream s) {ops : List SessionOp}
    (within : ∀ op ∈ ops, Within anyReport op) :
    ∃ slot' stream', Reporting d slot' stream' (Run.after step s ops) := by
  induction ops generalizing slot stream s with
  | nil => exact ⟨slot, stream, h⟩
  | cons op rest ih =>
    obtain ⟨slot', stream', after⟩ := h.op (within op (List.mem_cons_self ..))
    exact ih after fun op hm => within op (List.mem_cons_of_mem _ hm)

end Reporting

theorem reporting_opened {t : Transport} (clock : Nat → Nat) {req : OpenRequest}
    (fresh : t.wire = []) (never : t.NeverFails) (wanted : req.gamepad = true) :
    ∃ d slot stream, Reporting d slot stream (afterOpen t clock req) := by
  obtain ⟨working, hidId, d, slot, stream, at', _⟩ :=
    shadowed_opened t clock req fresh never wanted
  exact ⟨d, slot, stream, at', working, hidId⟩

end HidSession

end HidConnect
