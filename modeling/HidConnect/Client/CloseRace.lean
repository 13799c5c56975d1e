import HidConnect.Client.Ring
import HidConnect.Client.Teardown
import HidConnect.Library.Run

/-! The close flag of the ring: a producer that pushes and then closes, against the steps of the
consumer loop. -/
namespace HidConnect
open Fallible

/-- Where the consumer stands in its loop. `checking` has found the ring empty and has yet to load
the close flag; `failed` has seen an error and raised the error flag. -/
inductive Consumer where
  | draining | checking | left | failed
  deriving DecidableEq, Repr

/-- The producer's thread and the consumer's, with what they share. `pushed` is what the ring has
accepted and `delivered` what was passed to `set_frame_raw`. -/
structure RingThreads where
  ring : GamepadFrameRing
  closeFlag : Bool
  consumer : Consumer
  session : HidSession
  pushed : List GamepadFrameRaw
  delivered : List GamepadFrameRaw

inductive RingStep where
  | push (frame : GamepadFrameRaw)
  | close
  /-- The consumer pops, or loads the close flag. -/
  | turn

def openedPad : HidSession := (HidSession.open .steady id .gamepadOnlyRealtime).2

def pressedPad : GamepadFrameRaw :=
  { buttons := 1, leftX := 0, leftY := 0, rightX := 0, rightY := 0, leftTrigger := 0
    rightTrigger := 0 }

namespace RingThreads

def start (session : HidSession) : RingThreads :=
  { ring := .new, closeFlag := false, consumer := .draining, session, pushed := [], delivered := [] }

def deliver (frame : GamepadFrameRaw) (ring : GamepadFrameRing) (s : RingThreads) : RingThreads :=
  let result := (HidSession.setFrameRaw frame).run s.session
  { s with
    ring, session := result.2, delivered := s.delivered ++ [frame]
    consumer := if result.1.isOk then .draining else .failed }

def turn (s : RingThreads) : RingThreads :=
  match s.consumer with
  | .draining =>
    match s.ring.pop with
    | (some frame, ring) => s.deliver frame ring
    | (none, _) => { s with consumer := .checking }
  | .checking => { s with consumer := if s.closeFlag then .left else .draining }
  | _ => s

/-- The producer pushes nothing behind its close. -/
def push (frame : GamepadFrameRaw) (s : RingThreads) : RingThreads :=
  if s.closeFlag then s
  else
    match s.ring.push frame with
    | some ring => { s with ring, pushed := s.pushed ++ [frame] }
    | none => s

def step (s : RingThreads) : RingStep → RingThreads
  | .push frame => s.push frame
  | .close => { s with closeFlag := true }
  | .turn => s.turn

/-- The flag is not stored between an empty pop and the load behind it if a frame was pushed in
between. -/
def Timely (s : RingThreads) : RingStep → Prop
  | .close => s.consumer = .checking → s.ring.contents = []
  | _ => True

instance (s : RingThreads) : DecidablePred s.Timely
  | .close => inferInstanceAs (Decidable (_ → _))
  | .push _ | .turn => .isTrue trivial

/- What a turn and a push do. -/

theorem turn_empty {s : RingThreads} (draining : s.consumer = .draining)
    (empty : s.ring.contents = []) : s.turn = { s with consumer := .checking } := by
  rw [turn, draining]
  simp only [GamepadFrameRing.pop_empty empty]

theorem turn_cons {s : RingThreads} {frame : GamepadFrameRaw} {rest : List GamepadFrameRaw}
    (draining : s.consumer = .draining) (full : s.ring.contents = frame :: rest) :
    ∃ ring, s.turn = s.deliver frame ring ∧ ring.contents = rest := by
  obtain ⟨ring, popped, left⟩ := GamepadFrameRing.pop_cons full
  refine ⟨ring, ?_, left⟩
  rw [turn, draining]
  simp only [popped]

theorem push_cases (frame : GamepadFrameRaw) (s : RingThreads) :
    s.push frame = s ∨
      s.closeFlag = false ∧ ∃ ring, s.push frame = { s with ring, pushed := s.pushed ++ [frame] } ∧
        ring.contents = s.ring.contents ++ [frame] := by
  rw [push]
  split
  · exact .inl rfl
  · rename_i opened
    by_cases room : s.ring.contents.length < ringCapacity
    · obtain ⟨ring, pushed, longer⟩ := GamepadFrameRing.push_room room frame
      exact .inr ⟨Bool.eq_false_iff.mpr opened, ring, by simp only [pushed], longer⟩
    · have most := s.ring.length_contents_le
      rw [GamepadFrameRing.push_full (by omega) frame]
      exact .inl rfl

/- Nothing is lost while the ring is shared: what is not delivered is still there. -/

/-- Every pushed frame is delivered or in the ring, and the loop was left by the flag. -/
structure Kept (s : RingThreads) : Prop where
  whole : s.delivered ++ s.ring.contents = s.pushed
  flagged : s.consumer = .left → s.closeFlag = true

theorem kept_start (session : HidSession) : Kept (start session) where
  whole := by
    change [] ++ GamepadFrameRing.new.contents = []
    rw [List.nil_append, GamepadFrameRing.contents_new]
  flagged := nofun

theorem kept_turn {s : RingThreads} (h : s.Kept) : s.turn.Kept := by
  cases hc : s.consumer with
  | draining =>
    cases hr : s.ring.contents with
    | nil =>
      rw [turn_empty hc hr]
      exact ⟨h.whole, nofun⟩
    | cons frame rest =>
      obtain ⟨ring, run, left⟩ := turn_cons hc hr
      rw [run]
      refine ⟨?_, ?_⟩
      · change s.delivered ++ [frame] ++ ring.contents = s.pushed
        rw [left, List.append_assoc, List.singleton_append, ← hr, h.whole]
      · intro here
        simp only [deliver] at here
        split at here <;> contradiction
  | checking =>
    rw [turn, hc]
    refine ⟨h.whole, ?_⟩
    cases flag : s.closeFlag with
    | true => exact fun _ => rfl
    | false => exact nofun
  | left =>
    rw [turn, hc]
    exact h
  | failed =>
    rw [turn, hc]
    exact h

theorem kept_step (s : RingThreads) (e : RingStep) (h : s.Kept) : (s.step e).Kept := by
  cases e with
  | push frame =>
    rcases s.push_cases frame with same | ⟨_, ring, run, longer⟩
    · rw [step, same]
      exact h
    · rw [step, run]
      refine ⟨?_, h.flagged⟩
      change s.delivered ++ ring.contents = s.pushed ++ [frame]
      rw [longer, ← List.append_assoc, h.whole]
  | close => exact ⟨h.whole, fun _ => rfl⟩
  | turn => exact kept_turn h

/- The session is the one that the loop leaves behind. -/

/-- The session has taken what was delivered, without an error unless the consumer has failed. -/
def Ran (session : HidSession) (s : RingThreads) : Prop :=
  ((Method.forEach s.delivered HidSession.setFrameRaw).run session).2 = s.session ∧
    (((Method.forEach s.delivered HidSession.setFrameRaw).run session).1.isOk = true ↔
      s.consumer ≠ .failed)

theorem ran_start (session : HidSession) : Ran session (start session) :=
  ⟨rfl, iff_of_true rfl nofun⟩

theorem ran_deliver {session : HidSession} {s : RingThreads} (h : Ran session s)
    (draining : s.consumer = .draining) (frame : GamepadFrameRaw) (ring : GamepadFrameRing) :
    Ran session (s.deliver frame ring) := by
  have fine := h.2.mpr (by rw [draining]; nofun)
  obtain ⟨u, ok⟩ := Outcome.isOk_iff.mp fine
  have run : (Method.forEach (s.delivered ++ [frame]) HidSession.setFrameRaw).run session =
      (HidSession.setFrameRaw frame).run s.session := by
    rw [Method.forEach_append, Method.run_bind_ok (Prod.ext ok h.1), Method.forEach_cons,
      Method.forEach_nil, Method.bind_pure_unit]
  refine ⟨congrArg Prod.snd run, ?_⟩
  change ((Method.forEach (s.delivered ++ [frame]) _).run session).1.isOk = true ↔
    (if ((HidSession.setFrameRaw frame).run s.session).1.isOk then .draining else .failed) ≠
      Consumer.failed
  rw [run]
  cases ((HidSession.setFrameRaw frame).run s.session).1.isOk <;> simp

theorem ran_step {session : HidSession} (s : RingThreads) (e : RingStep) (h : Ran session s) :
    Ran session (s.step e) := by
  cases e with
  | push frame =>
    rcases s.push_cases frame with same | ⟨_, ring, run, _⟩
    · rw [step, same]
      exact h
    · rw [step, run]
      exact h
  | close => exact h
  | turn =>
    rw [step]
    cases hc : s.consumer with
    | draining =>
      cases hr : s.ring.contents with
      | nil =>
        rw [turn_empty hc hr]
        exact ⟨h.1, h.2.trans (iff_of_true (by rw [hc]; nofun) nofun)⟩
      | cons frame rest =>
        obtain ⟨ring, run, _⟩ := turn_cons hc hr
        rw [run]
        exact ran_deliver h hc frame ring
    | checking =>
      rw [turn, hc]
      refine ⟨h.1, h.2.trans (iff_of_true (by rw [hc]; nofun) ?_)⟩
      change (if s.closeFlag then Consumer.left else .draining) ≠ .failed
      split <;> nofun
    | left =>
      rw [turn, hc]
      exact h
    | failed =>
      rw [turn, hc]
      exact h

/-- A consumer that left by the flag goes on as `gamepad_consumer_loop` does with the frames that it
delivered. -/
theorem consumer_runs_loop (session : HidSession) (steps : List RingStep)
    (left : (Run.after step (start session) steps).consumer = .left) :
    (gamepadConsumerLoop (Run.after step (start session) steps).delivered).run session =
      (gamepadConsumerLoop []).run (Run.after step (start session) steps).session := by
  have ran : Ran session (Run.after step (start session) steps) :=
    Run.preserved (Ran session) ran_step (ran_start session) steps
  obtain ⟨u, ok⟩ := Outcome.isOk_iff.mp (ran.2.mpr (by rw [left]; nofun))
  have run : (Method.forEach (Run.after step (start session) steps).delivered
      HidSession.setFrameRaw).run session = (.ok u, (Run.after step (start session) steps).session) :=
    Prod.ext ok ran.1
  rw [gamepadConsumerLoop, Method.run_bind_ok (Method.run_ignore (by rw [run]; rfl)), run]
  rfl

/- What the close loses. -/

/-- The flag is set, and the consumer will leave or has left without the rest of the ring. -/
def Lost (s : RingThreads) : Prop :=
  s.closeFlag = true ∧ s.ring.contents ≠ [] ∧ (s.consumer = .checking ∨ s.consumer = .left)

theorem lost_turn {s : RingThreads} : s.turn.Lost ↔ s.Lost := by
  cases hc : s.consumer with
  | draining =>
    have before : ¬s.Lost := by
      rintro ⟨_, _, here | here⟩ <;> rw [hc] at here <;> contradiction
    refine iff_of_false ?_ before
    cases hr : s.ring.contents with
    | nil =>
      rw [turn_empty hc hr]
      exact fun lost => lost.2.1 hr
    | cons frame rest =>
      obtain ⟨ring, run, _⟩ := turn_cons hc hr
      rw [run]
      rintro ⟨_, _, here⟩
      simp only [deliver] at here
      split at here <;> rcases here with here | here <;> contradiction
  | checking =>
    rw [turn, hc]
    simp only [Lost, hc]
    cases s.closeFlag <;> simp
  | left => rw [turn, hc]
  | failed => rw [turn, hc]

theorem lost_step (s : RingThreads) (e : RingStep) (h : s.Kept) :
    (¬s.Lost ∧ s.Timely e) ↔ ¬(s.step e).Lost := by
  cases e with
  | push frame =>
    rcases s.push_cases frame with same | ⟨opened, ring, run, _⟩
    · rw [step, same]
      exact and_iff_left trivial
    · have unset (s' : RingThreads) (flag : s'.closeFlag = s.closeFlag) : ¬s'.Lost := by
        intro lost
        rw [Lost, flag, opened] at lost
        exact Bool.false_ne_true lost.1
      refine iff_of_true ⟨unset s rfl, trivial⟩ ?_
      rw [step, run]
      exact unset _ rfl
  | close =>
    constructor
    · rintro ⟨safe, timely⟩ ⟨_, full, here⟩
      rcases here with here | here
      · exact full (timely here)
      · exact safe ⟨h.flagged here, full, .inr here⟩
    · intro safe
      refine ⟨fun lost => safe ⟨rfl, lost.2⟩, fun here => ?_⟩
      by_contra full
      exact safe ⟨rfl, full, .inl here⟩
  | turn =>
    rw [step, lost_turn]
    exact and_iff_left trivial

theorem lost_iff {s : RingThreads} (h : s.Kept) (left : s.consumer = .left) :
    ¬s.Lost ↔ s.delivered = s.pushed := by
  have lost : s.Lost ↔ s.ring.contents ≠ [] :=
    ⟨fun lost => lost.2.1, fun full => ⟨h.flagged left, full, .inr left⟩⟩
  rw [lost, not_not, ← h.whole]
  exact List.self_eq_append_right.symm

/-- A consumer that leaves by the flag has delivered every frame pushed before the close exactly if
the flag was never stored between its empty pop and its load of the flag, with a frame pushed in
between. -/
theorem close_delivers_pushed (session : HidSession) (steps : List RingStep)
    (left : (Run.after step (start session) steps).consumer = .left) :
    (Run.after step (start session) steps).delivered = (Run.after step (start session) steps).pushed ↔
      Run.Along step Timely (start session) steps := by
  have kept : (Run.after step (start session) steps).Kept :=
    Run.preserved Kept kept_step (kept_start session) steps
  have fresh : ¬(start session).Lost := fun lost => Bool.false_ne_true lost.1
  have run := Run.along_iff Kept (fun s => ¬s.Lost) kept_step lost_step (kept_start session) steps
  rw [← lost_iff kept left, ← run]
  exact and_iff_right fresh

/-- The close comes while the consumer still drains. -/
theorem close_delivers_pushed_two :
    (Run.after step (start openedPad) [.push pressedPad, .turn, .push pressedPad, .close, .turn,
      .turn, .turn]).delivered = [pressedPad, pressedPad] :=
  (close_delivers_pushed openedPad [.push pressedPad, .turn, .push pressedPad, .close, .turn, .turn,
    .turn] (by decide +kernel)).mpr (by decide +kernel)

/-- The consumer finds the ring empty, the frame and the flag land, and it loads the flag. -/
theorem close_loses_frame :
    let s := Run.after step (start openedPad) [.turn, .push pressedPad, .close, .turn]
    s.consumer = .left ∧ s.pushed = [pressedPad] ∧ s.delivered = [] := by
  decide +kernel

end RingThreads

end HidConnect
