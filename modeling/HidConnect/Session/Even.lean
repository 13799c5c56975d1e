import HidConnect.Library.Tracks
import HidConnect.Session.Retry
import HidConnect.Session.Panics
import HidConnect.Session.Touch
import HidConnect.Session.Typing
import HidConnect.Session.Chord

/-! Two sessions with one stream over two transports, the second of which never fails. Strictly, the
first does not fail either. -/
namespace HidConnect
open Fallible Method

namespace CoalescingWriter

/-- What is on the wire and what is pending may be cut at different messages. -/
structure Level (strict : Prop) (w v : CoalescingWriter) : Prop where
  stream : ∃ d sent held sent' held', Carries d w sent held ∧ Carries d v sent' held' ∧
    sent ++ held = sent' ++ held'
  never : v.transport.NeverFails
  calm : strict → w.transport.NeverFails

theorem neverFails_of_plans {t t' : Transport} (never : t.NeverFails) (onWrite : t'.onWrite = t.onWrite)
    (onFlush : t'.onFlush = t.onFlush) : t'.NeverFails := by
  unfold Transport.NeverFails Transport.FlushOk at never ⊢
  rwa [onWrite, onFlush]

theorem Level.bytes {strict : Prop} {w v : CoalescingWriter} (level : Level strict w v) :
    w.transport.wire ++ w.pending = v.transport.wire ++ v.pending := by
  obtain ⟨d, sent, held, sent', held', left, right, same⟩ := level.stream
  rw [left.wire, left.pending, right.wire, right.pending, ← encodeAll_append, ← encodeAll_append, same]

theorem Level.symm {w v : CoalescingWriter} (level : Level True w v) : Level True v w := by
  obtain ⟨d, sent, held, sent', held', left, right, same⟩ := level.stream
  exact ⟨⟨d, sent', held', sent, held, right, left, same.symm⟩, level.calm trivial,
    fun _ => level.never⟩

theorem Effect.serializes {d ok : Bool} {w w' : CoalescingWriter} {sent held msgs : List ControlMessage}
    {n : Nat} (effect : Effect d w sent held msgs n ok w') (came : ok = true) :
    ∀ msg ∈ msgs, msg.Serializes := by
  obtain ⟨landed, sent', held', carries, joined, -, all⟩ := effect.stream
  obtain rfl := all came
  intro msg hm
  have inside : msg ∈ sent' ++ held' := by simp [joined, hm]
  rcases List.mem_append.mp inside with early | late
  · exact carries.sentOk msg early
  · exact (carries.heldOk msg late).1

theorem tracks_emits {strict : Prop} {α : Type} {m : Coalescing α} {msgs : List ControlMessage} {n : Nat}
    (emits : ∀ d, Emits d msgs n m) (fits : strict → ∀ msg ∈ msgs, msg.Serializes) :
    Tracks strict (Level strict) (.discard m) (.discard m) := by
  intro w v level
  obtain ⟨d, sent, held, sent', held', left, right, same⟩ := level.stream
  have effect := (emits d).discard w sent held left
  have effect' := (emits d).discard v sent' held' right
  have sure (only : strict) : ((Method.discard m).run w).1.isOk = true :=
    effect.total (level.calm only) (fits only)
  rcases run : (Method.discard m).run w with ⟨r, w'⟩
  rw [run] at effect sure
  cases r with
  | ok a =>
    have total := effect'.total level.never (effect.serializes rfl)
    obtain ⟨b, ok⟩ := Outcome.isOk_iff.mp total
    rw [ok] at effect'
    obtain ⟨landed, s, h, carries, joined, -, all⟩ := effect.stream
    obtain ⟨landed', s', h', carries', joined', -, all'⟩ := effect'.stream
    have level' : Level strict w' ((Method.discard m).run v).2 := by
      constructor
      case stream =>
        refine ⟨d, s, h, s', h', carries, carries', ?_⟩
        rw [joined, joined', all rfl, all' rfl, same]
      case never => exact neverFails_of_plans level.never effect'.onWrite effect'.onFlush
      case calm => exact fun only => neverFails_of_plans (level.calm only) effect.onWrite effect.onFlush
    have same : (Method.discard m).run v = (.ok a, ((Method.discard m).run v).2) := Prod.ext ok rfl
    rw [same]
    exact tracked_ok level'
  | err e =>
    constructor
    case ok => simp
    case err => exact fun only => absurd (sure only) Bool.false_ne_true
    case panic => simp
  | panic => exact tracked_panic fun only => absurd (sure only) Bool.false_ne_true

/-- Serializing comes first, so a message that does not serialize fails in one way whatever the writer
holds. -/
theorem push_unserialized {msg : ControlMessage} (plain : ∀ i, msg ≠ .uhidInput i)
    (droppable : msg.isCritical = false) (bad : ¬msg.Serializes) (w : CoalescingWriter) :
    ((push msg).run w).1 = (msg.serializeInto.run []).1.map fun _ => FlushReason.pending := by
  have scratch (w : CoalescingWriter) : ((pushMessageToScratch msg).run w).1 =
      (msg.serializeInto.run []).1.map fun _ => () := by
    rw [pushMessageToScratch, Method.run_update_bind, Method.run_bind_pure, onScratch, Method.run_zoom]
  have stops (w : CoalescingWriter) : ((pushMessageToScratch msg).run w).1.isOk = false :=
    (pushMessageToScratch_fails bad w).1
  have reason : ((msg.serializeInto.run []).1.map fun _ => ()).map (fun _ => FlushReason.pending) =
      (msg.serializeInto.run []).1.map fun _ => FlushReason.pending := by
    cases (msg.serializeInto.run []).1 <;> rfl
  cases mode : w.direct with
  | true =>
    have written (w : CoalescingWriter) : ((writeScratch msg stampFlush).run w).1 =
        (msg.serializeInto.run []).1.map fun _ => () := by
      rw [writeScratch, run_bind_stops (stops w) fun _ => (), scratch]
      cases (msg.serializeInto.run []).1 <;> rfl
    have stays (w : CoalescingWriter) : ((writeScratch msg stampFlush).run w).1.isOk = false := by
      rw [written, ← scratch w, stops]
    rw [push_direct_run plain mode, run_bind_stops (stays _) fun _ => .pending, written, reason]
  | false =>
    rw [push, Method.run_read_bind, mode, if_neg Bool.false_ne_true, countPushed,
      Method.run_update_bind, droppable, if_neg Bool.false_ne_true, bufferMessage_plain plain,
      Method.bind_assoc, run_bind_stops (stops _) fun _ => .pending, scratch, reason]

theorem tracks_push {strict : Prop} {msg : ControlMessage} (plain : ∀ i, msg ≠ .uhidInput i)
    (droppable : msg.isCritical = false) :
    Tracks strict (Level strict) (.discard (push msg)) (.discard (push msg)) := by
  by_cases fits : msg.Serializes
  · apply tracks_emits fun d => emits_push d msg
    simpa using fun _ => fits
  · intro w v level
    obtain ⟨d, sent, held, sent', held', left, right, same⟩ := level.stream
    have landsNot {u u' : CoalescingWriter} {a b : List ControlMessage} {ok : Bool}
        (effect : Effect d u a b [msg] 1 ok u') :
        ∃ a' b', Carries d u' a' b' ∧ a' ++ b' = a ++ b := by
      obtain ⟨landed, a', b', carries, joined, part, -⟩ := effect.stream
      have none : landed = [] := by
        rcases List.prefix_cons_iff.mp part with rfl | ⟨rest, rfl, -⟩
        · rfl
        · have inside : msg ∈ a' ++ b' := by simp [joined]
          rcases List.mem_append.mp inside with early | late
          · exact absurd (carries.sentOk msg early) fits
          · exact absurd (carries.heldOk msg late).1 fits
      exact ⟨a', b', carries, by rw [joined, none, List.append_nil]⟩
    have effect := (emits_push d msg).discard w sent held left
    have effect' := (emits_push d msg).discard v sent' held' right
    obtain ⟨a, b, carries, whole⟩ := landsNot effect
    obtain ⟨a', b', carries', whole'⟩ := landsNot effect'
    have after : Level strict ((Method.discard (push msg)).run w).2 ((Method.discard (push msg)).run v).2 :=
      ⟨⟨d, a, b, a', b', carries, carries', by rw [whole, whole', same]⟩,
        neverFails_of_plans level.never effect'.onWrite effect'.onFlush,
        fun only => neverFails_of_plans (level.calm only) effect.onWrite effect.onFlush⟩
    have failed (u : CoalescingWriter) : ((Method.discard (push msg)).run u).1 =
        (msg.serializeInto.run []).1.map fun _ => () := by
      rw [Method.run_discard, push_unserialized plain droppable fits]
      cases (msg.serializeInto.run []).1 <;> rfl
    rcases run : (Method.discard (push msg)).run w with ⟨r, w'⟩
    rcases run' : (Method.discard (push msg)).run v with ⟨r', v'⟩
    have one := failed w
    have two := failed v
    rw [run] at one after
    rw [run'] at two after
    dsimp only at one two after
    obtain rfl : r' = r := two.trans one.symm
    cases r' with
    | ok a => exact tracked_ok after
    | err e => exact tracked_err after
    | panic => exact tracked_panic fun _ => rfl

theorem level_flushed {strict : Prop} {w v w' : CoalescingWriter} {n : Nat} (level : Level strict w v)
    (run : flushNow.run w = (.ok n, w')) : w'.pending = [] ∧ Level strict w' v := by
  obtain ⟨d, sent, held, sent', held', left, right, same⟩ := level.stream
  obtain ⟨effect, done⟩ := flushNow_effect left
  rw [run] at effect done
  have carries := done rfl
  refine ⟨carries.pending, ⟨d, _, _, sent', held', carries, right, ?_⟩, level.never, ?_⟩
  · rw [List.append_nil, same]
  · exact fun only => neverFails_of_plans (level.calm only) effect.onWrite effect.onFlush

theorem level_flush {w v : CoalescingWriter} (level : Level True w v) :
    ∃ n w', flushNow.run w = (.ok n, w') ∧ w'.pending = [] ∧ Level True w' v := by
  obtain ⟨d, sent, held, sent', held', left, right, same⟩ := level.stream
  have total := (flushNow_effect left).1.total (level.calm trivial) (List.forall_mem_nil _)
  obtain ⟨n, ok⟩ := Outcome.isOk_iff.mp total
  have run : flushNow.run w = (.ok n, (flushNow.run w).2) := Prod.ext ok rfl
  exact ⟨n, _, run, level_flushed level run⟩

end CoalescingWriter

theorem KeyboardHid.event_serializes {scancode : UInt8} {pressed : Bool} {mods : Modifiers}
    {k k' : KeyboardHid} {msg : ControlMessage}
    (run : (keyEvent scancode pressed mods).run k = (.ok msg, k')) : msg.Serializes := by
  cases valid : accepts scancode with
  | true =>
    rw [k.keyEvent_after (p := ⟨scancode, pressed, mods⟩) valid] at run
    cases run
    exact HidSession.pressMessage_serializes k ⟨scancode, pressed, mods⟩
  | false =>
    rcases k.keyEvent_run scancode pressed mods with ⟨held, -⟩ | ⟨-, refused⟩
    · exact absurd (valid.symm.trans held) Bool.false_ne_true
    · rw [refused] at run
      cases run

namespace HidSession
open CoalescingWriter (Level)

/-- The sessions differ in their writers only. -/
def Even (strict : Prop) (s t : HidSession) : Prop :=
  ∃ w, t = { s with transport := w } ∧ Level strict s.transport w

variable {strict : Prop} {s t : HidSession} {α : Type}

theorem Even.level (even : Even strict s t) : Level strict s.transport t.transport := by
  obtain ⟨w, rfl, level⟩ := even
  exact level

theorem Even.symm (even : Even True s t) : Even True t s := by
  obtain ⟨w, rfl, level⟩ := even
  exact ⟨s.transport, rfl, level.symm⟩

theorem Even.right (even : Even True s t) : Even True t t := by
  obtain ⟨w, rfl, level⟩ := even
  obtain ⟨d, sent, held, sent', held', left, right, same⟩ := level.stream
  exact ⟨w, rfl, ⟨d, sent', held', sent', held', right, right, rfl⟩, level.never, fun _ => level.never⟩

theorem even_self {d : Bool} {sent held : List ControlMessage}
    (carries : CoalescingWriter.Carries d s.transport sent held) (working : Working s) : Even True s s :=
  ⟨s.transport, rfl, ⟨d, sent, held, sent, held, carries, carries, rfl⟩, working, fun _ => working⟩

theorem even_recovered (whole : WholeMessages s) : Even False s s.recovered := by
  obtain ⟨d, sent, held, carries⟩ := whole
  have again : CoalescingWriter.Carries d s.recovered.transport sent held :=
    ⟨carries.mode, carries.wire, carries.pending, carries.sentOk, carries.heldOk, carries.unbuffered,
      nofun, fun _ => rfl⟩
  exact ⟨_, rfl, ⟨d, sent, held, sent, held, carries, again, rfl⟩, ⟨fun _ => rfl, fun _ => rfl⟩,
    False.elim⟩

abbrev Evenly (strict : Prop) (m : Session α) : Prop := Tracks strict (Even strict) m m

theorem evenly_update {f : HidSession → HidSession} (same : ∀ s, (f s).transport = s.transport)
    (blind : ∀ s w, f { s with transport := w } = { f s with transport := w }) :
    Evenly strict (.update f : Session Unit) := by
  apply tracks_update
  rintro s t ⟨w, rfl, level⟩
  exact ⟨w, blind s w, (same s).symm ▸ level⟩

theorem evenly_read {f : HidSession → Session α} (blind : ∀ s w, f { s with transport := w } = f s)
    (h : ∀ s, Evenly strict (f s)) : Evenly strict (.read >>= f) := by
  apply tracks_read_bind
  intro s t even
  have same : f t = f s := by
    obtain ⟨w, rfl, -⟩ := even
    exact blind s w
  rw [same]
  exact h s s t even

theorem evenly_congr {m : Session α} {f : HidSession → Session α}
    (blind : ∀ s w, f { s with transport := w } = f s) (run : ∀ s, m.run s = (f s).run s)
    (h : ∀ s, Evenly strict (f s)) : Evenly strict m := by
  intro s t even
  have same : f t = f s := by
    obtain ⟨w, rfl, -⟩ := even
    exact blind s w
  rw [run, run, same]
  exact h s s t even

theorem evenly_onWriter {m : Coalescing α} (h : Tracks strict (Level strict) m m) :
    Evenly strict (onWriter m) := by
  apply tracks_zoom h
  · exact fun s t even => even.level
  · rintro s t ⟨w, rfl, -⟩ u v level
    exact ⟨v, rfl, level⟩

theorem evenly_emits {m : Coalescing α} {msgs : List ControlMessage} {n : Nat}
    (emits : ∀ d, CoalescingWriter.Emits d msgs n m) (fits : strict → ∀ msg ∈ msgs, msg.Serializes) :
    Evenly strict (onWriter (.discard m)) :=
  evenly_onWriter (CoalescingWriter.tracks_emits emits fits)

theorem evenly_send {msg : ControlMessage} (fits : strict → msg.Serializes) :
    Evenly strict (send msg) := by
  apply evenly_emits fun d => CoalescingWriter.emits_push d msg
  simpa using fits

theorem evenly_sendPlain {msg : ControlMessage} (plain : ∀ i, msg ≠ .uhidInput i)
    (droppable : msg.isCritical = false) : Evenly strict (send msg) :=
  evenly_onWriter (CoalescingWriter.tracks_push plain droppable)

theorem evenly_flushNow : Evenly strict (.discard flushNow) :=
  evenly_emits CoalescingWriter.emits_flushNow fun _ _ none => absurd none List.not_mem_nil

/- Keyboard and mouse. -/

theorem evenly_key (scancode : UInt8) (pressed : Bool) (mods : Modifiers) :
    Evenly strict (key scancode pressed mods) := by
  apply evenly_read (fun _ _ => rfl)
  intro s
  apply (tracks_okOr _ _).bind
  intro kbd
  rcases event : (KeyboardHid.keyEvent scancode pressed mods).run kbd with ⟨r, kbd'⟩
  apply Tracks.bind
  · exact evenly_update (fun _ => rfl) fun _ _ => rfl
  · intro _
    apply tracks_lift_bind
    rintro msg rfl
    exact evenly_send fun _ => KeyboardHid.event_serializes event

theorem evenly_keyTap (scancode : UInt8) (mods : Modifiers) : Evenly strict (keyTap scancode mods) :=
  (evenly_key _ _ _).bind fun _ => evenly_key _ _ _

theorem evenly_typeText (text : String) : Evenly strict (typeText text) := by
  apply tracks_forEach
  intro ch
  rcases Scancode.tryFromChar ch with ⟨sc, mods⟩
  cases sc with
  | none => exact tracks_pure ()
  | some sc => exact evenly_keyTap _ _

theorem evenly_typeTextStrict (text : String) : Evenly strict (typeTextStrict text) := by
  apply tracks_forEach
  intro ch
  rcases Scancode.tryFromChar ch with ⟨sc, mods⟩
  cases sc with
  | none => exact tracks_fail _
  | some sc => exact evenly_keyTap _ _

theorem evenly_pushReport {report : HidReport} (own : MouseHid.IsReport report) :
    Evenly strict (pushReport report) := by
  have fits : FitsInput report.size.toNat report.data.toList := by
    rw [own.2, FitsInput, Vector.length_toList]
    decide
  apply evenly_emits fun d => CoalescingWriter.emits_pushUhidInput d _ _ fits
  intro _ msg member
  obtain rfl := List.mem_singleton.mp member
  rw [ControlMessage.Serializes, serialize_uhidInputMessage _ _ fits]
  rfl

theorem evenly_mouse {f : MouseHid → Session α} (h : ∀ m, Evenly strict (f m)) :
    Evenly strict (do
      let mouse ← .okOr mouseNotOpen (← Method.read).mouse
      f mouse : Session α) := by
  apply evenly_read (fun _ _ => rfl)
  exact fun s => (tracks_okOr _ _).bind h

theorem evenly_mouseScroll (hscroll vscroll : Float32) : Evenly strict (mouseScroll hscroll vscroll) := by
  apply evenly_mouse
  intro m
  have own : ∀ report, (m.generateInputFromScroll hscroll vscroll).1 = some report →
      MouseHid.IsReport report := fun report some => MouseHid.scroll_isReport some
  rcases out : m.generateInputFromScroll hscroll vscroll with ⟨report, mouse⟩
  rw [out] at own
  apply Tracks.bind
  · exact evenly_update (fun _ => rfl) fun _ _ => rfl
  · intro _
    cases report with
    | none => exact tracks_pure _
    | some report => exact (evenly_pushReport (own report rfl)).bind fun _ => tracks_pure _

theorem evenly_mouseFrameBatch (frames : List (Int32 × Int32 × UInt8)) :
    Evenly strict (mouseFrameBatch frames) := by
  unfold mouseFrameBatch
  split
  · exact tracks_pure _
  · apply evenly_mouse
    intro m
    apply Tracks.bind
    · exact tracks_forEach (fun frame => evenly_pushReport ⟨rfl, rfl⟩) frames
    · exact fun _ => tracks_pure _

/- Touch. -/

theorem evenly_injectTouch (action : UInt8) (pointerId : UInt64) (x y : Int32) (pressure : Float32) :
    Evenly strict (injectTouch action pointerId x y pressure) := by
  apply evenly_read (fun _ _ => rfl)
  exact fun s => evenly_sendPlain nofun rfl

theorem evenly_touchAll (ts : List Touch) : Evenly strict (touchAll ts) :=
  tracks_forEach (fun _ => evenly_injectTouch _ _ _ _ _) ts

/-- A release that follows an error is no result of a call. -/
theorem evenly_rollback {m : Session α} {cleanup : Session Unit} (h : Evenly False m) :
    Evenly False (.rollback m cleanup) :=
  h.rollback False.elim

theorem evenly_pressAll (id : Nat) (points : List (Int32 × Int32)) : Evenly False (pressAll id points) := by
  induction points generalizing id with
  | nil => exact tracks_pure ()
  | cons point rest ih =>
    exact (evenly_rollback (evenly_injectTouch _ _ _ _ _)).bind fun _ => ih (id + 1)

theorem evenly_multiFingerTap (points : List (Int32 × Int32)) : Evenly False (multiFingerTap points) := by
  unfold multiFingerTap
  dsimp only
  split
  · apply (evenly_pressAll 0 points).bind
    intro _
    apply evenly_rollback
    exact tracks_forEach (fun _ => evenly_injectTouch _ _ _ _ _) _
  · exact tracks_fail _

theorem evenly_swipePointer (id : UInt64) (origin target : Int32 × Int32) (steps : UInt32) :
    Evenly strict (swipePointer id origin target steps) := by
  rw [swipePointer_eq]
  exact evenly_touchAll _

theorem evenly_gesture (g : Gesture) : Evenly False g.run := by
  cases g with
  | tapPointer id x y =>
    exact (evenly_injectTouch _ _ _ _ _).bind fun _ => evenly_rollback (evenly_injectTouch _ _ _ _ _)
  | swipePointer id origin target steps => exact evenly_swipePointer id origin target steps
  | doubleTap x y =>
    rw [Gesture.run, doubleTap_eq]
    exact evenly_touchAll _
  | longPress x y => exact (evenly_injectTouch _ _ _ _ _).bind fun _ => evenly_injectTouch _ _ _ _ _
  | threeFingerScreenshot =>
    exact evenly_congr (fun _ _ => rfl) threeFingerScreenshot_run fun s => evenly_touchAll _
  | drag origin target steps => exact evenly_swipePointer 0 origin target steps
  | pinch cx cy startRadius endRadius steps =>
    exact evenly_congr (fun _ _ => rfl) (pinch_run cx cy startRadius endRadius steps)
      fun s => evenly_touchAll _
  | multiFingerTap points => exact evenly_multiFingerTap points

/- Gamepad. -/

theorem evenly_withCachedSlot {f : SlotIdx × GamepadHid → Session α} (h : ∀ gp, Evenly strict (f gp)) :
    Evenly strict (gamepadWithCachedSlot >>= f) := by
  apply Tracks.bind
  · apply evenly_read (fun _ _ => rfl)
    intro s
    split
    · exact tracks_fail _
    · apply (tracks_okOr _ _).bind
      intro i
      exact (tracks_okOr _ _).bind fun _ => tracks_pure _
  · exact h

theorem evenly_hidIdOfGamepad : Evenly strict hidIdOfGamepad := by
  apply evenly_read (fun _ _ => rfl)
  intro s
  split
  · exact tracks_fail _
  · exact tracks_okOr _ _

theorem gamepadMessages_serialize (hidId : UInt16) (payloads : List Payload) :
    ∀ msg ∈ payloads.map (gamepadMessage hidId), msg.Serializes := by
  intro msg member
  obtain ⟨payload, -, rfl⟩ := List.mem_map.mp member
  exact gamepadMessage_serializes hidId payload

theorem evenly_pushGamepadBatch (hidId : UInt16) (batch : List Payload) :
    Evenly strict (pushGamepadBatch hidId batch) :=
  evenly_emits (fun d => CoalescingWriter.emits_pushGamepadInputBatch d hidId batch)
    fun _ => gamepadMessages_serialize hidId batch

theorem evenly_pushGamepad (hidId : UInt16) (payload : Payload) :
    Evenly strict (pushGamepad hidId payload) :=
  evenly_emits (fun d => CoalescingWriter.emits_pushGamepadInput d hidId payload)
    fun _ => gamepadMessages_serialize hidId [payload]

theorem evenly_checkedUpdate (event : GamepadSlot → Option GamepadSlot) :
    Evenly strict (checkedUpdate event) := by
  apply evenly_withCachedSlot
  rintro ⟨i, gp⟩
  rcases out : gp.slotEvent i event with ⟨msg, gp'⟩
  simp only [out]
  apply Tracks.bind
  · exact evenly_update (fun _ => rfl) fun _ _ => rfl
  · intro _
    cases msg with
    | none => exact tracks_pure _
    | some report => exact (evenly_pushGamepad _ _).bind fun _ => tracks_pure _

theorem evenly_checkedBatch (i : SlotIdx) (frames : List GamepadFrameRaw) (gp : GamepadHid)
    (batch : List Payload) (batchId : Option UInt16) (sent : Nat) :
    Evenly strict (checkedBatch i frames gp batch batchId sent) := by
  induction frames generalizing gp batch batchId sent with
  | nil =>
    unfold checkedBatch
    cases batchId with
    | none => exact tracks_pure _
    | some hidId =>
      dsimp only
      split
      · exact tracks_pure _
      · exact (evenly_pushGamepadBatch hidId batch).bind fun _ => tracks_pure _
  | cons frame rest ih =>
    rcases out : gp.slotEvent i (GamepadSlot.fullStateEvent frame) with ⟨msg, gp'⟩
    simp only [checkedBatch, out]
    apply Tracks.bind
    · exact evenly_update (fun _ => rfl) fun _ _ => rfl
    · intro _
      cases msg with
      | none => exact ih _ _ _ _
      | some report =>
        dsimp only
        split
        · exact (evenly_pushGamepadBatch _ _).bind fun _ => ih _ _ _ _
        · exact ih _ _ _ _

theorem evenly_setFrameRawBatch (frames : List GamepadFrameRaw) :
    Evenly strict (setFrameRawBatch frames) := by
  rcases frames with _ | ⟨first, _ | ⟨second, rest⟩⟩
  · exact tracks_pure _
  · apply (evenly_checkedUpdate _).bind
    intro changed
    cases changed with
    | true => exact tracks_pure _
    | false => exact tracks_pure _
  · rw [setFrameRawBatch_many]
    apply evenly_withCachedSlot
    exact fun gp => evenly_checkedBatch _ _ _ _ _ _

theorem evenly_setFrameRawUnchecked (frame : GamepadFrameRaw) :
    Evenly strict (setFrameRawUnchecked frame) := by
  apply evenly_hidIdOfGamepad.bind
  intro hidId
  exact evenly_emits (fun d => CoalescingWriter.emits_pushGamepadInputFields d hidId frame)
    fun _ => gamepadMessages_serialize hidId [frame.pack]

theorem evenly_setFrameRawPacked (payload : Payload) : Evenly strict (setFrameRawPacked payload) :=
  evenly_hidIdOfGamepad.bind fun hidId => evenly_pushGamepad hidId payload

theorem evenly_injectRawGamepadReport (payload : List UInt8) :
    Evenly strict (injectRawGamepadReport payload) := by
  unfold injectRawGamepadReport
  split
  · exact tracks_fail _
  · split
    · exact tracks_fail _
    · rename_i short
      have fits := fitsInput_whole (Nat.not_lt.mp short)
      apply evenly_hidIdOfGamepad.bind
      intro hidId
      apply evenly_emits fun d => CoalescingWriter.emits_pushUhidInput d hidId _ fits
      intro _ msg member
      obtain rfl := List.mem_singleton.mp member
      rw [ControlMessage.Serializes, serialize_uhidInputMessage _ _ fits]
      rfl

theorem evenly_setFrameRawBatchUnchecked (frames : List GamepadFrameRaw) :
    Evenly strict (setFrameRawBatchUnchecked frames) := by
  rcases frames with _ | ⟨first, _ | ⟨second, rest⟩⟩
  · exact tracks_pure _
  · exact (evenly_setFrameRawUnchecked first).bind fun _ => tracks_pure _
  · apply evenly_hidIdOfGamepad.bind
    intro hidId
    apply Tracks.bind
    · apply evenly_emits fun d => CoalescingWriter.emits_pushGamepadInputBatchFromFields d hidId _
      intro _ msg member
      obtain ⟨frame, -, rfl⟩ := List.mem_map.mp member
      exact gamepadMessage_serializes hidId frame.pack
    · exact fun _ => tracks_pure _

theorem evenly_setFrameRawPackedBatch (frames : List Payload) :
    Evenly strict (setFrameRawPackedBatch frames) := by
  rcases frames with _ | ⟨first, _ | ⟨second, rest⟩⟩
  · exact tracks_pure _
  · exact (evenly_setFrameRawPacked first).bind fun _ => tracks_pure _
  · apply evenly_hidIdOfGamepad.bind
    exact fun hidId => (evenly_pushGamepadBatch hidId _).bind fun _ => tracks_pure _

theorem evenly_gamepadOp (op : GamepadOp) : Evenly strict op.run := by
  cases op with
  | update u =>
    rw [GamepadOp.run, u.run_eq]
    exact (evenly_checkedUpdate _).discard
  | setFrameRawBatch frames => exact (evenly_setFrameRawBatch frames).discard
  | setFrameRawUnchecked frame => exact evenly_setFrameRawUnchecked frame
  | setFrameRawUncheckedFrame frame => exact evenly_setFrameRawUnchecked frame
  | setFrameRawPacked payload => exact evenly_setFrameRawPacked payload
  | injectRawGamepadReport payload => exact evenly_injectRawGamepadReport payload
  | setFrameRawBatchUnchecked frames => exact (evenly_setFrameRawBatchUnchecked frames).discard
  | setFrameRawPackedBatch frames => exact (evenly_setFrameRawPackedBatch frames).discard

/- Closing and the drivers. -/

theorem evenly_crash : Evenly strict (.crash : Session α) :=
  tracks_panics (fun _ => rfl) fun _ => rfl

theorem evenly_closeMessage {r : Result ControlMessage} : Evenly False (.lift r >>= send) :=
  (tracks_lift r).bind fun _ => evenly_send False.elim

theorem evenly_closeKbd : Evenly False closeKbd := by
  apply evenly_read (fun _ _ => rfl)
  intro s
  cases s.kbd with
  | none => exact tracks_pure ()
  | some kbd => exact evenly_closeMessage

theorem evenly_closeMouse : Evenly False closeMouse := by
  apply evenly_read (fun _ _ => rfl)
  intro s
  cases s.mouse with
  | none => exact tracks_pure ()
  | some mouse => exact evenly_closeMessage

theorem evenly_closeGamepad : Evenly False closeGamepad := by
  apply evenly_read (fun _ _ => rfl)
  intro s
  cases s.gamepad with
  | none => exact tracks_pure ()
  | some g =>
    dsimp only
    have freed : Evenly False (.update fun s =>
        { s with gamepad := none, gamepadSlot := none, gamepadHidId := none } : Session Unit) :=
      evenly_update (fun _ => rfl) fun _ _ => rfl
    apply Tracks.bind
    · exact evenly_update (fun _ => rfl) fun _ _ => rfl
    · intro _
      split
      · exact (evenly_send False.elim).bind fun _ => freed
      · exact freed

theorem evenly_tryCloseAll : Evenly False tryCloseAll := by
  apply evenly_read (fun _ _ => rfl)
  intro s
  split
  · exact tracks_pure ()
  · apply evenly_closeKbd.bind
    intro _
    apply evenly_closeMouse.bind
    intro _
    apply evenly_closeGamepad.bind
    exact fun _ => evenly_update (fun _ => rfl) fun _ _ => rfl

theorem evenly_keyChord (mods : Modifiers) (scancode : UInt8) : Evenly False (keyChord mods scancode) := by
  apply evenly_rollback
  apply (evenly_key _ _ _).bind
  intro _
  exact (evenly_key _ _ _).bind fun _ => evenly_key _ _ _

theorem evenly_tapAndroidKeycode (keycode metastate : UInt32) :
    Evenly False (tapAndroidKeycode keycode metastate) :=
  (evenly_send False.elim).bind fun _ => evenly_send False.elim

theorem evenly_injectScroll (x y : Int32) (hscroll vscroll : Float32) (buttons : UInt32) :
    Evenly False (injectScroll x y hscroll vscroll buttons) := by
  apply evenly_read (fun _ _ => rfl)
  exact fun s => evenly_send False.elim

/-- Which calls come back with a value does not depend on where the stream is cut, nor does what they
write. -/
theorem evenly_op (op : SessionOp) : Evenly False op.run := by
  cases op with
  | send msg => exact evenly_send False.elim
  | flushNow => exact evenly_flushNow
  | close => exact evenly_tryCloseAll
  | setScreenSize w h => exact evenly_update (fun _ => rfl) fun _ _ => rfl
  | editKeyboard edit =>
    apply evenly_read (fun _ _ => rfl)
    intro s
    cases s.kbd with
    | none => exact evenly_crash
    | some kbd => exact evenly_update (fun _ => rfl) fun _ _ => rfl
  | editMouse edit =>
    apply evenly_read (fun _ _ => rfl)
    intro s
    cases s.mouse with
    | none => exact evenly_crash
    | some mouse => exact evenly_update (fun _ => rfl) fun _ _ => rfl
  | editGamepad edit =>
    apply evenly_read (fun _ _ => rfl)
    intro s
    cases s.gamepad with
    | none => exact evenly_crash
    | some gamepad => exact evenly_update (fun _ => rfl) fun _ _ => rfl
  | key scancode pressed mods => exact evenly_key scancode pressed mods
  | typeText text => exact evenly_typeText text
  | typeTextStrict text => exact evenly_typeTextStrict text
  | keyChord mods scancode => exact evenly_keyChord mods scancode
  | mouseMotion dx dy buttonsState => exact evenly_mouse fun _ => evenly_pushReport ⟨rfl, rfl⟩
  | mouseButtons buttonsState => exact evenly_mouse fun _ => evenly_pushReport ⟨rfl, rfl⟩
  | mouseScroll hscroll vscroll => exact (evenly_mouseScroll hscroll vscroll).discard
  | mouseFrameBatch frames => exact (evenly_mouseFrameBatch frames).discard
  | gamepad op => exact evenly_gamepadOp op
  | tapAndroidKeycode keycode metastate => exact evenly_tapAndroidKeycode keycode metastate
  | injectTouch action pointerId x y pressure => exact evenly_injectTouch action pointerId x y pressure
  | injectScroll x y hscroll vscroll buttons => exact evenly_injectScroll x y hscroll vscroll buttons
  | gesture g => exact evenly_gesture g

end HidSession

end HidConnect
