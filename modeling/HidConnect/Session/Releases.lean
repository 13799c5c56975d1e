import HidConnect.Session.Touch
import HidConnect.Session.Panics
import HidConnect.Session.Staged
import HidConnect.Coalesce.Direct
import HidConnect.Library.Trace
import Mathlib.Data.List.Induction
import Mathlib.Data.List.Nodup
import Mathlib.Data.List.Range

/-! Which finger of a guarded gesture is lifted twice: the guard lifts every finger it knows, also one
whose UP is on its way already. -/
namespace HidConnect
open Fallible

def Transport.takesNext (t : Transport) : Bool :=
  match t.onWrite t.writes with
  | .ok => true
  | .failed .. => false

theorem Transport.takesNext_iff {t : Transport} : t.takesNext = true ↔ t.onWrite t.writes = .ok := by
  unfold takesNext
  cases t.onWrite t.writes <;> simp

namespace CoalescingWriter

def outgoing (w : CoalescingWriter) : List UInt8 := w.transport.wire ++ w.pending

/-- Only writes fail, and then nothing of them lands. In direct mode flushes may fail too. -/
structure Ready (w : CoalescingWriter) : Prop where
  tidy : w.Tidy
  allOrNothing : w.transport.AllOrNothing
  flushOk : w.direct = false → w.transport.FlushOk

/-- A message that is pushed now will be on the wire. -/
def lands (w : CoalescingWriter) : Bool := !w.direct || w.transport.takesNext

/-- The push of these bytes makes no write, or one that is accepted. -/
def Takes (w : CoalescingWriter) (bytes : List UInt8) : Prop :=
  w.direct = true ∨ Due { w with pending := w.pending ++ bytes } → w.transport.Accepts 1

structure Pushed (bytes : List UInt8) (w : CoalescingWriter) (ok : Bool) (w' : CoalescingWriter) :
    Prop where
  ok : ok = true ↔ w.Takes bytes
  ready : w'.Ready
  direct : w'.direct = w.direct
  onWrite : w'.transport.onWrite = w.transport.onWrite
  writes : w.direct = true → w'.transport.writes = w.transport.writes + 1
  wrote : w.direct = true → w.transport.Accepts 1 → w'.transport = w.transport.wrote bytes
  outgoing : w'.outgoing = w.outgoing ++ if w.lands then bytes else []

theorem pushed_direct {msg : ControlMessage} (real : msg.Serializes) {w : CoalescingWriter}
    (ready : w.Ready) (mode : w.direct = true) :
    Pushed msg.bytes w ((push msg).run w).1.isOk ((push msg).run w).2 := by
  have sent := push_direct_delivers real mode
  have empty := ready.tidy mode
  have empty' : ((push msg).run w).2.pending = [] := sent.pending.trans empty
  obtain ⟨onWrite, writes⟩ := Transport.deliver_plan ready.allOrNothing msg.bytes
  rw [← sent.transport] at onWrite writes
  constructor
  case ok =>
    rw [sent.ok, Transport.deliver_isOk]
    exact ⟨fun accepts _ => accepts, fun takes => takes (.inl mode)⟩
  case ready =>
    refine ⟨fun _ => empty', ?_, fun buffered => ?_⟩
    · intro i landed e failed
      rw [onWrite] at failed
      exact ready.allOrNothing i landed e failed
    · rw [sent.direct, mode] at buffered
      contradiction
  case direct => exact sent.direct
  case onWrite => exact onWrite
  case writes => exact fun _ => writes
  case wrote =>
    intro _ accepts
    rw [sent.transport, Transport.deliver_accepted _ accepts]
  case outgoing =>
    have lands : w.lands = w.transport.takesNext := by
      simp [CoalescingWriter.lands, mode]
    rw [CoalescingWriter.outgoing, CoalescingWriter.outgoing, empty, empty', sent.transport, lands,
      List.append_nil, List.append_nil]
    rcases Transport.deliver_fate ready.allOrNothing msg.bytes with ⟨refused, -, same⟩ | ⟨taken, wrote⟩
    · rw [same, if_neg (mt Transport.takesNext_iff.mp refused), List.append_nil]
    · rw [wrote, if_pos (Transport.takesNext_iff.mpr taken)]
      rfl

theorem flushNow_outgoing {w : CoalescingWriter} (ready : w.Ready) (mode : w.direct = false)
    (full : w.pending ≠ []) :
    ((flushNow.run w).1.isOk = true ↔ w.transport.Accepts 1) ∧ (flushNow.run w).2.Ready ∧
      (flushNow.run w).2.direct = w.direct ∧
      (flushNow.run w).2.transport.onWrite = w.transport.onWrite ∧
      (flushNow.run w).2.outgoing = w.outgoing := by
  by_cases accepted : w.transport.Accepts 1
  · rw [flushNow_accepted full accepted]
    refine ⟨iff_of_true rfl accepted, ⟨fun _ => rfl, ready.allOrNothing, ready.flushOk⟩, rfl, rfl, ?_⟩
    simp [outgoing, Transport.wrote]
  · obtain ⟨e, t, run, -, -, exactly⟩ := flushNow_refused full accepted
    have same := exactly ready.allOrNothing (ready.flushOk mode)
    rw [run, same]
    refine ⟨iff_of_false Bool.false_ne_true accepted, ⟨ready.tidy, ready.allOrNothing, ready.flushOk⟩,
      rfl, rfl, rfl⟩

theorem pushed_buffered {msg : ControlMessage} (real : msg.Serializes)
    (calm : msg.isCritical = false) {w : CoalescingWriter} (ready : w.Ready)
    (mode : w.direct = false) :
    Pushed msg.bytes w ((push msg).run w).1.isOk ((push msg).run w).2 := by
  have lands : w.lands = true := by
    simp [CoalescingWriter.lands, mode]
  obtain ⟨scratch, buffered⟩ := bufferMessage_ok real { w with pushed := w.pushed + 1 }
  have full : w.pending ++ msg.bytes ≠ [] :=
    List.append_ne_nil_of_right_ne_nil _ (bytes_ne_nil real)
  let w₁ : CoalescingWriter :=
    { w with pushed := w.pushed + 1, scratch, pending := w.pending ++ msg.bytes }
  have ready₁ : w₁.Ready := by
    refine ⟨fun direct => ?_, ready.allOrNothing, ready.flushOk⟩
    exact absurd (mode.symm.trans direct) Bool.false_ne_true
  have joined : w₁.outgoing = w.outgoing ++ msg.bytes := (List.append_assoc _ _ _).symm
  have takes : w.Takes msg.bytes ↔ (w₁.Due → w.transport.Accepts 1) := by
    refine ⟨fun h due => h (.inr due), fun h due => ?_⟩
    rcases due with direct | due
    · exact absurd (mode.symm.trans direct) Bool.false_ne_true
    · exact h due
  rw [push_buffered_run calm mode, Method.run_bind_ok buffered]
  rcases flushIfDue_run (w := w₁) full with ⟨early, ok, state⟩ | ⟨due, ticks, reason, run⟩
  · have done : (flushIfDue.run w₁).2 = { w₁ with ticks := w₁.ticks + 1 } := state
    rw [ok, done]
    constructor
    case ok => exact iff_of_true rfl (takes.mpr fun due => absurd due early)
    case ready => exact ⟨ready₁.tidy, ready₁.allOrNothing, ready₁.flushOk⟩
    case direct => rfl
    case onWrite => rfl
    case writes => exact fun direct => absurd (mode.symm.trans direct) Bool.false_ne_true
    case wrote => exact fun direct => absurd (mode.symm.trans direct) Bool.false_ne_true
    case outgoing =>
      rw [lands, if_pos rfl]
      exact joined
  · have ready₂ : ({ w₁ with ticks } : CoalescingWriter).Ready :=
      ⟨ready₁.tidy, ready₁.allOrNothing, ready₁.flushOk⟩
    obtain ⟨ok, ready', direct, onWrite, same⟩ := flushNow_outgoing ready₂ mode full
    rw [run, Method.run_bind_pure]
    dsimp only
    rw [Outcome.isOk_map]
    constructor
    case ok =>
      rw [ok, takes]
      exact ⟨fun accepted _ => accepted, fun h => h due⟩
    case ready => exact ready'
    case direct => exact direct
    case onWrite => exact onWrite
    case writes => exact fun direct => absurd (mode.symm.trans direct) Bool.false_ne_true
    case wrote => exact fun direct => absurd (mode.symm.trans direct) Bool.false_ne_true
    case outgoing =>
      rw [lands, if_pos rfl]
      exact same.trans joined

theorem pushed_calm {msg : ControlMessage} (real : msg.Serializes) (calm : msg.isCritical = false)
    {w : CoalescingWriter} (ready : w.Ready) :
    Pushed msg.bytes w ((push msg).run w).1.isOk ((push msg).run w).2 := by
  cases mode : w.direct with
  | true => exact pushed_direct real ready mode
  | false => exact pushed_buffered real calm ready mode

end CoalescingWriter

namespace HidSession

def message (s : HidSession) (t : Touch) : ControlMessage :=
  s.touchMsg t.action t.id t.x t.y t.pressure

theorem message_serializes (s : HidSession) (t : Touch) : (s.message t).Serializes :=
  touch_serializes _

def touched (s : HidSession) (t : Touch) : HidSession := (t.inject.run s).2

def Takes (s : HidSession) (t : Touch) : Prop := s.transport.Takes (s.message t).bytes

def lands (s : HidSession) : Bool := s.transport.lands

/-- The touches of a run that reach the wire, or wait to. -/
def landed (s : HidSession) (ts : List Touch) : List Touch := Run.select touched lands s ts

abbrev afterTouches (s : HidSession) (ts : List Touch) : HidSession := Run.after touched s ts

section Runs
variable {s : HidSession}

theorem inject_pushed (ready : s.transport.Ready) (t : Touch) :
    CoalescingWriter.Pushed (s.message t).bytes s.transport (t.inject.run s).1.isOk
      (touched s t).transport := by
  have pushed := CoalescingWriter.pushed_calm (message_serializes s t) rfl ready
  rw [message] at *
  rw [touched, inject_push, Method.run_discard]
  dsimp only
  rw [Outcome.isOk_map]
  exact pushed

theorem inject_calm (t : Touch) : Method.NeverPanics t.inject :=
  Method.neverPanics_read.bind fun _ => neverPanics_textless rfl

theorem inject_run (ready : s.transport.Ready) (t : Touch) :
    s.Takes t ∧ t.inject.run s = (.ok (), touched s t) ∨
      ¬s.Takes t ∧ ∃ e, t.inject.run s = (.err e, touched s t) := by
  have ok := (inject_pushed ready t).ok
  have calm := inject_calm t s
  rcases hr : t.inject.run s with ⟨r, s'⟩
  have state : touched s t = s' := by rw [touched, hr]
  rw [hr] at ok calm
  rw [state]
  cases r with
  | ok u => exact .inl ⟨ok.mp rfl, rfl⟩
  | err e => exact .inr ⟨fun takes => Bool.false_ne_true (ok.mpr takes), e, rfl⟩
  | panic => contradiction

theorem ready_after (ready : s.transport.Ready) (ts : List Touch) :
    (s.afterTouches ts).transport.Ready :=
  Run.preserved (fun s : HidSession => s.transport.Ready)
    (fun _ t ready => (inject_pushed ready t).ready) ready ts

theorem outgoing_after (ready : s.transport.Ready) (ts : List Touch) :
    ∃ added, (s.afterTouches ts).transport.outgoing = s.transport.outgoing ++ added ∧
      ∀ rest, readEvents (added ++ rest) =
        (s.landed ts).map Touch.event ++ readEvents rest := by
  induction ts generalizing s with
  | nil => exact ⟨[], (List.append_nil _).symm, fun _ => rfl⟩
  | cons t rest ih =>
    have pushed := inject_pushed ready t
    obtain ⟨added, whole, reads⟩ := ih pushed.ready
    refine ⟨(if s.transport.lands then (s.message t).bytes else []) ++ added, ?_, fun tail => ?_⟩
    · rw [← List.append_assoc, ← pushed.outgoing]
      exact whole
    · rw [landed, Run.select, lands]
      split
      · rw [List.append_assoc, readEvents_message (message_serializes s t), reads]
        rfl
      · exact reads tail

theorem touchAll_run (ready : s.transport.Ready) (ts : List Touch) :
    Run.Along touched Takes s ts ∧ (touchAll ts).run s = (.ok (), s.afterTouches ts) ∨
      ∃ k < ts.length, Run.Along touched Takes s (ts.take k) ∧
        ¬Run.Along touched Takes s (ts.take (k + 1)) ∧
        ∃ e, (touchAll ts).run s = (.err e, s.afterTouches (ts.take (k + 1))) := by
  induction ts generalizing s with
  | nil => exact .inl ⟨trivial, rfl⟩
  | cons t rest ih =>
    rcases inject_run ready t with ⟨takes, run⟩ | ⟨refuses, e, run⟩
    · have both : (touchAll (t :: rest)).run s = (touchAll rest).run (touched s t) :=
        Method.run_bind_ok run
      rw [both]
      rcases ih (inject_pushed ready t).ready with ⟨along, all⟩ | ⟨k, inside, before, stop, e, all⟩
      · exact .inl ⟨⟨takes, along⟩, all⟩
      · exact .inr ⟨k + 1, Nat.succ_lt_succ inside, ⟨takes, before⟩, fun h => stop h.2, e, all⟩
    · exact .inr ⟨0, Nat.succ_pos _, trivial, fun h => refuses h.1, e, Method.run_bind_err run⟩

theorem touchAllQuietly_run (ready : s.transport.Ready) (ts : List Touch) :
    (touchAllQuietly ts).run s = (.ok (), s.afterTouches ts) := by
  induction ts generalizing s with
  | nil => rfl
  | cons t rest ih =>
    have ignored : (Method.ignore t.inject).run s = (.ok (), touched s t) :=
      Method.run_ignore (inject_calm t s)
    exact (Method.run_bind_ok ignored).trans (ih (inject_pushed ready t).ready)

theorem lands_of_takes {t : Touch} (takes : s.Takes t) : s.lands = true := by
  cases mode : s.transport.direct with
  | false => simp [lands, CoalescingWriter.lands, mode]
  | true =>
    have next := (Transport.accepts_one.mp (takes (.inl mode))).1
    simp [lands, CoalescingWriter.lands, Transport.takesNext_iff.mpr next]

theorem landed_of_along {ts : List Touch} (along : Run.Along touched Takes s ts) :
    s.landed ts = ts :=
  Run.select_of_along (along.imp fun _ _ takes => lands_of_takes takes)

theorem landed_append (ts us : List Touch) :
    s.landed (ts ++ us) = s.landed ts ++ (s.afterTouches ts).landed us :=
  Run.select_append

/- A direct session makes one write for each touch. -/

theorem direct_after (ready : s.transport.Ready) (mode : s.transport.direct = true)
    (ts : List Touch) :
    (s.afterTouches ts).lands = true ↔
      s.transport.transport.onWrite (s.transport.transport.writes + ts.length) = .ok := by
  induction ts generalizing s with
  | nil => simp [Run.after, lands, CoalescingWriter.lands, mode, Transport.takesNext_iff]
  | cons t rest ih =>
    have pushed := inject_pushed ready t
    have later := ih pushed.ready (pushed.direct.trans mode)
    rw [pushed.onWrite, pushed.writes mode, Nat.add_assoc, Nat.add_comm 1] at later
    exact later

theorem direct_along (ready : s.transport.Ready) (mode : s.transport.direct = true)
    (ts : List Touch) :
    Run.Along touched Takes s ts ↔ s.transport.transport.Accepts ts.length := by
  induction ts generalizing s with
  | nil => exact iff_of_true trivial (Transport.accepts_zero _)
  | cons t rest ih =>
    have pushed := inject_pushed ready t
    have takes : s.Takes t ↔ s.transport.transport.Accepts 1 :=
      ⟨fun h => h (.inl mode), fun accepts _ => accepts⟩
    rw [Run.Along, List.length_cons, takes,
      Transport.accepts_succ (s.message t).bytes rest.length]
    refine and_congr_right fun accepts => ?_
    rw [ih pushed.ready (pushed.direct.trans mode), pushed.wrote mode accepts]

theorem buffered_after (ready : s.transport.Ready) (mode : s.transport.direct = false)
    (ts : List Touch) : (s.afterTouches ts).lands = true := by
  induction ts generalizing s with
  | nil => simp [Run.after, lands, CoalescingWriter.lands, mode]
  | cons t rest ih =>
    have pushed := inject_pushed ready t
    exact ih pushed.ready (pushed.direct.trans mode)

end Runs

/- The gestures with a guard. -/

/-- The fingers that go down, from this one on. -/
def presses : Nat → List (Int32 × Int32) → List Touch
  | _, [] => []
  | id, point :: rest => touchDown id.toUInt64 point :: presses (id + 1) rest

def releases (n : Nat) : List Touch := (List.range n).reverse.map fun id => touchUp id.toUInt64 (0, 0)

/-- A press that is refused is followed by the lifts of the fingers before it. -/
theorem pressAll_run {s : HidSession} (ready : s.transport.Ready) (id : Nat)
    (points : List (Int32 × Int32)) :
    Run.Along touched Takes s (presses id points) ∧
        (pressAll id points).run s = (.ok (), s.afterTouches (presses id points)) ∨
      ∃ k < points.length, Run.Along touched Takes s ((presses id points).take k) ∧
        ¬Run.Along touched Takes s ((presses id points).take (k + 1)) ∧
        ∃ e, (pressAll id points).run s =
          (.err e, s.afterTouches ((presses id points).take (k + 1) ++ releases (id + k))) := by
  induction points generalizing s id with
  | nil => exact .inl ⟨trivial, rfl⟩
  | cons point rest ih =>
    have own : (touchAll [touchDown id.toUInt64 point]).run s =
        (touchDown id.toUInt64 point).inject.run s := by
      rw [MultitouchHandle.touchAll_single]
    rw [Playing.pressAll_cons]
    rcases inject_run ready (touchDown id.toUInt64 point) with ⟨takes, run⟩ | ⟨refuses, e, run⟩
    · rw [Method.run_bind_ok (Method.run_rollback_ok (own.trans run))]
      have next := ih (inject_pushed ready (touchDown id.toUInt64 point)).ready (id + 1)
      rcases next with ⟨along, all⟩ | ⟨k, inside, before, stop, e, all⟩
      · exact .inl ⟨⟨takes, along⟩, all⟩
      · refine .inr ⟨k + 1, Nat.succ_lt_succ inside, ⟨takes, before⟩, fun h => stop h.2, e, ?_⟩
        rw [all, Nat.add_right_comm, Nat.add_assoc]
        rfl
    · rw [Method.run_bind_err (Method.run_rollback_err (own.trans run))]
      refine .inr ⟨0, Nat.succ_pos _, trivial, fun h => refuses h.1, e, ?_⟩
      have lifted := touchAllQuietly_run (inject_pushed ready (touchDown id.toUInt64 point)).ready
        (releases id)
      rw [releases] at lifted
      rw [lifted]
      rfl

theorem presses_ids (id : Nat) (points : List (Int32 × Int32)) :
    (presses id points).map Touch.id = fingerIds id points.length := by
  induction points generalizing id with
  | nil => rfl
  | cons point rest ih =>
    rw [presses, List.map_cons, ih, List.length_cons]
    simp only [fingerIds, List.range'_succ, List.map_cons]
    rfl

theorem presses_down (id : Nat) (points : List (Int32 × Int32)) :
    ∀ t ∈ presses id points, t.action = TouchAction.down := by
  induction points generalizing id with
  | nil => exact List.forall_mem_nil _
  | cons point rest ih => exact List.forall_mem_cons.mpr ⟨rfl, ih (id + 1)⟩

end HidSession

/- Fingers that come up once. -/

/-- Each UP follows a DOWN of its finger, with no other UP of it between. -/
def LiftedOnce (events : List DeviceEvent) : Prop :=
  Trace.Upheld (fun before event => ∀ id, event = .touch TouchAction.up id →
    ∃ earlier between, before = earlier ++ .touch TouchAction.down id :: between ∧
      .touch TouchAction.up id ∉ between) events

theorem no_up_pressing (ids : List UInt64) (id : UInt64) :
    .touch TouchAction.up id ∉ pressing ids := by
  simp [pressing, TouchAction.down, TouchAction.up]

theorem mem_lifting {id : UInt64} {ids : List UInt64} :
    .touch TouchAction.up id ∈ lifting ids ↔ id ∈ ids := by
  simp [lifting]

theorem next_up_iff {ids ups : List UInt64} {id : UInt64} (known : id ∈ ids) :
    (∃ earlier between, pressing ids ++ lifting ups =
        earlier ++ .touch TouchAction.down id :: between ∧ .touch TouchAction.up id ∉ between) ↔
      id ∉ ups := by
  constructor
  · rintro ⟨earlier, between, whole, none⟩ lifted
    rcases List.append_eq_append_iff.mp whole with ⟨tail, -, late⟩ | ⟨tail, -, early⟩
    · exact no_down_lifting ups id (by rw [late]; simp)
    · cases tail with
      | nil => exact no_down_lifting ups id (by rw [← List.nil_append (lifting ups), ← early]; simp)
      | cons e tail =>
        obtain ⟨-, rfl⟩ := List.cons.inj early
        exact none (List.mem_append_right _ (mem_lifting.mpr lifted))
  · intro down
    obtain ⟨earlier, between, whole⟩ := List.append_of_mem (mem_pressing.mpr known)
    refine ⟨earlier, between ++ lifting ups, by rw [whole, List.append_assoc]; rfl, fun up => ?_⟩
    rcases List.mem_append.mp up with up | up
    · exact no_up_pressing ids id (by rw [whole]; simp [up])
    · exact down (mem_lifting.mp up)

theorem liftedOnce_iff {ids ups : List UInt64} (known : ∀ id ∈ ups, id ∈ ids) :
    LiftedOnce (pressing ids ++ lifting ups) ↔ ups.Nodup := by
  induction ups using List.reverseRecOn with
  | nil =>
    refine iff_of_true ?_ List.nodup_nil
    have none : pressing ids ++ lifting [] = [] ++ pressing ids := List.append_nil _
    rw [none]
    refine Trace.upheld_append Trace.upheld_nil ?_
    rintro before event member id rfl
    exact absurd member (no_up_pressing ids id)
  | append_singleton front id ih =>
    have split : pressing ids ++ lifting (front ++ [id]) =
        pressing ids ++ lifting front ++ [.touch TouchAction.up id] := by
      simp [lifting]
    have owed : (∀ other, DeviceEvent.touch TouchAction.up id = .touch TouchAction.up other →
        ∃ earlier between, pressing ids ++ lifting front =
          earlier ++ .touch TouchAction.down other :: between ∧
            .touch TouchAction.up other ∉ between) ↔ id ∉ front := by
      rw [← next_up_iff (known id (by simp))]
      refine ⟨fun h => h id rfl, ?_⟩
      rintro h other same
      cases same
      exact h
    rw [split, LiftedOnce, Trace.upheld_snoc, owed, ← LiftedOnce,
      ih fun other hf => known other (List.mem_append_left _ hf), List.nodup_append]
    constructor
    · rintro ⟨once, new⟩
      refine ⟨once, by simp, ?_⟩
      rintro a ha b hb rfl
      rw [List.mem_singleton.mp hb] at ha
      exact new ha
    · rintro ⟨once, -, apart⟩
      exact ⟨once, fun hf => apart id hf id (List.mem_singleton_self id) rfl⟩

namespace Gesture
open HidSession

/-- The fingers of a gesture with a guard, in the order in which they go down and come up. -/
def fingers : Gesture → List UInt64
  | tapPointer id _ _ => [id]
  | multiFingerTap points =>
    if 2 ≤ points.length ∧ points.length ≤ 10 then fingerIds 0 points.length else []
  | _ => []

def downs : Gesture → List Touch
  | tapPointer id x y => [touchDown id (x, y)]
  | multiFingerTap points =>
    if 2 ≤ points.length ∧ points.length ≤ 10 then presses 0 points else []
  | _ => []

def liftAt : Gesture → Int32 × Int32
  | tapPointer _ x y => (x, y)
  | _ => (0, 0)

def ups (g : Gesture) : List Touch := g.fingers.map fun id => touchUp id g.liftAt

def guardLifts (ids : List UInt64) : List Touch := ids.reverse.map fun id => touchUp id (0, 0)

theorem releases_eq (n : Nat) : releases n = guardLifts (fingerIds 0 n) := by
  rw [releases, guardLifts, fingerIds, ← List.map_reverse, List.map_map, List.range_eq_range']
  rfl

theorem length_fingerIds (n : Nat) : (fingerIds 0 n).length = n := by
  simp [fingerIds]

theorem take_fingerIds {k n : Nat} (few : k ≤ n) : (fingerIds 0 n).take k = fingerIds 0 k := by
  simp only [fingerIds, ← List.map_take, ← List.range_eq_range', List.take_range,
    Nat.min_eq_left few]

theorem nodup_fingerIds {n : Nat} (few : n ≤ 10) : (fingerIds 0 n).Nodup := by
  refine List.Nodup.map_on ?_ List.nodup_range'
  intro a ha b hb same
  have small (i : Nat) (member : i ∈ List.range' 0 n) : i.toUInt64.toNat = i := by
    have bound := (List.mem_range'_1.mp member).2
    simp
    omega
  rw [← small a ha, ← small b hb, same]

theorem nodup_fingers (g : Gesture) : g.fingers.Nodup := by
  cases g with
  | tapPointer id x y => simp [fingers]
  | multiFingerTap points =>
    rw [fingers]
    split
    · rename_i valid
      exact nodup_fingerIds valid.2
    · exact List.nodup_nil
  | _ => exact List.nodup_nil

theorem downs_ids (g : Gesture) : g.downs.map Touch.id = g.fingers := by
  cases g with
  | multiFingerTap points =>
    rw [downs, fingers]
    split
    · exact presses_ids 0 points
    · rfl
  | _ => rfl

theorem downs_down (g : Gesture) : ∀ t ∈ g.downs, t.action = TouchAction.down := by
  cases g with
  | tapPointer id x y => exact List.forall_mem_singleton.mpr rfl
  | multiFingerTap points =>
    rw [downs]
    split
    · exact presses_down 0 points
    · exact List.forall_mem_nil _
  | _ => exact List.forall_mem_nil _

theorem script_run {s : HidSession} (ready : s.transport.Ready) {m : Session Unit} {n : Nat}
    {downs : List Touch} (ups : List Touch) (before : Nat → List Touch) (all : List Touch)
    (pressed : Run.Along touched Takes s downs ∧ m.run s = (.ok (), s.afterTouches downs) ∨
      ∃ k < n, Run.Along touched Takes s (downs.take k) ∧
        ¬Run.Along touched Takes s (downs.take (k + 1)) ∧
        ∃ e, m.run s = (.err e, s.afterTouches (downs.take (k + 1) ++ before k))) :
    let r := (m >>= fun _ => Method.rollback (touchAll ups) (touchAllQuietly all)).run s
    (∃ k < n, Run.Along touched Takes s (downs.take k) ∧
        ¬Run.Along touched Takes s (downs.take (k + 1)) ∧
        r.2 = s.afterTouches (downs.take (k + 1) ++ before k)) ∨
      Run.Along touched Takes s (downs ++ ups) ∧ r.2 = s.afterTouches (downs ++ ups) ∨
      ∃ k < ups.length, Run.Along touched Takes s (downs ++ ups.take k) ∧
        ¬Run.Along touched Takes s (downs ++ ups.take (k + 1)) ∧
        r.2 = s.afterTouches (downs ++ ups.take (k + 1) ++ all) := by
  intro r
  rcases pressed with ⟨down, run⟩ | ⟨k, inside, before', stop, e, run⟩
  · right
    have rest : r = (Method.rollback (touchAll ups) (touchAllQuietly all)).run (s.afterTouches downs) :=
      Method.run_bind_ok run
    have lifts := touchAll_run (ready_after ready downs) ups
    rcases lifts with ⟨up, run'⟩ | ⟨k, inside, before', stop, e, run'⟩
    · left
      refine ⟨(Run.along_append ..).mpr ⟨down, up⟩, ?_⟩
      rw [rest, Method.run_rollback_ok run', afterTouches, afterTouches, afterTouches,
        Run.after_append]
    · right
      have ready' := ready_after (ready_after ready downs) (ups.take (k + 1))
      refine ⟨k, inside, (Run.along_append ..).mpr ⟨down, before'⟩,
        fun h => stop ((Run.along_append ..).mp h).2, ?_⟩
      rw [rest, Method.run_rollback_err run', touchAllQuietly_run ready', afterTouches, afterTouches,
        afterTouches, afterTouches, Run.after_append, Run.after_append]
  · left
    have stopped : r = (.err e, s.afterTouches (downs.take (k + 1) ++ before k)) :=
      Method.run_bind_err run
    exact ⟨k, inside, before', stop, by rw [stopped]⟩

/-- The ways a gesture with a guard goes: a press is refused, nothing is, or a lift is. -/
theorem guarded_run (g : Gesture) (guarded : g.guarded = true) {s : HidSession}
    (ready : s.transport.Ready) :
    (∃ k < g.fingers.length, Run.Along touched Takes s (g.downs.take k) ∧
        ¬Run.Along touched Takes s (g.downs.take (k + 1)) ∧
        (g.run.run s).2 =
          s.afterTouches (g.downs.take (k + 1) ++ guardLifts (g.fingers.take k))) ∨
      Run.Along touched Takes s (g.downs ++ g.ups) ∧
        (g.run.run s).2 = s.afterTouches (g.downs ++ g.ups) ∨
      ∃ k < g.ups.length, Run.Along touched Takes s (g.downs ++ g.ups.take k) ∧
        ¬Run.Along touched Takes s (g.downs ++ g.ups.take (k + 1)) ∧
        (g.run.run s).2 =
          s.afterTouches (g.downs ++ g.ups.take (k + 1) ++ guardLifts g.fingers) := by
  cases g with
  | tapPointer id x y =>
    have pressed := touchAll_run ready [touchDown id (x, y)]
    have lifts : [touchUp id (0, 0)] = guardLifts [id] := rfl
    rw [Gesture.run, Playing.tapPointer_eq, lifts]
    refine script_run ready [touchUp id (x, y)] (fun k => guardLifts ([id].take k))
      (guardLifts [id]) ?_
    rcases pressed with whole | ⟨k, inside, rest⟩
    · exact .inl whole
    · obtain rfl : k = 0 := Nat.lt_one_iff.mp inside
      exact .inr ⟨0, inside, rest⟩
  | multiFingerTap points =>
    rw [Gesture.run, HidSession.multiFingerTap, ups, downs, fingers]
    split
    · rename_i valid
      have pressed := pressAll_run ready 0 points
      have lifts : (Method.forEach (List.range points.length) fun id =>
          injectTouch TouchAction.up id.toUInt64 0 0 0) =
          touchAll ((fingerIds 0 points.length).map fun id => touchUp id (0, 0)) := by
        rw [touchAll, fingerIds, List.map_map, Method.forEach_map, List.range_eq_range']
        rfl
      rw [lifts, releaseAll_eq, ← releases, releases_eq, length_fingerIds]
      refine script_run ready _ (fun k => guardLifts ((fingerIds 0 points.length).take k)) _ ?_
      rcases pressed with whole | ⟨k, inside, rest⟩
      · exact .inl whole
      · rw [Nat.zero_add, releases_eq] at rest
        refine .inr ⟨k, inside, ?_⟩
        rw [take_fingerIds (Nat.le_of_lt inside)]
        exact rest
    · exact .inr (.inl ⟨trivial, rfl⟩)
  | _ => contradiction

/- A finger that the gesture lifted and the guard lifts again. -/

theorem ids_touchUp (ids : List UInt64) (at' : Int32 × Int32) :
    (ids.map fun id => touchUp id at').map Touch.id = ids := by
  rw [List.map_map]
  exact List.map_id ids

theorem landed_ids (s : HidSession) (ts : List Touch) :
    ((s.landed ts).map Touch.id).Sublist (ts.map Touch.id) :=
  Run.select_sublist.map _

theorem mem_landed_ids {s : HidSession} {ts : List Touch} {ids : List UInt64}
    (same : ts.map Touch.id = ids) {id : UInt64} : id ∈ (s.landed ts).map Touch.id ↔
      ∃ i, ids[i]? = some id ∧ (s.afterTouches (ts.take i)).lands = true := by
  subst same
  constructor
  · intro member
    obtain ⟨t, selected, rfl⟩ := List.mem_map.mp member
    obtain ⟨i, at', lands⟩ := Run.mem_select.mp selected
    exact ⟨i, by simp [at'], lands⟩
  · rintro ⟨i, at', lands⟩
    rw [List.getElem?_map] at at'
    obtain ⟨t, here, rfl⟩ := Option.map_eq_some_iff.mp at'
    exact List.mem_map_of_mem (Run.mem_select.mpr ⟨i, here, lands⟩)

/-- A finger is lifted by the gesture and by the guard, and both lifts are under way. -/
theorem lifted_again_iff {ids : List UInt64} (distinct : ids.Nodup) {k : Nat} (inside : k < ids.length)
    (at' : Int32 × Int32) (s₁ s₂ : HidSession) :
    (∃ id ∈ (s₁.landed ((ids.map fun id => touchUp id at').take (k + 1))).map Touch.id,
        id ∈ (s₂.landed (guardLifts ids)).map Touch.id) ↔
      ∃ j ≤ k, (s₁.afterTouches ((ids.map fun id => touchUp id at').take j)).lands = true ∧
        (s₂.afterTouches ((guardLifts ids).take (ids.length - 1 - j))).lands = true := by
  have first : ((ids.map fun id => touchUp id at').take (k + 1)).map Touch.id = ids.take (k + 1) := by
    rw [List.map_take, ids_touchUp]
  have second : (guardLifts ids).map Touch.id = ids.reverse := ids_touchUp _ _
  have early {j : Nat} (few : j ≤ k) : ((ids.map fun id => touchUp id at').take (k + 1)).take j =
      (ids.map fun id => touchUp id at').take j := by
    rw [List.take_take, Nat.min_eq_left (by omega)]
  constructor
  · rintro ⟨id, lifted, again⟩
    obtain ⟨j, here, lands⟩ := (mem_landed_ids first).mp lifted
    obtain ⟨i, there, lands'⟩ := (mem_landed_ids second).mp again
    obtain ⟨few, -⟩ := List.getElem?_eq_some_iff.mp here
    obtain ⟨more, -⟩ := List.getElem?_eq_some_iff.mp there
    rw [List.length_take] at few
    rw [List.length_reverse] at more
    rw [List.getElem?_take_of_lt (by omega)] at here
    rw [List.getElem?_reverse more] at there
    have place : j = ids.length - 1 - i :=
      (List.getElem?_inj (by omega) distinct).mp (here.trans there.symm)
    refine ⟨j, by omega, ?_, ?_⟩
    · rwa [early (by omega)] at lands
    · have turn : ids.length - 1 - j = i := by omega
      rwa [turn]
  · rintro ⟨j, few, lands, lands'⟩
    have here : ids[j]? = some ids[j] := List.getElem?_eq_getElem (by omega)
    refine ⟨ids[j], (mem_landed_ids first).mpr ⟨j, ?_, ?_⟩,
      (mem_landed_ids second).mpr ⟨ids.length - 1 - j, ?_, lands'⟩⟩
    · rw [List.getElem?_take_of_lt (by omega), here]
    · rwa [early few]
    · rw [List.getElem?_reverse (by omega)]
      have turn : ids.length - 1 - (ids.length - 1 - j) = j := by omega
      rw [turn, here]

/-- A lift is refused behind lifts that went out, or is staged all the same, and the guard lifts one
of these fingers again. A direct session makes one write for each touch, so it is its plan that
decides; a buffered one stages every touch. -/
def LiftsAgain (g : Gesture) (s : HidSession) : Prop :=
  let n := g.fingers.length
  let t := s.transport.transport
  if s.transport.direct then
    ∃ k < n, t.Accepts (n + k) ∧ ¬t.Accepts (n + k + 1) ∧ ∃ j ≤ k,
      t.onWrite (t.writes + (n + j)) = .ok ∧
        t.onWrite (t.writes + (n + (k + 1) + (n - 1 - j))) = .ok
  else Run.Along touched Takes s g.downs ∧ ¬Run.Along touched Takes s (g.downs ++ g.ups)

theorem length_downs (g : Gesture) : g.downs.length = g.fingers.length := by
  rw [← downs_ids, List.length_map]

theorem length_ups (g : Gesture) : g.ups.length = g.fingers.length := List.length_map ..

theorem along_front {s : HidSession} {ts us : List Touch} (front : ts <+: us)
    (along : Run.Along touched Takes s us) : Run.Along touched Takes s ts := by
  obtain ⟨rest, rfl⟩ := front
  exact ((Run.along_append ..).mp along).1

theorem liftsAgain_iff (g : Gesture) {s : HidSession} (ready : s.transport.Ready) {k : Nat}
    (inside : k < g.fingers.length)
    (before : Run.Along touched Takes s (g.downs ++ g.ups.take k))
    (stop : ¬Run.Along touched Takes s (g.downs ++ g.ups.take (k + 1))) :
    g.LiftsAgain s ↔ ∃ j ≤ k,
      (s.afterTouches (g.downs ++ g.ups.take j)).lands = true ∧
        (s.afterTouches (g.downs ++ g.ups.take (k + 1) ++
          (guardLifts g.fingers).take (g.fingers.length - 1 - j))).lands = true := by
  have size (j : Nat) (few : j ≤ g.fingers.length) :
      (g.downs ++ g.ups.take j).length = g.fingers.length + j := by
    rw [List.length_append, length_downs, List.length_take, length_ups, Nat.min_eq_left few]
  cases mode : s.transport.direct with
  | false =>
    have all (ts : List Touch) := buffered_after ready mode ts
    have down : Run.Along touched Takes s g.downs := ((Run.along_append ..).mp before).1
    have refused : ¬Run.Along touched Takes s (g.downs ++ g.ups) := fun along =>
      stop (along_front ((List.prefix_append_right_inj _).mpr (List.take_prefix ..)) along)
    rw [LiftsAgain, mode, if_neg Bool.false_ne_true]
    exact iff_of_true ⟨down, refused⟩ ⟨0, Nat.zero_le k, all _, all _⟩
  | true =>
    rw [direct_along ready mode, size k (by omega)] at before
    rw [direct_along ready mode, size (k + 1) (by omega)] at stop
    have place (j : Nat) (few : j ≤ k) := direct_after ready mode (g.downs ++ g.ups.take j)
    have again (j : Nat) := direct_after ready mode (g.downs ++ g.ups.take (k + 1) ++
      (guardLifts g.fingers).take (g.fingers.length - 1 - j))
    have turns (j : Nat) : (g.downs ++ g.ups.take (k + 1) ++
        (guardLifts g.fingers).take (g.fingers.length - 1 - j)).length =
          g.fingers.length + (k + 1) + (g.fingers.length - 1 - j) := by
      rw [List.length_append, size (k + 1) (by omega), List.length_take, guardLifts, List.length_map,
        List.length_reverse]
      omega
    rw [LiftsAgain, mode, if_pos rfl]
    constructor
    · rintro ⟨k', inside', before', stop', j, few, first, second⟩
      obtain rfl : k' = k := by
        by_contra other
        rcases Nat.lt_or_gt_of_ne other with less | more
        · exact stop' (before.le (by omega))
        · exact stop (before'.le (by omega))
      refine ⟨j, few, (place j few).mpr ?_, (again j).mpr ?_⟩
      · rwa [size j (by omega)]
      · rwa [turns]
    · rintro ⟨j, few, first, second⟩
      rw [place j few, size j (by omega)] at first
      rw [again, turns] at second
      exact ⟨k, inside, before, stop, j, few, first, second⟩

/- What a gesture with a guard shows the device. -/

theorem pressing_of {ts : List Touch} (down : ∀ t ∈ ts, t.action = TouchAction.down) :
    ts.map Touch.event = pressing (ts.map Touch.id) := by
  rw [pressing, List.map_map]
  exact List.map_congr_left fun t ht => by rw [Touch.event, down t ht]; rfl

theorem lifting_of {ts : List Touch} (up : ∀ t ∈ ts, t.action = TouchAction.up) :
    ts.map Touch.event = lifting (ts.map Touch.id) := by
  rw [lifting, List.map_map]
  exact List.map_congr_left fun t ht => by rw [Touch.event, up t ht]; rfl

theorem touchUp_up (ids : List UInt64) (at' : Int32 × Int32) :
    ∀ t ∈ ids.map fun id => touchUp id at', t.action = TouchAction.up := by
  intro t ht
  obtain ⟨id, -, rfl⟩ := List.mem_map.mp ht
  rfl

theorem mem_of_landed {s : HidSession} {ts : List Touch} {t : Touch} (h : t ∈ s.landed ts) : t ∈ ts :=
  Run.select_sublist.subset h

section Shown
variable {g : Gesture} {s : HidSession} {k : Nat}

theorem shown_pressed (before : Run.Along touched Takes s (g.downs.take k)) :
    LiftedOnce ((s.landed (g.downs.take (k + 1) ++ guardLifts (g.fingers.take k))).map
      Touch.event) := by
  have down : ∀ t ∈ s.landed (g.downs.take (k + 1)), t.action = TouchAction.down := fun t ht =>
    g.downs_down t (List.mem_of_mem_take (mem_of_landed ht))
  have up (s' : HidSession) : ∀ t ∈ s'.landed (guardLifts (g.fingers.take k)),
      t.action = TouchAction.up := fun t ht => touchUp_up _ _ t (mem_of_landed ht)
  have lifts (s' : HidSession) : ((s'.landed (guardLifts (g.fingers.take k))).map Touch.id).Sublist
      (g.fingers.take k).reverse := by
    have sub := landed_ids s' (guardLifts (g.fingers.take k))
    rwa [guardLifts, ids_touchUp] at sub
  have fingers : (g.downs.take k).map Touch.id = g.fingers.take k := by
    rw [List.map_take, downs_ids]
  rw [landed_append, List.map_append, pressing_of down, lifting_of (up _)]
  refine (liftedOnce_iff fun id member => ?_).mpr ?_
  · have early := List.mem_reverse.mp ((lifts _).subset member)
    rw [List.take_add_one, landed_append, landed_of_along before, List.map_append, fingers]
    exact List.mem_append_left _ early
  · exact (lifts _).nodup (List.nodup_reverse.mpr (g.nodup_fingers.sublist (List.take_sublist ..)))

theorem shown_whole (along : Run.Along touched Takes s (g.downs ++ g.ups)) :
    LiftedOnce ((s.landed (g.downs ++ g.ups)).map Touch.event) := by
  have lifts : g.ups.map Touch.event = lifting g.fingers := by
    rw [ups, lifting_of (touchUp_up _ _), ids_touchUp]
  rw [landed_of_along along, List.map_append, pressing_of g.downs_down, downs_ids, lifts]
  exact (liftedOnce_iff fun _ member => member).mpr g.nodup_fingers

/-- Behind a lift that is refused the guard lifts every finger, also those whose lift is under way. -/
theorem shown_lifted (inside : k < g.fingers.length)
    (before : Run.Along touched Takes s (g.downs ++ g.ups.take k)) :
    LiftedOnce ((s.landed (g.downs ++ g.ups.take (k + 1) ++ guardLifts g.fingers)).map
      Touch.event) ↔
      ¬∃ j ≤ k, (s.afterTouches (g.downs ++ g.ups.take j)).lands = true ∧
        (s.afterTouches (g.downs ++ g.ups.take (k + 1) ++
          (guardLifts g.fingers).take (g.fingers.length - 1 - j))).lands = true := by
  have down := ((Run.along_append ..).mp before).1
  have up (s' : HidSession) : ∀ t ∈ s'.landed (g.ups.take (k + 1)), t.action = TouchAction.up :=
    fun t ht => touchUp_up _ _ t (List.mem_of_mem_take (mem_of_landed ht))
  have up' (s' : HidSession) : ∀ t ∈ s'.landed (guardLifts g.fingers), t.action = TouchAction.up :=
    fun t ht => touchUp_up _ _ t (mem_of_landed ht)
  have first (s' : HidSession) : ((s'.landed (g.ups.take (k + 1))).map Touch.id).Sublist g.fingers := by
    have sub := landed_ids s' (g.ups.take (k + 1))
    rw [List.map_take, ups, ids_touchUp] at sub
    exact sub.trans (List.take_sublist ..)
  have second (s' : HidSession) : ((s'.landed (guardLifts g.fingers)).map Touch.id).Sublist
      g.fingers.reverse := by
    have sub := landed_ids s' (guardLifts g.fingers)
    rwa [guardLifts, ids_touchUp] at sub
  have again := lifted_again_iff g.nodup_fingers inside g.liftAt (s.afterTouches g.downs)
    (s.afterTouches (g.downs ++ g.ups.take (k + 1)))
  simp only [← Run.after_append] at again
  rw [← ups] at again
  rw [landed_append, landed_append, landed_of_along down, List.map_append, List.map_append,
    pressing_of g.downs_down, downs_ids, lifting_of (up _), lifting_of (up' _), List.append_assoc,
    lifting, lifting, ← List.map_append, ← lifting, liftedOnce_iff, ← again, List.nodup_append]
  · constructor
    · rintro ⟨-, -, apart⟩ ⟨id, lifted, relifted⟩
      exact apart id lifted id relifted rfl
    · intro none
      refine ⟨(first _).nodup g.nodup_fingers,
        (second _).nodup (List.nodup_reverse.mpr g.nodup_fingers), ?_⟩
      rintro id lifted other relifted rfl
      exact none ⟨id, lifted, relifted⟩
  · intro id member
    rcases List.mem_append.mp member with lifted | relifted
    · exact (first _).subset lifted
    · exact List.mem_reverse.mp ((second _).subset relifted)

end Shown

theorem liftsAgain_of_refused (g : Gesture) {s : HidSession} (ready : s.transport.Ready)
    (again : g.LiftsAgain s) : Run.Along touched Takes s g.downs ∧
      ¬Run.Along touched Takes s (g.downs ++ g.ups) := by
  rw [LiftsAgain] at again
  split at again
  · rename_i mode
    obtain ⟨k, inside, before, stop, -⟩ := again
    rw [direct_along ready mode, direct_along ready mode, List.length_append, length_downs, length_ups]
    exact ⟨before.le (by omega), fun all => stop (all.le (by omega))⟩
  · exact again

end Gesture

/-- However the writes of a guarded gesture fail, each UP that it sends follows a DOWN of its finger
with no other UP between, unless a lift is refused and the guard lifts a finger again whose lift is
under way. -/
theorem guarded_lifts_once_iff (g : Gesture) (guarded : g.guarded = true) (s : HidSession)
    (ready : s.transport.Ready) :
    ∃ added, (g.run.run s).2.transport.outgoing = s.transport.outgoing ++ added ∧
      (LiftedOnce (readEvents added) ↔ ¬g.LiftsAgain s) := by
  have shown (ts : List Touch) (state : (g.run.run s).2 = s.afterTouches ts)
      (once : LiftedOnce ((s.landed ts).map Touch.event) ↔ ¬g.LiftsAgain s) :
      ∃ added, (g.run.run s).2.transport.outgoing = s.transport.outgoing ++ added ∧
        (LiftedOnce (readEvents added) ↔ ¬g.LiftsAgain s) := by
    obtain ⟨added, whole, reads⟩ := HidSession.outgoing_after ready ts
    have read := reads []
    rw [List.append_nil, readEvents_nil, List.append_nil] at read
    exact ⟨added, by rw [state]; exact whole, by rw [read]; exact once⟩
  rcases Gesture.guarded_run g guarded ready with
    ⟨k, inside, before, stop, state⟩ | ⟨along, state⟩ | ⟨k, inside, before, stop, state⟩
  · refine shown _ state (iff_of_true (Gesture.shown_pressed before) fun again => ?_)
    have down := (g.liftsAgain_of_refused ready again).1
    exact stop (Gesture.along_front (List.take_prefix ..) down)
  · refine shown _ state (iff_of_true (Gesture.shown_whole along) fun again => ?_)
    exact (g.liftsAgain_of_refused ready again).2 along
  · rw [g.length_ups] at inside
    refine shown _ state ?_
    rw [Gesture.shown_lifted inside before, g.liftsAgain_iff ready inside before stop]

/-- The lift of the tap is refused, so it is the guard that lifts the finger. -/
theorem guarded_lifts_once_tap :
    let s := HidSession.afterOpen (.refuses 1) id (OpenRequest.none.withCoalesce false)
    ∃ added, ((Gesture.tapPointer 7 10 20).run.run s).2.transport.outgoing =
        s.transport.outgoing ++ added ∧
      (LiftedOnce (readEvents added) ↔ ¬(Gesture.tapPointer 7 10 20).LiftsAgain s) :=
  guarded_lifts_once_iff (.tapPointer 7 10 20) rfl _
    ⟨fun _ => rfl, Transport.refuses_allOrNothing 1, fun buffered => absurd buffered (by decide)⟩

/-- The second finger's lift is refused, and the guard lifts the first one again. -/
theorem finger_lifted_twice :
    let s := HidSession.afterOpen (.refuses 3) id (OpenRequest.none.withCoalesce false)
    let tapped := ((HidSession.multiFingerTap [(100, 200), (300, 400)]).run s).2
    (HidSession.open (.refuses 3) id (OpenRequest.none.withCoalesce false)).1 = .ok () ∧
      s.transport.transport.wire = [] ∧
      ¬LiftedOnce (readEvents tapped.transport.transport.wire) := by
  intro s tapped
  refine ⟨rfl, rfl, fun once => ?_⟩
  have twice : readEvents tapped.transport.transport.wire =
      pressing [0, 1] ++ lifting [0, 1, 0] := by decide +kernel
  rw [twice, liftedOnce_iff (by simp)] at once
  exact absurd once (by simp)

end HidConnect
