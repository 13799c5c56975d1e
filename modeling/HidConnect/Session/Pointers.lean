import HidConnect.Session.Touch
import HidConnect.Session.Shadow
import HidConnect.Session.Retry
import HidConnect.Library.Rounds
import Mathlib.Data.List.FinRange

/-! The handles that a session gives out one after the other, and the rounds of each finger: down,
moves, and up or cancel. A handle that is dropped leaves its fingers down, and the next one does not
know of them. -/
namespace HidConnect
open Fallible

/- A finger's rounds. -/

def fingerRounds : RoundProtocol UInt8 where
  opens action := action == TouchAction.down
  uses action := action == TouchAction.move
  closes action := action == TouchAction.up || action == TouchAction.cancel
  apart action moves := by
    obtain rfl := eq_of_beq moves
    decide

/-- What the device was told of a finger. -/
def actionsOf (id : UInt64) (events : List DeviceEvent) : List UInt8 :=
  events.filterMap fun
    | .touch action q => if q = id then some action else none
    | _ => none

theorem actionsOf_append (id : UInt64) (xs ys : List DeviceEvent) :
    actionsOf id (xs ++ ys) = actionsOf id xs ++ actionsOf id ys := by
  simp [actionsOf]

theorem actionsOf_single (id : UInt64) (t : Touch) :
    actionsOf id [t.event] = if t.id = id then [t.action] else [] := by
  by_cases own : t.id = id <;> simp [actionsOf, Touch.event, own]

/-- Touches in turn, for every finger: from the fingers that are down to those that are down then. -/
def InTurn (ts : List Touch) (before after : UInt64 → Bool) : Prop :=
  ∀ id, fingerRounds.run (before id) (actionsOf id (ts.map Touch.event)) = some (after id)

namespace InTurn
variable {ts us : List Touch} {a b c : UInt64 → Bool}

theorem nil : InTurn [] a a := by
  intro id
  simp [actionsOf]

theorem append (first : InTurn ts a b) (second : InTurn us b c) : InTurn (ts ++ us) a c := by
  intro id
  rw [List.map_append, actionsOf_append, RoundProtocol.run_append, first id]
  exact second id

theorem single {t : Touch} (own : fingerRounds.step (a t.id) t.action = some (b t.id))
    (others : ∀ id, id ≠ t.id → b id = a id) : InTurn [t] a b := by
  intro id
  rw [List.map_cons, List.map_nil, actionsOf_single]
  by_cases here : t.id = id
  · subst here
    simp [own]
  · simp [here, others id (Ne.symm here)]

theorem moves (moving : ∀ t ∈ ts, t.action = TouchAction.move ∧ a t.id = true) : InTurn ts a a := by
  induction ts with
  | nil => exact nil
  | cons t rest ih =>
    obtain ⟨action, down⟩ := moving t (List.mem_cons_self ..)
    have later := ih fun u hu => moving u (List.mem_cons_of_mem _ hu)
    have now : InTurn [t] a a := by
      apply single
      · rw [down, action]
        rfl
      · simp
    exact now.append later

end InTurn

/- The handle's account of its fingers. -/

namespace MultitouchHandle
open HidSession

def own (active : Vector Bool 10) (id : UInt64) : Bool :=
  if inside : id.toNat < 10 then active[id.toNat] else false

/-- The fingers of a handle and those that earlier handles left down. -/
def fingers (active : Vector Bool 10) (left : UInt64 → Bool) (id : UInt64) : Bool :=
  own active id || left id

/-- No finger of the handle was left down by an earlier one. -/
def Apart (active : Vector Bool 10) (left : UInt64 → Bool) : Prop :=
  ∀ id, left id = true → own active id = false

theorem own_at {active : Vector Bool 10} {id : UInt64} (i : Fin 10) (same : id.toNat = i) :
    own active id = active.get i := by
  have inside : id.toNat < 10 := by omega
  have flag : active.get i = active[i] := rfl
  simp [own, same, flag]

theorem own_set {active : Vector Bool 10} {id : UInt64} (i : Fin 10) (same : id.toNat = i)
    (on : Bool) (other : UInt64) :
    own (active.set i on i.isLt) other = if other = id then on else own active other := by
  by_cases here : other = id
  · subst here
    have flag : (active.set i on).get i = (active.set i on)[i] := rfl
    rw [own_at i same, flag]
    simp
  · have away : i.val ≠ other.toNat := by
      intro eq
      exact here (UInt64.toNat_inj.mp (eq.symm.trans same.symm))
    by_cases inside : other.toNat < 10
    · simp [own, inside, away, here]
    · simp [own, inside, here]

/-- Where the touches go out, the method leaves the session as they do, and these fingers active. -/
def Sends {α : Type} (m : Multitouch α) (ts : List Touch) (before after : Vector Bool 10) : Prop :=
  ∀ s, ((touchAll ts).run s).1.isOk = true →
    (m.run ⟨s, before⟩).2 = ⟨((touchAll ts).run s).2, after⟩

theorem Plays.sends {m : Multitouch Unit} {ts : List Touch} {before after : Vector Bool 10}
    (h : Plays m ts before after) : Sends m ts before after := by
  intro s ok
  obtain ⟨active, run, same⟩ := h s
  rw [run, same ok]

/-- The method shows the device touches that are in turn, and takes no finger that was left down. -/
def Shows {α : Type} (m : Multitouch α) (active : Vector Bool 10) (left : UInt64 → Bool) : Prop :=
  ∃ ts after, Sends m ts active after ∧ InTurn ts (fingers active left) (fingers after left) ∧
    Apart after left

section Calls
variable {active : Vector Bool 10} {left : UInt64 → Bool}

theorem shows_refused {α : Type} {m : Multitouch α} (apart : Apart active left)
    (refused : ∀ s, ∃ e, m.run ⟨s, active⟩ = (.err e, ⟨s, active⟩)) : Shows m active left := by
  refine ⟨[], active, fun s _ => ?_, InTurn.nil, apart⟩
  obtain ⟨e, run⟩ := refused s
  rw [run]
  rfl

theorem shows_touch {m : Multitouch Unit} (apart : Apart active left) {t : Touch} (i : Fin 10)
    (same : t.id.toNat = i) {on : Bool} (plays : Plays m [t] active (active.set i on i.isLt))
    (free : left t.id = false) (turn : fingerRounds.step (active.get i) t.action = some on) :
    Shows m active left := by
  refine ⟨[t], active.set i on i.isLt, plays.sends, InTurn.single ?_ ?_, ?_⟩
  · rw [fingers, fingers, own_at i same, own_set i same, if_pos rfl, free, Bool.or_false,
      Bool.or_false]
    exact turn
  · intro id other
    rw [fingers, fingers, own_set i same, if_neg other]
  · intro id abandoned
    have other : id ≠ t.id := by
      rintro rfl
      rw [free] at abandoned
      contradiction
    rw [own_set i same, if_neg other]
    exact apart id abandoned

theorem checkId_refused {id : UInt64} (outside : ¬id.toNat < 10) (h : MultitouchHandle) :
    (checkId id).run h = (.err (.pointerIdOutOfRange id (maxPointers - 1)), h) := by
  rw [checkId, dif_neg outside]
  rfl

theorem free_of_active (apart : Apart active left) {id : UInt64} (i : Fin 10) (same : id.toNat = i)
    (down : active.get i = true) : left id = false := by
  cases abandoned : left id with
  | false => rfl
  | true =>
    have up := apart id abandoned
    rw [own_at i same, down] at up
    contradiction

theorem plays_set_active (t : Touch) (i : Fin 10) (on : Bool) :
    Plays (onSession t.inject >>= fun _ => setActive i on) [t] active (active.set i on i.isLt) :=
  plays_set t fun _ => rfl

theorem shows_down (apart : Apart active left) (id : UInt64) (x y : Int32) (pressure : Float32)
    (free : left id = false) : Shows (down id x y pressure) active left := by
  by_cases inside : id.toNat < 10
  · let i : Fin 10 := ⟨id.toNat, inside⟩
    cases already : active[i] with
    | true =>
      apply shows_refused apart
      intro s
      rw [down, Method.run_bind_ok (checkId_run i rfl _), Method.run_read_bind, already]
      exact ⟨_, rfl⟩
    | false =>
      have up : active.get i = false := already
      exact shows_touch apart i rfl (plays_down id i rfl x y pressure already) free
        (by rw [up]; rfl)
  · apply shows_refused apart
    intro s
    exact ⟨_, Method.run_bind_err (checkId_refused inside _)⟩

/-- A method of a finger that must be active. -/
def onActive (id : UInt64) (body : Fin 10 → Multitouch Unit) : Multitouch Unit := do
  let i ← checkId id
  if (← .read).active.get i then body i else .fail (.pointerNotActive id)

theorem moveTo_eq (id : UInt64) (x y : Int32) (pressure : Float32) : moveTo id x y pressure =
    onActive id fun _ => onSession (HidSession.injectTouch TouchAction.move id x y pressure) := rfl

theorem lift_eq (action : UInt8) (id : UInt64) : lift action id =
    onActive id fun i =>
      (onSession (HidSession.injectTouch action id 0 0 0) >>= fun _ => setActive i false) := rfl

theorem shows_onActive (apart : Apart active left) (id : UInt64) {body : Fin 10 → Multitouch Unit}
    (shown : ∀ i : Fin 10, id.toNat = i → active.get i = true → Shows (body i) active left) :
    Shows (onActive id body) active left := by
  by_cases inside : id.toNat < 10
  · let i : Fin 10 := ⟨id.toNat, inside⟩
    have checked (s : HidSession) : (onActive id body).run ⟨s, active⟩ =
        (if active.get i then body i else .fail (.pointerNotActive id)).run ⟨s, active⟩ := by
      rw [onActive, Method.run_bind_ok (checkId_run i rfl _), Method.run_read_bind]
    cases known : active.get i with
    | true =>
      obtain ⟨ts, after, sends, rest⟩ := shown i rfl known
      refine ⟨ts, after, fun s ok => ?_, rest⟩
      rw [checked, known]
      exact sends s ok
    | false =>
      apply shows_refused apart
      intro s
      rw [checked, known]
      exact ⟨_, rfl⟩
  · apply shows_refused apart
    intro s
    exact ⟨_, Method.run_bind_err (checkId_refused inside _)⟩

theorem fingers_of_active {id : UInt64} (i : Fin 10) (same : id.toNat = i) (down : active.get i = true) :
    fingers active left id = true := by
  rw [fingers, own_at i same, down, Bool.true_or]

theorem shows_moveTo (apart : Apart active left) (id : UInt64) (x y : Int32) (pressure : Float32) :
    Shows (moveTo id x y pressure) active left := by
  rw [moveTo_eq]
  apply shows_onActive apart id
  intro i same down
  let t : Touch := ⟨TouchAction.move, id, x, y, pressure⟩
  have moving : InTurn [t] (fingers active left) (fingers active left) := by
    apply InTurn.moves
    intro u hu
    obtain rfl := List.mem_singleton.mp hu
    exact ⟨rfl, fingers_of_active i same down⟩
  exact ⟨[t], active, (plays_inject t active).sends, moving, apart⟩

theorem shows_lift (apart : Apart active left) {action : UInt8} (lifts : fingerRounds.closes action = true)
    (id : UInt64) : Shows (lift action id) active left := by
  rw [lift_eq, ← Touch.inject_mk]
  apply shows_onActive apart id
  intro i same down
  have free := free_of_active apart i same down
  have turn : fingerRounds.step (active.get i) action = some false := by
    rw [down]
    exact RoundProtocol.step_closes lifts
  exact shows_touch apart i same (plays_set_active ⟨action, id, 0, 0, 0⟩ i false) free turn

theorem shows_pinch (apart : Apart active left) (p0 p1 : Path) (steps : UInt32) :
    Shows (pinch p0 p1 steps) active left := by
  by_cases inside0 : p0.id.toNat < 10
  · by_cases inside1 : p1.id.toNat < 10
    · let i : Fin 10 := ⟨p0.id.toNat, inside0⟩
      let j : Fin 10 := ⟨p1.id.toNat, inside1⟩
      cases known : active[i] && active[j] with
      | true =>
        obtain ⟨down0, down1⟩ := (Bool.and_eq_true _ _).mp known
        refine ⟨_, active, (plays_pinch p0 p1 i j rfl rfl steps down0 down1).sends, ?_, apart⟩
        apply InTurn.moves
        intro t ht
        obtain ⟨time, -, here⟩ := List.mem_flatMap.mp ht
        rcases List.mem_pair.mp here with rfl | rfl
        · exact ⟨rfl, fingers_of_active i rfl down0⟩
        · exact ⟨rfl, fingers_of_active j rfl down1⟩
      | false =>
        apply shows_refused apart
        intro s
        rw [pinch, Method.run_bind_ok (checkId_run i rfl _), Method.run_bind_ok (checkId_run j rfl _),
          Method.run_read_bind, known]
        exact ⟨_, rfl⟩
    · apply shows_refused apart
      intro s
      rw [pinch, Method.run_bind_ok (checkId_run ⟨p0.id.toNat, inside0⟩ rfl _)]
      exact ⟨_, Method.run_bind_err (checkId_refused inside1 _)⟩
  · apply shows_refused apart
    intro s
    exact ⟨_, Method.run_bind_err (checkId_refused inside0 _)⟩

/-- One finger of `release_all`. -/
def releaseOne (i : Fin 10) : Multitouch Unit := do
  if (← .read).active.get i then do
    onSession (HidSession.injectTouch TouchAction.up i.val.toUInt64 0 0 0)
    setActive i false
  else pure ()

theorem plays_releases (is : List (Fin 10)) {active : Vector Bool 10} (apart : Apart active left) :
    ∃ ts after, Plays (.forEach is releaseOne) ts active after ∧
      InTurn ts (fingers active left) (fingers after left) ∧ Apart after left := by
  induction is generalizing active with
  | nil => exact ⟨[], active, plays_nil active, InTurn.nil, apart⟩
  | cons i rest ih =>
    cases known : active.get i with
    | true =>
      have same : i.val.toUInt64.toNat = i := by
        simp
        omega
      have first : Plays (releaseOne i) [⟨TouchAction.up, i.val.toUInt64, 0, 0, 0⟩] active
          (active.set i false i.isLt) := by
        intro s
        rw [releaseOne, Method.run_read_bind, known, if_pos rfl, ← Touch.inject_mk]
        exact plays_set_active ⟨TouchAction.up, i.val.toUInt64, 0, 0, 0⟩ i false s
      have free := free_of_active apart i same known
      have apart' : Apart (active.set i false i.isLt) left := by
        intro id abandoned
        rw [own_set i same]
        split
        · rfl
        · exact apart id abandoned
      have turn : InTurn [⟨TouchAction.up, i.val.toUInt64, 0, 0, 0⟩] (fingers active left)
          (fingers (active.set i false i.isLt) left) := by
        apply InTurn.single
        · rw [fingers_of_active i same known, fingers, own_set i same, if_pos rfl, free]
          rfl
        · intro id other
          rw [fingers, fingers, own_set i same, if_neg other]
      obtain ⟨ts, after, plays, turns, apart''⟩ := ih apart'
      exact ⟨_, after, first.bind plays, turn.append turns, apart''⟩
    | false =>
      have first : Plays (releaseOne i) [] active active := by
        intro s
        rw [releaseOne, Method.run_read_bind, known]
        exact plays_nil active s
      obtain ⟨ts, after, plays, turns, apart'⟩ := ih apart
      exact ⟨_, after, first.bind plays, InTurn.nil.append turns, apart'⟩

theorem shows_releaseAll (apart : Apart active left) : Shows releaseAll active left := by
  obtain ⟨ts, after, plays, turns, apart'⟩ := plays_releases (List.finRange 10) apart
  exact ⟨ts, after, plays.sends, turns, apart'⟩

end Calls

end MultitouchHandle

/- The session under the handles. -/

namespace HidSession

/-- Over a transport that never fails, these messages are on their way to the device. -/
structure Feeding (stream : List ControlMessage) (s : HidSession) : Prop where
  carries : ∃ d sent held, CoalescingWriter.Carries d s.transport sent held ∧ sent ++ held = stream
  working : Working s

namespace Feeding
variable {stream : List ControlMessage} {s : HidSession}

theorem delivered (h : Feeding stream s) : s.delivered = stream.map eventOfMessage := by
  obtain ⟨d, sent, held, carries, rfl⟩ := h.carries
  exact delivered_of_carries carries h.working

theorem inject (h : Feeding stream s) (t : Touch) :
    ∃ msg, (t.inject.run s).1.isOk = true ∧ Feeding (stream ++ [msg]) (t.inject.run s).2 ∧
      eventOfMessage msg = t.event := by
  obtain ⟨d, sent, held, carries, rfl⟩ := h.carries
  rw [inject_push]
  generalize named : s.touchMsg t.action t.id t.x t.y t.pressure = msg
  have effect := (CoalescingWriter.emits_push d msg).discard s.transport sent held carries
  have ok := effect.total h.working fun m hm => by
    rw [List.mem_singleton.mp hm, ← named]
    exact touch_serializes _
  obtain ⟨landed, sent', held', carries', joined, -, whole⟩ := effect.stream
  obtain rfl := whole ok
  refine ⟨msg, ok, ⟨⟨d, sent', held', carries', joined⟩,
    working_of_plans h.working effect.onWrite effect.onFlush⟩, ?_⟩
  rw [← named]
  rfl

theorem touchAll (h : Feeding stream s) (ts : List Touch) :
    ∃ msgs, ((HidSession.touchAll ts).run s).1.isOk = true ∧
      Feeding (stream ++ msgs) ((HidSession.touchAll ts).run s).2 ∧
      msgs.map eventOfMessage = ts.map Touch.event := by
  induction ts generalizing stream s with
  | nil => exact ⟨[], rfl, by rw [List.append_nil]; exact h, rfl⟩
  | cons t rest ih =>
    obtain ⟨msg, ok, fed, event⟩ := h.inject t
    obtain ⟨u, ok⟩ := Outcome.isOk_iff.mp ok
    have run : t.inject.run s = (.ok u, (t.inject.run s).2) := Prod.ext ok rfl
    obtain ⟨msgs, ok', fed', events⟩ := ih fed
    have both : (HidSession.touchAll (t :: rest)).run s =
        (HidSession.touchAll rest).run (t.inject.run s).2 := Method.run_bind_ok run
    rw [both]
    refine ⟨msg :: msgs, ok', ?_, by simp [event, events]⟩
    rwa [List.append_cons]

theorem flushNow (h : Feeding stream s) : Feeding stream (HidSession.flushNow.run s).2 := by
  obtain ⟨d, sent, held, carries, rfl⟩ := h.carries
  obtain ⟨effect, flushed⟩ := CoalescingWriter.flushNow_effect carries
  have after := flushed (effect.total h.working (List.forall_mem_nil _))
  exact ⟨⟨d, _, [], after, List.append_nil _⟩,
    working_of_plans h.working effect.onWrite effect.onFlush⟩

end Feeding

end HidSession

/- Runs. -/

inductive HandleOp where
  /-- Drop the handle and take another one. -/
  | multitouch
  | down (id : UInt64) (x y : Int32) (pressure : Float32)
  | moveTo (id : UInt64) (x y : Int32) (pressure : Float32)
  | up (id : UInt64)
  | cancel (id : UInt64)
  | pinch (p0 p1 : MultitouchHandle.Path) (steps : UInt32)
  | releaseAll
  | flushNow

def HandleOp.call (h : MultitouchHandle) : HandleOp → MultitouchHandle
  | multitouch => .new h.session
  | down id x y pressure => ((MultitouchHandle.down id x y pressure).run h).2
  | moveTo id x y pressure => ((MultitouchHandle.moveTo id x y pressure).run h).2
  | up id => ((MultitouchHandle.up id).run h).2
  | cancel id => ((MultitouchHandle.cancel id).run h).2
  | pinch p0 p1 steps => ((MultitouchHandle.pinch p0 p1 steps).run h).2
  | releaseAll => (MultitouchHandle.releaseAll.run h).2
  | flushNow => (MultitouchHandle.flushNow.run h).2

/-- The present handle, and the fingers that were active in a handle when it was dropped. -/
structure Handles where
  handle : MultitouchHandle
  left : UInt64 → Bool

namespace Handles

def first (s : HidSession) : Handles := { handle := .new s, left := fun _ => false }

def step (x : Handles) (op : HandleOp) : Handles :=
  { handle := op.call x.handle
    left := match op with
      | .multitouch => fun id => x.handle.isActive id || x.left id
      | _ => x.left }

/-- No finger goes down that a dropped handle left down. -/
def Fine (x : Handles) : HandleOp → Prop
  | .down id _ _ _ => x.left id = false
  | _ => True

/-- Every finger has gone through rounds, as the device was told. -/
def Rounds (x : Handles) : Prop :=
  ∀ id, fingerRounds.Rounds (actionsOf id x.handle.session.delivered)

/-- The device's fingers are those of the handle and those that were left down, and no finger is
both. -/
structure Accounted (x : Handles) : Prop where
  told : ∃ stream, HidSession.Feeding stream x.handle.session ∧
    ∀ id, fingerRounds.run false (actionsOf id (stream.map eventOfMessage)) =
      some (MultitouchHandle.fingers x.handle.active x.left id)
  apart : MultitouchHandle.Apart x.handle.active x.left
  inside : ∀ id, x.left id = true → id.toNat < 10

namespace Accounted
variable {x : Handles}

theorem rounds (h : Accounted x) : x.Rounds := by
  obtain ⟨stream, feeding, told⟩ := h.told
  intro id
  rw [feeding.delivered, RoundProtocol.rounds_iff, told id]
  rfl

theorem shown {α : Type} {m : MultitouchHandle.Multitouch α} (h : Accounted x)
    (shows' : MultitouchHandle.Shows m x.handle.active x.left) :
    Accounted { handle := (m.run x.handle).2, left := x.left } := by
  obtain ⟨stream, feeding, told⟩ := h.told
  obtain ⟨ts, after, sends, turns, apart⟩ := shows'
  obtain ⟨msgs, ok, fed, events⟩ := feeding.touchAll ts
  have run : (m.run x.handle).2 = ⟨((HidSession.touchAll ts).run x.handle.session).2, after⟩ :=
    sends x.handle.session ok
  rw [run]
  refine ⟨⟨stream ++ msgs, fed, fun id => ?_⟩, apart, h.inside⟩
  rw [List.map_append, actionsOf_append, RoundProtocol.run_append, told id, events]
  exact turns id

theorem dropped (h : Accounted x) : Accounted (x.step .multitouch) := by
  obtain ⟨stream, feeding, told⟩ := h.told
  have none (id : UInt64) : MultitouchHandle.own (MultitouchHandle.new x.handle.session).active id =
      false := by
    simp [MultitouchHandle.own, MultitouchHandle.new]
  refine ⟨⟨stream, feeding, fun id => ?_⟩, fun id _ => none id, fun id left => ?_⟩
  · rw [told id]
    simp only [step, HandleOp.call, MultitouchHandle.fingers, none, Bool.false_or]
    rfl
  · cases known : x.handle.isActive id with
    | true =>
      by_contra outside
      simp [MultitouchHandle.isActive, outside] at known
    | false =>
      simp only [step, known, Bool.false_or] at left
      exact h.inside id left

theorem kept (h : Accounted x) {op : HandleOp} (fine : x.Fine op) : Accounted (x.step op) := by
  cases op with
  | multitouch => exact h.dropped
  | down id _ _ _ => exact h.shown (MultitouchHandle.shows_down h.apart id _ _ _ fine)
  | moveTo id _ _ _ => exact h.shown (MultitouchHandle.shows_moveTo h.apart id _ _ _)
  | up id => exact h.shown (MultitouchHandle.shows_lift h.apart rfl id)
  | cancel id => exact h.shown (MultitouchHandle.shows_lift h.apart rfl id)
  | pinch p0 p1 steps => exact h.shown (MultitouchHandle.shows_pinch h.apart p0 p1 steps)
  | releaseAll => exact h.shown (MultitouchHandle.shows_releaseAll h.apart)
  | flushNow =>
    obtain ⟨stream, feeding, told⟩ := h.told
    exact ⟨⟨stream, feeding.flushNow, told⟩, h.apart, h.inside⟩

/-- The handle does not know the finger, and the device is told a second time that it goes down. -/
theorem broken (h : Accounted x) {op : HandleOp} (unfine : ¬x.Fine op) : ¬(x.step op).Rounds := by
  cases op with
  | down id x' y' pressure =>
    have abandoned : x.left id = true := Bool.eq_true_of_not_eq_false unfine
    obtain ⟨stream, feeding, told⟩ := h.told
    let i : Fin 10 := ⟨id.toNat, h.inside id abandoned⟩
    have unknown : x.handle.active.get i = false := by
      rw [← MultitouchHandle.own_at i rfl]
      exact h.apart id abandoned
    obtain ⟨msgs, ok, fed, events⟩ := feeding.touchAll [⟨TouchAction.down, id, x', y', pressure⟩]
    have run := (MultitouchHandle.plays_down id i rfl x' y' pressure unknown).sends x.handle.session ok
    intro rounds
    have round := rounds id
    have session : (x.step (.down id x' y' pressure)).handle.session = _ :=
      congrArg MultitouchHandle.session run
    rw [session, fed.delivered, RoundProtocol.rounds_iff, List.map_append, actionsOf_append,
      RoundProtocol.run_append, told id, events, MultitouchHandle.fingers, abandoned, Bool.or_true,
      List.map_cons, List.map_nil, actionsOf_single, if_pos rfl] at round
    exact Bool.false_ne_true round
  | multitouch => exact absurd trivial unfine
  | moveTo => exact absurd trivial unfine
  | up => exact absurd trivial unfine
  | cancel => exact absurd trivial unfine
  | pinch => exact absurd trivial unfine
  | releaseAll => exact absurd trivial unfine
  | flushNow => exact absurd trivial unfine

end Accounted

end Handles

/-- Over a transport that never fails, the handles that a session gives out one after the other keep
every finger to its rounds exactly if none of them puts down a finger that an earlier one was dropped
with. -/
theorem handles_keep_rounds_iff (s : HidSession) (whole : HidSession.WholeMessages s)
    (working : HidSession.Working s)
    (up : ∀ id, fingerRounds.run false (actionsOf id s.delivered) = some false)
    (ops : List HandleOp) :
    (∀ n, (Run.after Handles.step (.first s) (ops.take n)).Rounds) ↔
      Run.Along Handles.step Handles.Fine (.first s) ops := by
  have initial : Handles.Accounted (.first s) := by
    obtain ⟨d, sent, held, carries⟩ := whole
    have feeding : HidSession.Feeding (sent ++ held) s := ⟨⟨d, sent, held, carries, rfl⟩, working⟩
    refine ⟨⟨_, feeding, fun id => ?_⟩, fun _ left => ?_, fun _ left => ?_⟩
    · rw [← feeding.delivered, up id]
      simp [Handles.first, MultitouchHandle.fingers, MultitouchHandle.own, MultitouchHandle.new]
    · exact absurd left Bool.false_ne_true
    · exact absurd left Bool.false_ne_true
  exact Run.always_iff Handles.Accounted Handles.Rounds (fun _ h => h.rounds)
    (fun _ _ h fine => h.kept fine) (fun _ _ h unfine => h.broken unfine) initial ops

theorem fingers_up_opened {t : Transport} (clock : Nat → Nat) (req : OpenRequest)
    (fresh : t.wire = []) (never : t.NeverFails) (id : UInt64) :
    fingerRounds.run false (actionsOf id (HidSession.afterOpen t clock req).delivered) =
      some false := by
  obtain ⟨-, working, d, w, state, carries⟩ := HidSession.opened_working clock req fresh never
  have carries' : CoalescingWriter.Carries d (HidSession.afterOpen t clock req).transport
      (req.requested.map Device.create) [] := by
    rw [state]
    exact carries
  have untouched (ds : List Device) : actionsOf id ((ds.map Device.create).map eventOfMessage) = [] := by
    induction ds with
    | nil => rfl
    | cons d rest ih => cases d <;> exact ih
  rw [HidSession.delivered_of_carries carries' working, List.append_nil, untouched]
  rfl

/-- A finger that was lifted is put down again by the next handle. -/
theorem handles_keep_rounds_opened :
    (∀ n, (Run.after Handles.step
        (.first (HidSession.afterOpen .steady id (OpenRequest.none.withCoalesce false)))
        ([HandleOp.down 3 10 20 1, .releaseAll, .multitouch, .down 3 10 20 1].take n)).Rounds) ↔
      Run.Along Handles.step Handles.Fine
        (.first (HidSession.afterOpen .steady id (OpenRequest.none.withCoalesce false)))
        [HandleOp.down 3 10 20 1, .releaseAll, .multitouch, .down 3 10 20 1] :=
  handles_keep_rounds_iff _
    (HidSession.wholeMessages_opened rfl Transport.steady_neverFails.allOrNothing
      Transport.steady_neverFails.2)
    (HidSession.opened_working id (OpenRequest.none.withCoalesce false) rfl
      Transport.steady_neverFails).2.1
    (fingers_up_opened id (OpenRequest.none.withCoalesce false) rfl Transport.steady_neverFails) _

/-- A handle is dropped with a finger down, and the next one puts the finger down again. -/
theorem dropped_handle_forgets :
    let (opened, s) := HidSession.open .steady id (OpenRequest.none.withCoalesce false)
    opened = .ok () ∧ ¬(Run.after Handles.step (.first s)
      [HandleOp.down 0 10 20 1, .multitouch, .down 0 10 20 1]).Rounds := by
  refine ⟨rfl, fun rounds => ?_⟩
  have round := rounds 0
  rw [RoundProtocol.rounds_iff] at round
  revert round
  decide +kernel

end HidConnect
