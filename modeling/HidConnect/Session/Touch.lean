import HidConnect.Session.Op

/-! What a gesture leaves on the screen when one of its writes fails: which fingers that went down
came up again. -/
namespace HidConnect
open Fallible

/- Fingers as the device sees them. -/

/-- The finger leaves the screen, by an UP or by a CANCEL. -/
def DeviceEvent.lifts (p : UInt64) : DeviceEvent → Bool
  | .touch action q => q == p && (action == TouchAction.up || action == TouchAction.cancel)
  | _ => false

/-- Every finger that goes down is lifted later. -/
def allLifted : List DeviceEvent → Bool
  | [] => true
  | .touch action p :: rest =>
    (action != TouchAction.down || rest.any (DeviceEvent.lifts p)) && allLifted rest
  | _ :: rest => allLifted rest

def pressing (ids : List UInt64) : List DeviceEvent := ids.map (.touch TouchAction.down)
def lifting (ids : List UInt64) : List DeviceEvent := ids.map (.touch TouchAction.up)

theorem not_allLifted {p : UInt64} {events : List DeviceEvent}
    (down : .touch TouchAction.down p ∈ events) (stays : ∀ e ∈ events, e.lifts p = false) :
    allLifted events = false := by
  induction events with
  | nil => contradiction
  | cons e rest ih =>
    have later : rest.any (DeviceEvent.lifts p) = false :=
      List.any_eq_false.mpr fun l hl => by simp [stays l (List.mem_cons_of_mem _ hl)]
    rcases List.mem_cons.mp down with rfl | down
    · simp [allLifted, later]
    · have tail := ih down fun l hl => stays l (List.mem_cons_of_mem _ hl)
      cases e <;> simp [allLifted, tail]

theorem allLifted_of_no_down {events : List DeviceEvent}
    (none : ∀ p, .touch TouchAction.down p ∉ events) : allLifted events = true := by
  induction events with
  | nil => rfl
  | cons e rest ih =>
    have tail := ih fun p hp => none p (List.mem_cons_of_mem _ hp)
    cases e with
    | touch action p =>
      have other : action ≠ TouchAction.down := by
        rintro rfl
        exact none p (List.mem_cons_self ..)
      simp [allLifted, tail, other]
    | _ => exact tail

theorem allLifted_of_lifted {events ups : List DeviceEvent}
    (none : ∀ p, .touch TouchAction.down p ∉ ups)
    (lifted : ∀ p, .touch TouchAction.down p ∈ events → ups.any (DeviceEvent.lifts p) = true) :
    allLifted (events ++ ups) = true := by
  induction events with
  | nil => exact allLifted_of_no_down none
  | cons e rest ih =>
    have tail := ih fun p hp => lifted p (List.mem_cons_of_mem _ hp)
    cases e with
    | touch action p =>
      by_cases down : action = TouchAction.down
      · subst down
        simp [allLifted, tail, lifted p (List.mem_cons_self ..)]
      · simp [allLifted, tail, down]
    | _ => exact tail

theorem no_down_lifting (ids : List UInt64) (p : UInt64) :
    .touch TouchAction.down p ∉ lifting ids := by
  simp [lifting, TouchAction.down, TouchAction.up]

theorem lifts_lifting {p : UInt64} {ids : List UInt64} :
    (lifting ids).any (DeviceEvent.lifts p) = true ↔ p ∈ ids := by
  simp [lifting, DeviceEvent.lifts]

theorem mem_pressing {p : UInt64} {ids : List UInt64} :
    .touch TouchAction.down p ∈ pressing ids ↔ p ∈ ids := by
  simp [pressing]

/-- Fingers go down, move about, and come up in the order they went down. -/
def strokeEvents (ids : List UInt64) (moves : List DeviceEvent) : List DeviceEvent :=
  pressing ids ++ moves ++ lifting ids

def Moving (moves : List DeviceEvent) : Prop := ∀ e ∈ moves, ∃ q, e = .touch TouchAction.move q

theorem length_strokeEvents (ids : List UInt64) (moves : List DeviceEvent) :
    (strokeEvents ids moves).length = 2 * ids.length + moves.length := by
  simp only [strokeEvents, pressing, lifting, List.length_append, List.length_map]
  omega

theorem unlifted_of_moving {ids : List UInt64} {moves : List DeviceEvent} (moving : Moving moves)
    (q : UInt64) : ∀ e ∈ pressing ids ++ moves, e.lifts q = false := by
  intro e he
  rcases List.mem_append.mp he with he | he
  · obtain ⟨r, _, rfl⟩ := List.mem_map.mp he
    simp [DeviceEvent.lifts, TouchAction.down, TouchAction.up, TouchAction.cancel]
  · obtain ⟨r, rfl⟩ := moving e he
    simp [DeviceEvent.lifts, TouchAction.move, TouchAction.up, TouchAction.cancel]

theorem stuck_first {p : UInt64} {ids : List UInt64} {moves : List DeviceEvent}
    (moving : Moving moves) {k : Nat} (begun : k ≠ 0) :
    allLifted ((pressing (p :: ids) ++ moves).take k) = false := by
  obtain ⟨j, rfl⟩ := Nat.exists_eq_succ_of_ne_zero begun
  refine not_allLifted (p := p) ?_ fun e he =>
    unlifted_of_moving moving p e (List.mem_of_mem_take he)
  simp [pressing]

theorem stuck_last {q : UInt64} {front : List UInt64} (distinct : q ∉ front)
    {moves : List DeviceEvent} (moving : Moving moves) {j : Nat} (short : j ≤ front.length) :
    allLifted (pressing (front ++ [q]) ++ moves ++ (lifting (front ++ [q])).take j) = false := by
  refine not_allLifted (p := q) (by simp [mem_pressing]) fun e he => ?_
  rcases List.mem_append.mp he with he | he
  · exact unlifted_of_moving moving q e he
  · rw [lifting, List.map_append, List.take_append_of_le_length (by simpa using short)] at he
    obtain ⟨r, hr, rfl⟩ := List.mem_map.mp (List.mem_of_mem_take he)
    have apart : r ≠ q := by
      rintro rfl
      exact distinct hr
    simp [DeviceEvent.lifts, apart]

/-- Cut anywhere inside, a stroke leaves a finger on the screen. -/
theorem allLifted_stroke {p : UInt64} {ids : List UInt64} (distinct : (p :: ids).Nodup)
    {moves : List DeviceEvent} (moving : Moving moves) (k : Nat) :
    allLifted ((strokeEvents (p :: ids) moves).take k) = true ↔
      k = 0 ∨ (strokeEvents (p :: ids) moves).length ≤ k := by
  have size : (pressing (p :: ids) ++ moves).length = (p :: ids).length + moves.length := by
    simp only [pressing, List.length_append, List.length_map]
  constructor
  · intro done
    by_contra inside
    obtain ⟨begun, few⟩ := not_or.mp inside
    rw [length_strokeEvents] at few
    by_cases early : k ≤ (pressing (p :: ids) ++ moves).length
    · rw [strokeEvents, List.take_append_of_le_length early, stuck_first moving begun] at done
      contradiction
    · obtain ⟨front, q, eq⟩ : ∃ front q, p :: ids = front ++ [q] :=
        ⟨_, _, (List.dropLast_append_getLast (List.cons_ne_nil p ids)).symm⟩
      have lengths : (p :: ids).length = front.length + 1 := by simp [eq]
      rw [strokeEvents, List.take_append, List.take_of_length_le (by omega), size, eq] at done
      rw [eq, List.nodup_append] at distinct
      have last : q ∉ front := fun hq => distinct.2.2 q hq q (List.mem_singleton_self q) rfl
      rw [stuck_last last moving (by rw [← eq]; omega)] at done
      contradiction
  · rintro (rfl | whole)
    · rfl
    · rw [List.take_of_length_le whole]
      refine allLifted_of_lifted (no_down_lifting _) fun q hq => ?_
      rw [lifts_lifting]
      rcases List.mem_append.mp hq with hq | hq
      · exact mem_pressing.mp hq
      · obtain ⟨r, eq⟩ := moving _ hq
        simp [TouchAction.down, TouchAction.move] at eq

/- A run of touch events over a transport that refuses one write. -/

structure Touch where
  action : UInt8
  id : UInt64
  x : Int32
  y : Int32
  pressure : Float32

namespace Touch

def inject (t : Touch) : Session Unit := HidSession.injectTouch t.action t.id t.x t.y t.pressure

def event (t : Touch) : DeviceEvent := .touch t.action t.id

end Touch

theorem touch_serializes (t : InjectTouchEvent) :
    (ControlMessage.injectTouchEvent t).Serializes := rfl

theorem Touch.inject_mk (action : UInt8) (id : UInt64) (x y : Int32) (pressure : Float32) :
    Touch.inject ⟨action, id, x, y, pressure⟩ =
      HidSession.injectTouch action id x y pressure := rfl

theorem HidSession.inject_push (t : Touch) (s : HidSession) :
    let pushed := (Method.discard
      (CoalescingWriter.push (s.touchMsg t.action t.id t.x t.y t.pressure))).run s.transport
    t.inject.run s = (pushed.1, { s with transport := pushed.2 }) := by
  rw [Touch.inject, injectTouch, Method.run_read_bind, send, onWriter, Method.run_zoom]

/-- Of the writes to come the one numbered `k` fails, and no other. -/
def Transport.FailsOnly (t : Transport) (k : Nat) : Prop :=
  ∀ i, t.onWrite (t.writes + i) = .ok ↔ i ≠ k

theorem Transport.refuses_failsOnly (k : Nat) : (refuses k).FailsOnly k := by
  intro i
  simp [refuses, fresh]

namespace HidSession

/-- A direct session that has made `n` writes and added these events to the wire. Write `cut` is
the one that fails. -/
structure Playing (wire : List UInt8) (cut n : Nat) (events : List DeviceEvent) (s : HidSession) :
    Prop where
  mode : s.transport.direct = true
  allOrNothing : s.transport.transport.AllOrNothing
  flushOk : s.transport.transport.FlushOk
  count : s.transport.transport.writes = n
  plan : ∀ i, n ≤ i → (s.transport.transport.onWrite i = .ok ↔ i ≠ cut)
  landed : ∃ added, s.transport.transport.wire = wire ++ added ∧
    ∀ rest, readEvents (added ++ rest) = events ++ readEvents rest

namespace Playing
variable {wire : List UInt8} {cut n : Nat} {events : List DeviceEvent} {s : HidSession}

theorem accepted (h : Playing wire cut n events s) (t : Touch) (fine : n ≠ cut) :
    ∃ s', t.inject.run s = (.ok (), s') ∧ Playing wire cut (n + 1) (events ++ [t.event]) s' := by
  let msg := s.touchMsg t.action t.id t.x t.y t.pressure
  have accepts : s.transport.transport.Accepts 1 :=
    Transport.accepts_one.mpr ⟨by rw [h.count, h.plan n (Nat.le_refl n)]; exact fine, h.flushOk _⟩
  have ok : msg.Serializes := touch_serializes _
  obtain ⟨w', run, mode, transport, _⟩ :=
    CoalescingWriter.push_direct_accepted ok (fun _ eq => nomatch eq) h.mode accepts
  obtain ⟨added, whole, reads⟩ := h.landed
  refine ⟨{ s with transport := w' }, ?_, mode.trans h.mode, ?_, ?_, ?_, ?_, ?_⟩
  · rw [inject_push, Method.run_discard, run]
    rfl
  · rw [transport]
    exact h.allOrNothing
  · rw [transport]
    exact h.flushOk
  · rw [transport, ← h.count]
    rfl
  · rw [transport]
    exact fun i hi => h.plan i (by omega)
  · refine ⟨added ++ msg.bytes, ?_, fun rest => ?_⟩
    · rw [transport, Transport.wrote, whole, List.append_assoc]
    · rw [List.append_assoc, reads, readEvents_message ok, List.append_assoc]
      rfl

theorem refused (h : Playing wire cut cut events s) (t : Touch) :
    ∃ e s', t.inject.run s = (.err e, s') ∧ Playing wire cut (cut + 1) events s' := by
  let msg := s.touchMsg t.action t.id t.x t.y t.pressure
  have refuses : ¬s.transport.transport.Accepts 1 := fun accepts => by
    have ok := (Transport.accepts_one.mp accepts).1
    rw [h.count] at ok
    exact (h.plan cut (Nat.le_refl cut)).mp ok rfl
  have ok : msg.Serializes := touch_serializes _
  obtain ⟨e, w', run, mode, _, onWrite, onFlush, exactly⟩ :=
    CoalescingWriter.push_direct_refused ok (fun _ eq => nomatch eq) h.mode refuses
  have same := exactly h.allOrNothing h.flushOk
  refine ⟨e, { s with transport := w' }, ?_, mode.trans h.mode, ?_, ?_, ?_, ?_, ?_⟩
  · rw [inject_push, Method.run_discard, run]
    rfl
  · rw [same]
    exact h.allOrNothing
  · rw [same]
    exact h.flushOk
  · rw [same, ← h.count]
  · rw [same]
    exact fun i hi => h.plan i (by omega)
  · rw [same]
    exact h.landed

end Playing

def touchAll (ts : List Touch) : Session Unit := .forEach ts Touch.inject

def touchAllQuietly (ts : List Touch) : Session Unit := .forEach ts fun t => .ignore t.inject

namespace Playing
variable {wire : List UInt8} {cut n : Nat} {events : List DeviceEvent} {s : HidSession}

theorem whole (h : Playing wire cut n events s) (ts : List Touch)
    (outside : cut < n ∨ n + ts.length ≤ cut) :
    ∃ s', (touchAll ts).run s = (.ok (), s') ∧
      Playing wire cut (n + ts.length) (events ++ ts.map Touch.event) s' := by
  induction ts generalizing n events s with
  | nil => exact ⟨s, rfl, by simpa using h⟩
  | cons t rest ih =>
    simp only [List.length_cons] at outside
    obtain ⟨s₁, run₁, h₁⟩ := h.accepted t (by omega)
    obtain ⟨s', run', h'⟩ := ih h₁ (by omega)
    refine ⟨s', (Method.run_bind_ok run₁).trans run', ?_⟩
    rw [List.append_assoc, Nat.add_right_comm] at h'
    exact h'

theorem stopped (h : Playing wire cut n events s) (ts : List Touch) {k : Nat}
    (inside : k < ts.length) (at' : n + k = cut) :
    ∃ e s', (touchAll ts).run s = (.err e, s') ∧
      Playing wire cut (cut + 1) (events ++ (ts.take k).map Touch.event) s' := by
  induction ts generalizing n events s k with
  | nil => exact (Nat.not_lt_zero k inside).elim
  | cons t rest ih =>
    cases k with
    | zero =>
      obtain rfl : n = cut := at'
      obtain ⟨e, s', run, h'⟩ := h.refused t
      exact ⟨e, s', Method.run_bind_err run, by simpa using h'⟩
    | succ k =>
      obtain ⟨s₁, run₁, h₁⟩ := h.accepted t (by omega)
      obtain ⟨e, s', run', h'⟩ := ih h₁ (by simpa using inside) (by omega)
      refine ⟨e, s', (Method.run_bind_ok run₁).trans run', ?_⟩
      rw [List.append_assoc] at h'
      exact h'

theorem quietly (h : Playing wire cut n events s) (behind : cut < n) (ts : List Touch) :
    ∃ s', (touchAllQuietly ts).run s = (.ok (), s') ∧
      Playing wire cut (n + ts.length) (events ++ ts.map Touch.event) s' := by
  induction ts generalizing n events s with
  | nil => exact ⟨s, rfl, by simpa using h⟩
  | cons t rest ih =>
    obtain ⟨s₁, run₁, h₁⟩ := h.accepted t (by omega)
    obtain ⟨s', run', h'⟩ := ih h₁ (by omega)
    have ignored : (Method.ignore t.inject).run s = (.ok (), s₁) := by simp [Method.ignore, run₁]
    refine ⟨s', (Method.run_bind_ok ignored).trans run', ?_⟩
    rw [List.append_assoc, Nat.add_right_comm] at h'
    exact h'

/-- A run of touches is cut at the write that fails, and nothing follows. -/
theorem play (h : Playing wire cut n events s) (ahead : n ≤ cut) (ts : List Touch) :
    ∃ m, Playing wire cut m (events ++ (ts.take (cut - n)).map Touch.event)
      ((touchAll ts).run s).2 := by
  by_cases inside : cut - n < ts.length
  · obtain ⟨e, s', run, h'⟩ := h.stopped ts inside (by omega)
    rw [run]
    exact ⟨cut + 1, h'⟩
  · obtain ⟨s', run, h'⟩ := h.whole ts (by omega)
    rw [run, List.take_of_length_le (by omega)]
    exact ⟨n + ts.length, h'⟩

end Playing

/- The touches of a gesture that nothing disturbs. -/

def touchDown (id : UInt64) (at' : Int32 × Int32) : Touch := ⟨TouchAction.down, id, at'.1, at'.2, 1⟩
def touchMove (id : UInt64) (at' : Int32 × Int32) : Touch := ⟨TouchAction.move, id, at'.1, at'.2, 1⟩
def touchUp (id : UInt64) (at' : Int32 × Int32) : Touch := ⟨TouchAction.up, id, at'.1, at'.2, 0⟩

theorem inject_touchDown (id : UInt64) (at' : Int32 × Int32) :
    (touchDown id at').inject = injectTouch TouchAction.down id at'.1 at'.2 1 := rfl

theorem inject_touchMove (id : UInt64) (at' : Int32 × Int32) :
    (touchMove id at').inject = injectTouch TouchAction.move id at'.1 at'.2 1 := rfl

theorem inject_touchUp (id : UInt64) (at' : Int32 × Int32) :
    (touchUp id at').inject = injectTouch TouchAction.up id at'.1 at'.2 0 := rfl

def between (origin target : Int32 × Int32) (t : Float32) : Int32 × Int32 :=
  (interpolate origin.1 target.1 t, interpolate origin.2 target.2 t)

def swipeTouches (id : UInt64) (origin target : Int32 × Int32) (steps : UInt32) : List Touch :=
  touchDown id origin ::
    ((sampleTimes (atLeastTwo steps) 1 (atLeastTwo steps).toNat).map
      (fun t => touchMove id (between origin target t)) ++
    [touchMove id target, touchUp id target])

def screenshotTouches (s : HidSession) : List Touch :=
  let w := s.screenW.toUInt32.toInt32
  let h := s.screenH.toUInt32.toInt32
  let column (id : UInt64) : Int32 := w / 4 * (id.toUInt32.toInt32 + 1)
  threeFingers.map (fun id => touchDown id (column id, h / 4)) ++
    ((List.range' 1 10).flatMap fun step => threeFingers.map fun id =>
      touchMove id (column id, h / 4 + h / 2 * step.toUInt32.toInt32 / 10)) ++
    threeFingers.map fun id => touchUp id (column id, h * 3 / 4)

theorem length_sampleTimes (steps : UInt32) (first last : Nat) :
    (sampleTimes steps first last).length = last - first := by
  simp [sampleTimes]

theorem touchAll_append (xs ys : List Touch) :
    touchAll (xs ++ ys) = (touchAll xs >>= fun _ => touchAll ys) :=
  Method.forEach_append xs ys _

theorem swipePointer_eq (id : UInt64) (origin target : Int32 × Int32) (steps : UInt32) :
    swipePointer id origin target steps = touchAll (swipeTouches id origin target steps) := by
  rw [swipeTouches, touchAll, Method.forEach_cons, Method.forEach_append, Method.forEach_map]
  simp only [Method.forEach_cons, Method.forEach_nil, Method.bind_pure_unit, inject_touchDown,
    inject_touchMove, inject_touchUp]
  rfl

theorem forEach_flatMap {α : Type} (xs : List α) (f : α → List Touch) :
    (Method.forEach xs fun a => touchAll (f a)) = touchAll (xs.flatMap f) := by
  induction xs with
  | nil => rfl
  | cons x rest ih => rw [Method.forEach_cons, ih, List.flatMap_cons, touchAll_append]

theorem threeFingerScreenshot_run (s : HidSession) :
    threeFingerScreenshot.run s = (touchAll (screenshotTouches s)).run s := by
  rw [threeFingerScreenshot, Method.run_read_bind, screenshotTouches, touchAll_append,
    touchAll_append, Method.bind_assoc, ← forEach_flatMap]
  simp only [touchAll, Method.forEach_map, Touch.inject, touchDown, touchMove, touchUp]

end HidSession

/- The ten-finger handle plays its touches and keeps account of the fingers. -/

namespace MultitouchHandle
open HidSession

/-- With the fingers `before` active the method is this run of touches, after which the fingers
`after` are. -/
def Plays (m : Multitouch Unit) (ts : List Touch) (before after : Vector Bool 10) : Prop :=
  ∀ s, ∃ active, m.run ⟨s, before⟩ =
      (((touchAll ts).run s).1, ⟨((touchAll ts).run s).2, active⟩) ∧
    (((touchAll ts).run s).1.isOk = true → active = after)

theorem Plays.bind {m m' : Multitouch Unit} {ts ts' : List Touch} {a b c : Vector Bool 10}
    (first : Plays m ts a b) (second : Plays m' ts' b c) :
    Plays (m >>= fun _ => m') (ts ++ ts') a c := by
  intro s
  obtain ⟨active, run, same⟩ := first s
  rw [touchAll_append, Method.run_bind, Method.run_bind, run]
  rcases hr : (touchAll ts).run s with ⟨r, t⟩
  cases r with
  | ok u =>
    obtain rfl := same (by rw [hr]; rfl)
    exact second t
  | err e => exact ⟨active, rfl, fun h => nomatch h⟩
  | panic => exact ⟨active, rfl, fun h => nomatch h⟩

theorem plays_nil (a : Vector Bool 10) : Plays (pure ()) [] a a := fun _ => ⟨a, rfl, fun _ => rfl⟩

theorem plays_forEach {α : Type} {f : α → Multitouch Unit} {ts : α → List Touch}
    {a : Vector Bool 10} (xs : List α) (each : ∀ x, Plays (f x) (ts x) a a) :
    Plays (.forEach xs f) (xs.flatMap ts) a a := by
  induction xs with
  | nil => exact plays_nil a
  | cons x rest ih => exact (each x).bind ih

theorem touchAll_single (t : Touch) : touchAll [t] = t.inject := by
  rw [touchAll, Method.forEach_cons, Method.forEach_nil, Method.bind_pure_unit]

theorem plays_inject (t : Touch) (a : Vector Bool 10) : Plays (onSession t.inject) [t] a a := by
  intro s
  rw [touchAll_single, onSession, Method.run_zoom]
  dsimp only
  exact ⟨a, rfl, fun _ => rfl⟩

theorem checkId_run {id : UInt64} (i : Fin 10) (same : id.toNat = i) (h : MultitouchHandle) :
    (checkId id).run h = (.ok i, h) := by
  have inside : id.toNat < 10 := by omega
  rw [checkId, dif_pos inside]
  simp [same]

theorem plays_set (t : Touch) {m : Multitouch Unit} {a b : Vector Bool 10}
    (sets : ∀ s, m.run ⟨s, a⟩ = (.ok (), ⟨s, b⟩)) :
    Plays (onSession t.inject >>= fun _ => m) [t] a b := by
  intro s
  rw [touchAll_single, Method.run_bind, onSession, Method.run_zoom]
  rcases t.inject.run s with ⟨r, u⟩
  cases r with
  | ok v => exact ⟨b, sets u, fun _ => rfl⟩
  | err e => exact ⟨a, rfl, fun h => nomatch h⟩
  | panic => exact ⟨a, rfl, fun h => nomatch h⟩

theorem plays_down (id : UInt64) (i : Fin 10) (same : id.toNat = i) (x y : Int32)
    (pressure : Float32) {a : Vector Bool 10} (inactive : a[i] = false) :
    Plays (down id x y pressure) [⟨TouchAction.down, id, x, y, pressure⟩] a (a.set i true) := by
  intro s
  rw [down, Method.run_bind_ok (checkId_run i same _), Method.run_read_bind, inactive,
    if_neg Bool.false_ne_true, ← Touch.inject_mk]
  exact plays_set ⟨TouchAction.down, id, x, y, pressure⟩ (fun _ => rfl) s

theorem plays_up (id : UInt64) (i : Fin 10) (same : id.toNat = i) {a : Vector Bool 10}
    (active : a[i] = true) : Plays (up id) [touchUp id (0, 0)] a (a.set i false) := by
  intro s
  rw [up, lift, Method.run_bind_ok (checkId_run i same _), Method.run_read_bind, active, if_pos rfl,
    ← inject_touchUp id (0, 0)]
  exact plays_set (touchUp id (0, 0)) (fun _ => rfl) s

def pathTouches (p0 p1 : Path) (t : Float32) : List Touch :=
  [touchMove p0.id (between p0.origin p0.target t), touchMove p1.id (between p1.origin p1.target t)]

theorem plays_movePath (p : Path) (t : Float32) (a : Vector Bool 10) :
    Plays (movePath p t) [touchMove p.id (between p.origin p.target t)] a a := by
  have moved := plays_inject (touchMove p.id (between p.origin p.target t)) a
  rwa [inject_touchMove] at moved

theorem plays_pinch (p0 p1 : Path) (i j : Fin 10) (same0 : p0.id.toNat = i)
    (same1 : p1.id.toNat = j) (steps : UInt32) {a : Vector Bool 10} (active0 : a[i] = true)
    (active1 : a[j] = true) :
    Plays (pinch p0 p1 steps) ((sampleTimes (atLeastTwo steps) 1
      ((atLeastTwo steps).toNat + 1)).flatMap (pathTouches p0 p1)) a a := by
  intro s
  rw [pinch, Method.run_bind_ok (checkId_run i same0 _), Method.run_bind_ok (checkId_run j same1 _),
    Method.run_read_bind, active0, active1, Bool.and_true, if_pos rfl]
  exact plays_forEach _ (fun t => (plays_movePath p0 t a).bind (plays_movePath p1 t a)) s

end MultitouchHandle

namespace HidSession

def pinchTouches (cx cy startRadius endRadius : Int32) (steps : UInt32) : List Touch :=
  touchDown 0 (cx - startRadius, cy) :: touchDown 1 (cx + startRadius, cy) ::
    ((sampleTimes (atLeastTwo steps) 1 ((atLeastTwo steps).toNat + 1)).flatMap
      (MultitouchHandle.pathTouches
        { id := 0, origin := (cx - startRadius, cy), target := (cx - endRadius, cy) }
        { id := 1, origin := (cx + startRadius, cy), target := (cx + endRadius, cy) }) ++
    [touchUp 0 (0, 0), touchUp 1 (0, 0)])

theorem pinch_run (cx cy startRadius endRadius : Int32) (steps : UInt32) (s : HidSession) :
    (pinch cx cy startRadius endRadius steps).run s =
      (touchAll (pinchTouches cx cy startRadius endRadius steps)).run s := by
  open MultitouchHandle in
  have plays : Plays _ (pinchTouches cx cy startRadius endRadius steps) _ _ :=
    (plays_down 0 0 rfl (cx - startRadius) cy 1 (a := Vector.replicate 10 false) rfl).bind
    ((plays_down 1 1 rfl (cx + startRadius) cy 1 rfl).bind
      ((plays_pinch
          { id := 0, origin := (cx - startRadius, cy), target := (cx - endRadius, cy) }
          { id := 1, origin := (cx + startRadius, cy), target := (cx + endRadius, cy) }
          0 1 rfl rfl steps rfl rfl).bind
        ((plays_up 0 0 rfl rfl).bind (plays_up 1 1 rfl rfl))))
  obtain ⟨active, run, _⟩ := plays s
  rw [pinch, multitouch, Method.run_zoom, run]

/- The two gestures that clean up after a failure. -/

def fingerIds (first count : Nat) : List UInt64 := (List.range' first count).map Nat.toUInt64

theorem releasePressed_eq (pressed : List UInt64) :
    releasePressed pressed =
      touchAllQuietly (pressed.reverse.map fun id => touchUp id (0, 0)) := by
  rw [touchAllQuietly, Method.forEach_map]
  rfl

theorem releaseAll_eq (n : Nat) :
    releaseAll n =
      touchAllQuietly ((List.range n).reverse.map fun id => touchUp id.toUInt64 (0, 0)) := by
  rw [touchAllQuietly, Method.forEach_map]
  rfl

theorem events_touchUp {α : Type} (xs : List α) (id : α → UInt64) (at' : Int32 × Int32) :
    (xs.map fun x => touchUp (id x) at').map Touch.event = lifting (xs.map id) := by
  simp only [lifting, List.map_map]
  rfl

namespace Playing
variable {wire : List UInt8} {cut n : Nat} {events : List DeviceEvent} {s : HidSession}

theorem rollback (h : Playing wire cut n events s) (ahead : n ≤ cut) (ts cleanup : List Touch) :
    (cut - n < ts.length → ∃ e s' m,
      (Method.rollback (touchAll ts) (touchAllQuietly cleanup)).run s = (.err e, s') ∧
      Playing wire cut m
        (events ++ ((ts.take (cut - n)).map Touch.event ++ cleanup.map Touch.event)) s') ∧
    (ts.length ≤ cut - n → ∃ s',
      (Method.rollback (touchAll ts) (touchAllQuietly cleanup)).run s = (.ok (), s') ∧
      Playing wire cut (n + ts.length) (events ++ ts.map Touch.event) s') := by
  constructor
  · intro inside
    obtain ⟨e, s₁, run, h₁⟩ := h.stopped ts inside (by omega)
    obtain ⟨s', run', h'⟩ := h₁.quietly (Nat.lt_succ_self cut) cleanup
    rw [List.append_assoc] at h'
    exact ⟨e, s', _, by simp only [Method.rollback, run, run'], h'⟩
  · intro outside
    obtain ⟨s', run, h'⟩ := h.whole ts (by omega)
    exact ⟨s', by simp only [Method.rollback, run], h'⟩

theorem tapPointer_eq (id : UInt64) (x y : Int32) :
    HidSession.tapPointer id x y = (touchAll [touchDown id (x, y)] >>= fun _ =>
      Method.rollback (touchAll [touchUp id (x, y)]) (touchAllQuietly [touchUp id (0, 0)])) := by
  rw [HidSession.tapPointer, releasePressed_eq, MultitouchHandle.touchAll_single,
    MultitouchHandle.touchAll_single, inject_touchDown, inject_touchUp, List.reverse_singleton,
    List.map_singleton]

theorem tapPointer (h : Playing wire cut n events s) (ahead : n ≤ cut) (id : UInt64) (x y : Int32) :
    ∃ m added, Playing wire cut m (events ++ added) ((HidSession.tapPointer id x y).run s).2 ∧
      allLifted added = true := by
  rw [tapPointer_eq]
  have lifted : allLifted [.touch TouchAction.down id, .touch TouchAction.up id] = true := by
    simp [allLifted, DeviceEvent.lifts, TouchAction.down, TouchAction.up]
  by_cases first : cut - n < 1
  · obtain ⟨e, s', run, h'⟩ := h.stopped [touchDown id (x, y)] (k := 0) Nat.one_pos (by omega)
    rw [Method.run_bind_err run]
    exact ⟨_, [], h', rfl⟩
  · obtain ⟨s₁, run₁, h₁⟩ := h.whole [touchDown id (x, y)] (.inr (by simp; omega))
    rw [Method.run_bind_ok run₁]
    obtain ⟨cutInside, cutOutside⟩ := h₁.rollback (by simp; omega) [touchUp id (x, y)]
      [touchUp id (0, 0)]
    by_cases second : cut - (n + 1) < 1
    · obtain ⟨e, s', m, run', h'⟩ := cutInside second
      have none : cut - (n + 1) = 0 := by omega
      rw [run']
      simp only [List.length_singleton, none, List.take_zero, List.append_assoc] at h'
      exact ⟨m, _, h', lifted⟩
    · obtain ⟨s', run', h'⟩ := cutOutside (by simp; omega)
      rw [run']
      rw [List.append_assoc] at h'
      exact ⟨_, _, h', lifted⟩

theorem pressAll_cons (id : Nat) (point : Int32 × Int32) (rest : List (Int32 × Int32)) :
    HidSession.pressAll id (point :: rest) =
      (Method.rollback (touchAll [touchDown id.toUInt64 point])
        (touchAllQuietly ((List.range id).reverse.map fun i => touchUp i.toUInt64 (0, 0))) >>=
        fun _ => HidSession.pressAll (id + 1) rest) := by
  rw [MultitouchHandle.touchAll_single, ← releaseAll_eq, inject_touchDown]
  rfl

/-- The fingers go down in order; a refused one brings those before it up again. -/
theorem pressAll (h : Playing wire cut n events s) (ahead : n ≤ cut) (id : Nat)
    (points : List (Int32 × Int32)) :
    (cut - n < points.length → ∃ e s' m, (HidSession.pressAll id points).run s = (.err e, s') ∧
      Playing wire cut m (events ++ (pressing (fingerIds id (cut - n)) ++
        lifting ((List.range (id + (cut - n))).reverse.map Nat.toUInt64))) s') ∧
    (points.length ≤ cut - n → ∃ s', (HidSession.pressAll id points).run s = (.ok (), s') ∧
      Playing wire cut (n + points.length)
        (events ++ pressing (fingerIds id points.length)) s') := by
  induction points generalizing n events s id with
  | nil =>
    refine ⟨fun inside => (Nat.not_lt_zero _ inside).elim, fun _ => ⟨s, rfl, ?_⟩⟩
    simpa [pressing, fingerIds] using h
  | cons point rest ih =>
    rw [pressAll_cons]
    obtain ⟨cutInside, cutOutside⟩ := h.rollback ahead [touchDown id.toUInt64 point]
      ((List.range id).reverse.map fun i => touchUp i.toUInt64 (0, 0))
    rw [events_touchUp] at cutInside
    by_cases now : cut - n < 1
    · have none : cut - n = 0 := by omega
      obtain ⟨e, s', m, run, h'⟩ := cutInside now
      simp only [none, List.take_zero] at h' ⊢
      exact ⟨fun _ => ⟨e, s', m, Method.run_bind_err run, h'⟩, fun outside => by simp at outside⟩
    · obtain ⟨s₁, run₁, h₁⟩ := cutOutside (by simp; omega)
      obtain ⟨stopped, went⟩ := ih h₁ (by simp; omega) (id + 1)
      simp only [List.length_singleton, List.append_assoc] at stopped went
      have before : cut - n = cut - (n + 1) + 1 := by omega
      constructor
      · intro inside
        rw [List.length_cons] at inside
        obtain ⟨e, s', m, run', h'⟩ := stopped (by omega)
        refine ⟨e, s', m, (Method.run_bind_ok run₁).trans run', ?_⟩
        rw [before, ← Nat.add_assoc, Nat.add_right_comm]
        exact h'
      · intro outside
        rw [List.length_cons] at outside
        obtain ⟨s', run', h'⟩ := went (by omega)
        refine ⟨s', (Method.run_bind_ok run₁).trans run', ?_⟩
        rw [Nat.add_right_comm] at h'
        exact h'

theorem multiFingerTap (h : Playing wire cut n events s) (ahead : n ≤ cut)
    (points : List (Int32 × Int32)) :
    ∃ m added, Playing wire cut m (events ++ added)
      ((HidSession.multiFingerTap points).run s).2 ∧ allLifted added = true := by
  rw [HidSession.multiFingerTap]
  split
  · obtain ⟨stopped, went⟩ := h.pressAll ahead 0 points
    have size (k : Nat) (q : UInt64) (hq : q ∈ fingerIds 0 k) :
        q ∈ (List.range k).reverse.map Nat.toUInt64 := by
      simpa [fingerIds, List.range_eq_range'] using hq
    by_cases inside : cut - n < points.length
    · obtain ⟨e, s', m, run, h'⟩ := stopped inside
      rw [Method.run_bind_err run]
      refine ⟨m, _, h', allLifted_of_lifted (no_down_lifting _) fun q hq => ?_⟩
      rw [Nat.zero_add, lifts_lifting]
      exact size _ q (mem_pressing.mp hq)
    · obtain ⟨s₁, run₁, h₁⟩ := went (by omega)
      have ups : (Method.forEach (List.range points.length) fun id =>
          injectTouch TouchAction.up id.toUInt64 0 0 0) =
          touchAll ((List.range points.length).map fun id => touchUp id.toUInt64 (0, 0)) := by
        rw [touchAll, Method.forEach_map]
        rfl
      rw [Method.run_bind_ok run₁, ups, releaseAll_eq]
      obtain ⟨cutInside, cutOutside⟩ := h₁.rollback (by omega)
        ((List.range points.length).map fun id => touchUp id.toUInt64 (0, 0))
        ((List.range points.length).reverse.map fun id => touchUp id.toUInt64 (0, 0))
      rw [List.map_take, events_touchUp, events_touchUp] at cutInside
      rw [events_touchUp] at cutOutside
      by_cases late : cut - (n + points.length) < points.length
      · obtain ⟨e, s', m, run', h'⟩ := cutInside (by simpa using late)
        rw [run']
        rw [List.append_assoc] at h'
        refine ⟨m, _, h', allLifted_of_lifted ?_ fun q hq => ?_⟩
        · intro q hq
          rcases List.mem_append.mp hq with hq | hq
          · exact no_down_lifting _ q (List.mem_of_mem_take hq)
          · exact no_down_lifting _ q hq
        · rw [List.any_append, lifts_lifting.mpr (size _ q (mem_pressing.mp hq)), Bool.or_true]
      · obtain ⟨s', run', h'⟩ := cutOutside (by simpa using late)
        rw [run']
        rw [List.append_assoc] at h'
        refine ⟨_, _, h', allLifted_of_lifted (no_down_lifting _) fun q hq => ?_⟩
        rw [lifts_lifting, List.range_eq_range']
        exact mem_pressing.mp hq
  · exact ⟨n, [], by simpa using h, rfl⟩

theorem stroke (h : Playing wire cut n [] s) (ahead : n ≤ cut) {m : Session Unit} {ts : List Touch}
    (run : m.run s = (touchAll ts).run s) {p : UInt64} {ids : List UInt64}
    (distinct : (p :: ids).Nodup) {moves : List DeviceEvent} (moving : Moving moves)
    (plays : ts.map Touch.event = strokeEvents (p :: ids) moves) :
    ∃ m' added, Playing wire cut m' added (m.run s).2 ∧
      (allLifted added = true ↔ cut - n = 0 ∨ ts.length ≤ cut - n) := by
  obtain ⟨m', h'⟩ := h.play ahead ts
  rw [← run, List.nil_append, List.map_take, plays] at h'
  refine ⟨m', _, h', ?_⟩
  rw [allLifted_stroke distinct moving, ← plays, List.length_map]

end Playing

theorem moving_map {α : Type} (xs : List α) (id : α → UInt64) (at' : α → Int32 × Int32) :
    Moving ((xs.map fun x => touchMove (id x) (at' x)).map Touch.event) := by
  intro e he
  simp only [List.map_map, List.mem_map] at he
  obtain ⟨x, _, rfl⟩ := he
  exact ⟨id x, rfl⟩

theorem moving_flatMap {α : Type} (xs : List α) (f : α → List Touch)
    (each : ∀ x, Moving ((f x).map Touch.event)) : Moving ((xs.flatMap f).map Touch.event) := by
  intro e he
  simp only [List.map_flatMap, List.mem_flatMap] at he
  obtain ⟨x, _, hx⟩ := he
  exact each x e hx

end HidSession

/-- The gestures that lift their fingers when a write fails. -/
def Gesture.guarded : Gesture → Bool
  | tapPointer .. | multiFingerTap _ => true
  | _ => false

def Gesture.writes : Gesture → Nat
  | tapPointer .. | longPress .. => 2
  | swipePointer _ _ _ steps | drag _ _ steps => (HidSession.atLeastTwo steps).toNat + 2
  | doubleTap .. => 4
  | threeFingerScreenshot => 36
  | pinch _ _ _ _ steps => 2 * (HidSession.atLeastTwo steps).toNat + 4
  | multiFingerTap points =>
    if 2 ≤ points.length ∧ points.length ≤ 10 then 2 * points.length else 0

namespace HidSession

theorem atLeastTwo_le (steps : UInt32) : 2 ≤ (atLeastTwo steps).toNat := by
  unfold atLeastTwo
  split
  · exact Nat.le_refl 2
  · rename_i h
    exact Nat.not_lt.mp h

theorem length_swipeTouches (id : UInt64) (origin target : Int32 × Int32) (steps : UInt32) :
    (swipeTouches id origin target steps).length = (atLeastTwo steps).toNat + 2 := by
  have two := atLeastTwo_le steps
  simp only [swipeTouches, List.length_cons, List.length_append, List.length_map,
    length_sampleTimes, List.length_nil]
  omega

theorem swipe_stroke (id : UInt64) (origin target : Int32 × Int32) (steps : UInt32) :
    ∃ moves, Moving moves ∧
      (swipeTouches id origin target steps).map Touch.event = strokeEvents [id] moves := by
  refine ⟨((sampleTimes (atLeastTwo steps) 1 (atLeastTwo steps).toNat).map
    (fun t => touchMove id (between origin target t)) ++ [touchMove id target]).map Touch.event,
    ?_, ?_⟩
  · intro e he
    rw [List.map_append] at he
    rcases List.mem_append.mp he with he | he
    · exact moving_map _ (fun _ => id) _ e he
    · exact ⟨id, List.mem_singleton.mp he⟩
  · simp only [swipeTouches, strokeEvents, List.map_cons, List.map_append, List.append_assoc]
    rfl

theorem length_flatMap_path (p0 p1 : MultitouchHandle.Path) (ts : List Float32) :
    (ts.flatMap (MultitouchHandle.pathTouches p0 p1)).length = 2 * ts.length := by
  induction ts with
  | nil => rfl
  | cons t rest ih =>
    simp only [List.flatMap_cons, List.length_append, ih, MultitouchHandle.pathTouches,
      List.length_cons, List.length_nil]
    omega

theorem screenshot_stroke (s : HidSession) :
    ∃ moves, Moving moves ∧
      (screenshotTouches s).map Touch.event = strokeEvents threeFingers moves := by
  let w := s.screenW.toUInt32.toInt32
  let h := s.screenH.toUInt32.toInt32
  let column (id : UInt64) : Int32 := w / 4 * (id.toUInt32.toInt32 + 1)
  refine ⟨((List.range' 1 10).flatMap fun step => threeFingers.map fun id =>
    touchMove id (column id, h / 4 + h / 2 * step.toUInt32.toInt32 / 10)).map Touch.event,
    moving_flatMap _ _ fun step => moving_map _ _ _, ?_⟩
  rw [screenshotTouches, List.map_append, List.map_append]
  rfl

theorem pinch_stroke (cx cy startRadius endRadius : Int32) (steps : UInt32) :
    ∃ moves, Moving moves ∧
      (pinchTouches cx cy startRadius endRadius steps).map Touch.event =
        strokeEvents [0, 1] moves := by
  refine ⟨((sampleTimes (atLeastTwo steps) 1 ((atLeastTwo steps).toNat + 1)).flatMap
    (MultitouchHandle.pathTouches
      { id := 0, origin := (cx - startRadius, cy), target := (cx - endRadius, cy) }
      { id := 1, origin := (cx + startRadius, cy), target := (cx + endRadius, cy) })).map Touch.event,
    moving_flatMap _ _ fun t => ?_, ?_⟩
  · intro e he
    simp only [MultitouchHandle.pathTouches, List.map_cons, List.map_nil, List.mem_cons,
      List.not_mem_nil, or_false] at he
    rcases he with rfl | rfl
    · exact ⟨0, rfl⟩
    · exact ⟨1, rfl⟩
  · simp only [pinchTouches, strokeEvents, List.map_cons, List.map_append, List.append_assoc]
    rfl

theorem length_pinchTouches (cx cy startRadius endRadius : Int32) (steps : UInt32) :
    (pinchTouches cx cy startRadius endRadius steps).length =
      2 * (atLeastTwo steps).toNat + 4 := by
  simp only [pinchTouches, List.length_cons, List.length_append, length_flatMap_path,
    length_sampleTimes, List.length_nil]
  omega

def doubleTapTouches (x y : Int32) : List Touch :=
  [touchDown 0 (x, y), touchUp 0 (x, y), touchDown 0 (x, y), touchUp 0 (x, y)]

theorem doubleTap_eq (x y : Int32) : doubleTap x y = touchAll (doubleTapTouches x y) := by
  simp only [doubleTapTouches, touchAll, Method.forEach_cons, Method.forEach_nil,
    Method.bind_pure_unit, inject_touchDown, inject_touchUp, doubleTap]

theorem allLifted_doubleTap (x y : Int32) (k : Nat) :
    allLifted (((doubleTapTouches x y).take k).map Touch.event) = true ↔ k = 0 ∨ 4 ≤ k ∨ k = 2 := by
  match k with
  | 0 | 1 | 2 | 3 => simp [doubleTapTouches, touchDown, touchUp, Touch.event, allLifted,
      DeviceEvent.lifts, TouchAction.down, TouchAction.up]
  | k + 4 => simp [doubleTapTouches, touchDown, touchUp, Touch.event, allLifted,
      DeviceEvent.lifts, TouchAction.down, TouchAction.up]

theorem Playing.stroke_releases {wire : List UInt8} {cut n : Nat} {s : HidSession}
    (h : Playing wire cut n [] s) (ahead : n ≤ cut) {g : Gesture} {ts : List Touch}
    (run : g.run.run s = (touchAll ts).run s) {p : UInt64} {ids : List UInt64}
    (distinct : (p :: ids).Nodup) {moves : List DeviceEvent} (moving : Moving moves)
    (plays : ts.map Touch.event = strokeEvents (p :: ids) moves) (size : ts.length = g.writes)
    (unguarded : g.guarded = false) (single : ∀ x y, g ≠ .doubleTap x y) :
    ∃ m added, Playing wire cut m added (g.run.run s).2 ∧
      (allLifted added = true ↔ g.guarded = true ∨ cut - n = 0 ∨ g.writes ≤ cut - n ∨
        (∃ x y, g = .doubleTap x y) ∧ cut - n = 2) := by
  obtain ⟨m, added, playing, iff⟩ := h.stroke ahead run distinct moving plays
  refine ⟨m, added, playing, ?_⟩
  rw [iff, unguarded, size]
  simp [single]

theorem Playing.start {s : HidSession} {k : Nat} (direct : s.transport.direct = true)
    (allOrNothing : s.transport.transport.AllOrNothing) (flushOk : s.transport.transport.FlushOk)
    (refuses : s.transport.transport.FailsOnly k) :
    Playing s.transport.transport.wire (s.transport.transport.writes + k) s.transport.transport.writes
      [] s where
  mode := direct
  allOrNothing := allOrNothing
  flushOk := flushOk
  count := rfl
  plan i hi := by
    have only := refuses (i - s.transport.transport.writes)
    rw [Nat.add_sub_of_le hi] at only
    rw [only]
    omega
  landed := ⟨[], (List.append_nil _).symm, fun _ => rfl⟩

theorem Playing.events {wire : List UInt8} {cut m : Nat} {s : HidSession} {played : List DeviceEvent}
    (h : Playing wire cut m played s) :
    ∃ added, s.transport.transport.wire = wire ++ added ∧ readEvents added = played := by
  obtain ⟨added, landed, reads⟩ := h.landed
  have read := reads []
  simp only [List.append_nil, readEvents_nil] at read
  exact ⟨added, landed, read⟩

end HidSession

open HidSession in
/-- When one write of a gesture fails, every finger it put down comes up again exactly if the
gesture has a guard, or the first write is the one that fails, or none of its writes is. Two taps
also come out even when the failure falls between them. -/
theorem gesture_releases (g : Gesture) (k : Nat) (s : HidSession)
    (direct : s.transport.direct = true) (allOrNothing : s.transport.transport.AllOrNothing)
    (flushOk : s.transport.transport.FlushOk) (refuses : s.transport.transport.FailsOnly k) :
    ∃ added, (g.run.run s).2.transport.transport.wire = s.transport.transport.wire ++ added ∧
      (allLifted (readEvents added) = true ↔
        g.guarded = true ∨ k = 0 ∨ g.writes ≤ k ∨ (∃ x y, g = .doubleTap x y) ∧ k = 2) := by
  let n := s.transport.transport.writes
  have start : Playing s.transport.transport.wire (n + k) n [] s :=
    Playing.start direct allOrNothing flushOk refuses
  suffices ∃ m added, Playing s.transport.transport.wire (n + k) m added (g.run.run s).2 ∧
      (allLifted added = true ↔
        g.guarded = true ∨ k = 0 ∨ g.writes ≤ k ∨ (∃ x y, g = .doubleTap x y) ∧ k = 2) by
    obtain ⟨m, events, playing, iff⟩ := this
    obtain ⟨added, wire, read⟩ := playing.events
    exact ⟨added, wire, by rw [read]; exact iff⟩
  have ahead : n ≤ n + k := Nat.le_add_right n k
  have gap : n + k - n = k := Nat.add_sub_cancel_left n k
  cases g with
  | tapPointer id x y =>
    obtain ⟨m, added, playing, lifted⟩ := start.tapPointer ahead id x y
    exact ⟨m, added, playing, by simp [lifted, Gesture.guarded]⟩
  | multiFingerTap points =>
    obtain ⟨m, added, playing, lifted⟩ := start.multiFingerTap ahead points
    exact ⟨m, added, playing, by simp [lifted, Gesture.guarded]⟩
  | swipePointer id origin target steps =>
    obtain ⟨moves, moving, plays⟩ := swipe_stroke id origin target steps
    have released := start.stroke_releases ahead (g := .swipePointer id origin target steps)
      (congrFun (congrArg Method.run (swipePointer_eq id origin target steps)) s) (by simp) moving
      plays (length_swipeTouches id origin target steps) rfl (by simp)
    rwa [gap] at released
  | drag origin target steps =>
    obtain ⟨moves, moving, plays⟩ := swipe_stroke 0 origin target steps
    have released := start.stroke_releases ahead (g := .drag origin target steps)
      (congrFun (congrArg Method.run (swipePointer_eq 0 origin target steps)) s) (by simp) moving
      plays (length_swipeTouches 0 origin target steps) rfl (by simp)
    rwa [gap] at released
  | longPress x y =>
    have still : Moving [] := List.forall_mem_nil _
    have plays : [touchDown 0 (x, y), touchUp 0 (x, y)].map Touch.event =
      strokeEvents [0] [] := rfl
    have run : (longPress x y).run s = (touchAll [touchDown 0 (x, y), touchUp 0 (x, y)]).run s := by
      simp only [touchAll, Method.forEach_cons, Method.forEach_nil, Method.bind_pure_unit,
        inject_touchDown, inject_touchUp, longPress]
    have released := start.stroke_releases ahead (g := .longPress x y) run (by simp) still plays rfl
      rfl (by simp)
    rwa [gap] at released
  | threeFingerScreenshot =>
    obtain ⟨moves, moving, plays⟩ := screenshot_stroke s
    have released := start.stroke_releases ahead (g := .threeFingerScreenshot)
      (threeFingerScreenshot_run s) (by decide) moving plays rfl rfl (by simp)
    rwa [gap] at released
  | pinch cx cy startRadius endRadius steps =>
    obtain ⟨moves, moving, plays⟩ := pinch_stroke cx cy startRadius endRadius steps
    have released := start.stroke_releases ahead (g := .pinch cx cy startRadius endRadius steps)
      (pinch_run cx cy startRadius endRadius steps s) (by decide) moving plays
      (length_pinchTouches cx cy startRadius endRadius steps) rfl (by simp)
    rwa [gap] at released
  | doubleTap x y =>
    obtain ⟨m, playing⟩ := start.play ahead (doubleTapTouches x y)
    rw [← doubleTap_eq, gap] at playing
    refine ⟨m, _, playing, ?_⟩
    rw [List.nil_append, allLifted_doubleTap]
    simp [Gesture.guarded, Gesture.writes]

/-- The guard lifts the finger of a tap whose second write fails. -/
theorem gesture_releases_tap :
    ∃ added, ((Gesture.tapPointer 7 10 20).run.run
        (HidSession.start (.refuses 1) id .gamepadOnlyRealtime)).2.transport.transport.wire =
          [] ++ added ∧
      (allLifted (readEvents added) = true ↔ true = true ∨ 1 = 0 ∨ 2 ≤ 1 ∨
        (∃ x y, Gesture.tapPointer 7 10 20 = .doubleTap x y) ∧ 1 = 2) :=
  gesture_releases (.tapPointer 7 10 20) 1 (HidSession.start (.refuses 1) id .gamepadOnlyRealtime)
    rfl (Transport.refuses_allOrNothing 1) (Transport.refuses_flushOk 1)
    (Transport.refuses_failsOnly 1)

/-- A long press whose UP is refused leaves the finger on the screen. -/
theorem long_press_sticks :
    let (opened, s) := HidSession.open (.refuses 1) id (OpenRequest.none.withCoalesce false)
    opened = .ok () ∧ s.transport.direct = true ∧ s.transport.transport.FailsOnly 1 ∧
      allLifted (readEvents ((Gesture.longPress 10 20).run.run s).2.transport.transport.wire) =
        false :=
  ⟨rfl, rfl, Transport.refuses_failsOnly 1, by decide +kernel⟩

end HidConnect
