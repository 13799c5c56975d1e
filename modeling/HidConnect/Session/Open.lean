import HidConnect.Session.Lifecycle

/-! Opening is all or nothing: a request that fails half-way takes back what it announced, through
the drop of the half-built session. -/
namespace HidConnect
open Fallible

/-- The wire a device reads: its devices announced, then some of them taken back. -/
def announcements (created destroyed : List Device) : List DeviceEvent :=
  created.map (fun d => .create d.hidId) ++ destroyed.map (fun d => .destroy d.hidId)

namespace HidSession

theorem start_carries (t : Transport) (clock : Nat → Nat) (req : OpenRequest)
    (fresh : t.wire = []) (allOrNothing : t.AllOrNothing) (flushOk : t.FlushOk) :
    CoalescingWriter.Carries (start t clock req).transport.direct (start t clock req).transport
      [] [] := by
  unfold start
  dsimp only
  split <;> exact ⟨rfl, fresh, rfl, List.forall_mem_nil _, List.forall_mem_nil _,
    fun _ => rfl, allOrNothing, flushOk⟩

theorem start_transport (t : Transport) (clock : Nat → Nat) (req : OpenRequest) :
    (start t clock req).transport.transport = t := by
  unfold start
  dsimp only
  split <;> rfl

theorem length_requested (req : OpenRequest) : req.requested.length ≤ 3 := by
  unfold OpenRequest.requested
  cases req.kbd <;> cases req.mouse <;> cases req.gamepad <;> decide

/-- A half-built session says farewell to exactly the devices it announced. -/
theorem farewells_adoptAll (t : Transport) (clock : Nat → Nat) (req : OpenRequest)
    (w : CoalescingWriter) (k : Nat) :
    farewells { adoptAll (start t clock req) (req.requested.take k) with transport := w } =
      (req.requested.take k).map Device.destroy := by
  by_cases part : k < 3
  · unfold OpenRequest.requested
    rcases k with _ | _ | _ | k
    · rfl
    · cases req.kbd <;> cases req.mouse <;> cases req.gamepad <;> rfl
    · cases req.kbd <;> cases req.mouse <;> cases req.gamepad <;> rfl
    · omega
  · have few := length_requested req
    rw [List.take_of_length_le (by omega)]
    unfold OpenRequest.requested
    cases req.kbd <;> cases req.mouse <;> cases req.gamepad <;> rfl

theorem adoptAll_closed (s : HidSession) (ds : List Device) :
    (adoptAll s ds).closed = s.closed := by
  induction ds generalizing s with
  | nil => rfl
  | cons d ds ih =>
    have next := ih (adopt s d)
    cases d <;> exact next

theorem drop_live {s : HidSession} (live : s.closed = false) :
    s.drop.transport = (CoalescingWriter.flushNow.run (tryCloseAll.run s).2.transport).2 := by
  rw [drop, live]
  rfl

theorem drop_announces {s : HidSession} (live : s.closed = false) {ds : List Device}
    (bound : s.farewells = ds.map Device.destroy) {d : Bool} {sent : List ControlMessage}
    (carries : CoalescingWriter.Carries d s.transport sent []) :
    ∃ k, CoalescingWriter.Carries d s.drop.transport (sent ++ (ds.take k).map Device.destroy) [] ∧
      ((∀ i, s.transport.transport.writes ≤ i → s.transport.transport.onWrite i = .ok) →
        ds.take k = ds) := by
  have all := Device.allCritical_destroy ds
  obtain ⟨sent', held', done⟩ := carries.pushAll all
  obtain ⟨_, transport, _⟩ := tryCloseAll_outcome live
  obtain rfl := done.cleared (.inl rfl)
  have joined := done.joined
  simp only [List.append_nil] at joined
  refine ⟨CoalescingWriter.acceptedCount (ds.map Device.destroy) s.transport, ?_, fun steady => ?_⟩
  · have carries' := done.carries
    rw [joined, ← List.map_take] at carries'
    rw [drop_live live, transport, bound, CoalescingWriter.flushNow_empty carries'.pending]
    exact ⟨carries'.mode, carries'.wire, carries'.pending, carries'.sentOk, carries'.heldOk,
      carries'.unbuffered, carries'.allOrNothing, carries'.flushOk⟩
  · refine List.take_of_length_le ?_
    by_contra early
    have part : CoalescingWriter.acceptedCount (ds.map Device.destroy) s.transport <
        (ds.map Device.destroy).length := by
      rw [List.length_map]
      omega
    exact done.refused rfl part (steady _ (Nat.le_add_right _ _))

theorem open_outcome (t : Transport) (clock : Nat → Nat) (req : OpenRequest)
    (fresh : t.wire = []) (allOrNothing : t.AllOrNothing) (flushOk : t.FlushOk) :
    ∃ d, ((«open» t clock req).1 = .ok () ∧
        ∃ w, («open» t clock req).2 = { adoptAll (start t clock req) req.requested with
            transport := w } ∧
          CoalescingWriter.Carries d w (req.requested.map Device.create) [] ∧
          w.transport.onWrite = t.onWrite) ∨
      ((∃ e, («open» t clock req).1 = .err e) ∧
        ∃ k j, k < req.requested.length ∧ t.onWrite (t.writes + k) ≠ .ok ∧
          CoalescingWriter.Carries d («open» t clock req).2.transport
            ((req.requested.take k).map Device.create ++
              ((req.requested.take k).take j).map Device.destroy) [] ∧
          ((∀ i, t.writes + k < i → t.onWrite i = .ok) →
            (req.requested.take k).take j = req.requested.take k)) := by
  have carries := start_carries t clock req fresh allOrNothing flushOk
  have all := Device.allCritical_create req.requested
  obtain ⟨sent, held, done⟩ := carries.pushAll all
  obtain rfl := done.cleared (.inl rfl)
  have calm := CoalescingWriter.pushAll_no_panic all (start t clock req).transport
  have run := openAll_run req.requested (start t clock req)
  rw [← openDevices_eq] at run
  generalize hk : CoalescingWriter.acceptedCount (req.requested.map Device.create)
    (start t clock req).transport = k at done run
  rcases hp : (CoalescingWriter.pushAll (req.requested.map Device.create)).run
    (start t clock req).transport with ⟨r, w⟩
  rw [hp] at done run calm
  have joined := done.joined
  simp only [List.append_nil, List.nil_append, ← List.map_take] at joined
  have landed := done.carries
  rw [joined] at landed
  refine ⟨(start t clock req).transport.direct, ?_⟩
  cases r with
  | panic => contradiction
  | ok u =>
    have whole : k = req.requested.length := by simpa using done.whole
    have onWrite := done.onWrite
    rw [start_transport] at onWrite
    rw [whole, List.take_length] at landed run
    rw [«open», run]
    exact .inl ⟨rfl, w, rfl, landed, onWrite⟩
  | err e =>
    have early : k < req.requested.length := by
      have few := done.few
      have notAll : k ≠ req.requested.length := by simpa using done.whole
      rw [List.length_map] at few
      omega
    have fails := done.refused rfl (by simpa using early)
    have onWrite := done.onWrite
    have used := done.writes rfl
    rw [start_transport] at fails onWrite used
    rw [List.length_map, Nat.min_eq_left early] at used
    have used : w.transport.writes = t.writes + (k + 1) := used
    obtain ⟨j, dropped, steady⟩ := drop_announces
      (s := { adoptAll (start t clock req) (req.requested.take k) with transport := w })
      ((adoptAll_closed _ _).trans rfl) (farewells_adoptAll t clock req w k) landed
    rw [«open», run]
    refine .inr ⟨⟨e, rfl⟩, k, j, early, fails, dropped, fun later => steady fun i hi => ?_⟩
    have hi : w.transport.writes ≤ i := hi
    rw [onWrite]
    exact later i (by omega)

theorem announced_events {d : Bool} {w : CoalescingWriter} {created destroyed : List Device}
    (carries : CoalescingWriter.Carries d w
      (created.map Device.create ++ destroyed.map Device.destroy) []) :
    readEvents w.transport.wire = announcements created destroyed := by
  have read := readEvents_encodeAll carries.sentOk []
  rw [List.append_nil, ← carries.wire, readEvents_nil, List.append_nil] at read
  rw [read, announcements, List.map_append, List.map_map, List.map_map]
  congr 1
  refine List.map_congr_left fun d _ => ?_
  exact Device.event_create d

end HidSession

/-- Opening returns, and it leaves exactly the requested devices or takes back what landed. The
devices that stay are those whose own farewell was refused as well. -/
theorem open_rolls_back (t : Transport) (clock : Nat → Nat) (req : OpenRequest)
    (fresh : t.wire = []) (allOrNothing : t.AllOrNothing) (flushOk : t.FlushOk) :
    let wire := (HidSession.open t clock req).2.transport.transport.wire
    ((HidSession.open t clock req).1 = .ok () ∧
      readEvents wire = announcements req.requested []) ∨
    ((∃ e, (HidSession.open t clock req).1 = .err e) ∧
      ∃ landed destroyed, landed <+: req.requested ∧ destroyed <+: landed ∧
        readEvents wire = announcements landed destroyed ∧
        t.onWrite (t.writes + landed.length) ≠ .ok ∧
        ((∀ i, t.writes + landed.length < i → t.onWrite i = .ok) → destroyed = landed)) := by
  obtain ⟨d, ⟨ok, w, state, carries, _⟩ | ⟨err, k, j, early, fails, carries, steady⟩⟩ :=
    HidSession.open_outcome t clock req fresh allOrNothing flushOk
  · refine .inl ⟨ok, ?_⟩
    rw [state]
    rw [← List.append_nil (List.map _ _)] at carries
    exact @HidSession.announced_events d w req.requested [] carries
  · have length : (req.requested.take k).length = k := by
      rw [List.length_take, Nat.min_eq_left (Nat.le_of_lt early)]
    refine .inr ⟨err, req.requested.take k, (req.requested.take k).take j,
      List.take_prefix _ _, List.take_prefix _ _, ?_, ?_, ?_⟩
    · exact HidSession.announced_events carries
    · rwa [length]
    · rwa [length]

/-- The keyboard and the mouse are taken back when the gamepad is refused. -/
theorem open_rolls_back_third :
    ∃ landed, landed <+: OpenRequest.all.requested ∧
      readEvents (HidSession.open (.refuses 2) (fun _ => 0) .all).2.transport.transport.wire =
        announcements landed landed := by
  rcases open_rolls_back (.refuses 2) (fun _ => 0) .all rfl (Transport.refuses_allOrNothing 2)
    (Transport.refuses_flushOk 2) with ⟨ok, _⟩ | ⟨_, landed, destroyed, part, _, events, fails, steady⟩
  · have refused : (HidSession.open (.refuses 2) (fun _ => 0) .all).1 =
        .err (.transport "gone") := by decide +kernel
    rw [refused] at ok
    contradiction
  · have third : landed.length = 2 := by
      by_contra other
      exact fails (if_neg (by simpa [Transport.refuses, Transport.fresh] using other))
    have whole : destroyed = landed := steady fun i hi => if_neg (by
      simp only [third] at hi
      omega)
    exact ⟨landed, part, whole ▸ events⟩

end HidConnect
