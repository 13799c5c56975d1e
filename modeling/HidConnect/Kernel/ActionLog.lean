import HidConnect.Kernel.Execution
import HidConnect.Library.Run

/-! What the daemon keeps of the actions it executes. -/
namespace HidConnect.Kernel
open Fallible

/-- The actions that landed, with their results and the focused apps parsed after them. -/
def landings (events : List DaemonEvent) : List (Action × ActionResult × Option String) :=
  events.filterMap fun
    | .executed action result focus => if result.landed then some (action, result, focus) else none
    | _ => none

def bridgeLandings (events : List DaemonEvent) : List Action :=
  events.filterMap fun
    | .bridged action answer => if answerLanded answer then some action else none
    | _ => none

def recordings (events : List DaemonEvent) : List (ActionId × ActionResult) :=
  events.filterMap fun
    | .recorded id result => some (id, result)
    | _ => none

def memories (events : List DaemonEvent) : List (ScreenId × Action) :=
  events.filterMap fun
    | .remembered screenId action => some (screenId, action)
    | _ => none

section Projections
variable (xs ys : List DaemonEvent)

@[simp] theorem landings_append : landings (xs ++ ys) = landings xs ++ landings ys :=
  List.filterMap_append ..
@[simp] theorem bridgeLandings_append :
    bridgeLandings (xs ++ ys) = bridgeLandings xs ++ bridgeLandings ys := List.filterMap_append ..
@[simp] theorem recordings_append : recordings (xs ++ ys) = recordings xs ++ recordings ys :=
  List.filterMap_append ..
@[simp] theorem memories_append : memories (xs ++ ys) = memories xs ++ memories ys :=
  List.filterMap_append ..

end Projections

namespace Daemon
variable {η : Type} {phone : Phone η}

/-- What a landing owes to the state model, and to the memory. -/
def owed (landing : Action × ActionResult × Option String) : ActionId × ActionResult :=
  (landing.2.1.id, landing.2.1)

def owedMemory (phone : Phone η) (landing : Action × ActionResult × Option String) :
    Option (ScreenId × Action) :=
  landing.2.2.map fun f => (phone.fromFocus f, landing.1)

/-- Every action that landed is recorded once, under its id, and remembered once, under the screen that
was in focus after it, if there was one; nothing else is. -/
structure Complete (phone : Phone η) (trace : List DaemonEvent) : Prop where
  recorded : recordings trace = (landings trace).map owed
  remembered : memories trace = (landings trace).filterMap (owedMemory phone)

/-- What was recorded and remembered is what landed, but for the bridge. -/
structure Accounts (phone : Phone η) (events : List DaemonEvent) : Prop where
  count : (landings events).length = (recordings events).length + (bridgeLandings events).length
  recorded : bridgeLandings events = [] → recordings events = (landings events).map owed
  remembered : memories events = (landings events).filterMap (owedMemory phone)

theorem Accounts.append {xs ys : List DaemonEvent} (hx : Accounts phone xs) (hy : Accounts phone ys) :
    Accounts phone (xs ++ ys) where
  count := by
    simp only [landings_append, recordings_append, bridgeLandings_append, List.length_append, hx.count,
      hy.count]
    omega
  recorded none := by
    rw [bridgeLandings_append, List.append_eq_nil_iff] at none
    rw [recordings_append, landings_append, List.map_append, hx.recorded none.1, hy.recorded none.2]
  remembered := by
    rw [memories_append, landings_append, List.filterMap_append, hx.remembered, hy.remembered]

/-- The log is complete if and only if nothing landed by way of the bridge. -/
theorem Accounts.complete_iff {trace : List DaemonEvent} (h : Accounts phone trace) :
    Complete phone trace ↔ bridgeLandings trace = [] := by
  constructor
  · intro complete
    have lengths := congrArg List.length complete.recorded
    rw [List.length_map, h.count] at lengths
    exact List.length_eq_zero_iff.mp (by omega)
  · exact fun none => ⟨h.recorded none, h.remembered⟩

/-- How the daemon goes on: what it recorded since is in its state, as far as there is room for it. -/
structure Follows (phone : Phone η) (s s' : Daemon η) : Prop where
  events : ∃ more, s'.trace = s.trace ++ more ∧ Accounts phone more ∧
    s'.state.recentActionResults =
      (recordings more).foldl (DropOldest.push actionResultCap) s.state.recentActionResults ∧
    s'.shared.memory = (memories more).foldl (fun m x => m.withSuccess x.1 x.2) s.shared.memory

instance : IsPreorder (Daemon η) (Follows phone) where
  refl s := ⟨[], (List.append_nil _).symm, ⟨rfl, fun _ => rfl, rfl⟩, rfl, rfl⟩
  trans s s' s'' := by
    rintro ⟨xs, trace, accounts, ring, memory⟩ ⟨ys, trace', accounts', ring', memory'⟩
    refine ⟨xs ++ ys, ?_, accounts.append accounts', ?_, ?_⟩
    · rw [trace', trace, List.append_assoc]
    · rw [ring', ring, recordings_append, List.foldl_append]
    · rw [memory', memory, memories_append, List.foldl_append]

theorem follows_quiet {s s' : Daemon η} {more : List DaemonEvent} (trace : s'.trace = s.trace ++ more)
    (quiet : landings more = [] ∧ bridgeLandings more = [] ∧ recordings more = [] ∧ memories more = [])
    (ring : s'.state.recentActionResults = s.state.recentActionResults)
    (memory : s'.shared.memory = s.shared.memory) : Follows phone s s' := by
  obtain ⟨none, bridged, recorded, remembered⟩ := quiet
  refine ⟨more, trace, ⟨?_, fun _ => ?_, ?_⟩, ?_, ?_⟩
  · rw [none, bridged, recorded]
    rfl
  · rw [none, recorded]
    rfl
  · rw [none, remembered]
    rfl
  · rw [ring, recorded]
    rfl
  · rw [memory, remembered]
    rfl

theorem Executed.follows {action : Action} {s s' : Daemon η} {result : ActionResult}
    (h : Executed phone action s result s') : Follows phone s s' := by
  cases h with
  | bridged e answer uses id landed =>
    refine ⟨_, rfl, ?_, rfl, rfl⟩
    cases lands : answerLanded answer <;> rw [lands] at landed <;>
      constructor <;> simp [landings, recordings, bridgeLandings, memories, owedMemory, lands, landed]
  | missed e shell id landed =>
    exact follows_quiet rfl (by simp [landings, bridgeLandings, recordings, memories, landed]) rfl rfl
  | unfocused e shell id landed =>
    refine ⟨_, rfl, ?_, rfl, rfl⟩
    constructor <;> simp [landings, recordings, bridgeLandings, memories, owed, owedMemory, landed]
  | focused e f persists shell id landed =>
    refine ⟨_, rfl, ?_, rfl, rfl⟩
    constructor <;> simp [landings, recordings, bridgeLandings, memories, owed, owedMemory, landed]

/- Every handler goes on like this. -/

theorem keeps_ask (phone : Phone η) {α : Type} (f : η → α × η) : Method.Keeps (Follows phone) (ask f) :=
  fun _ => follows_quiet (List.append_nil _).symm ⟨rfl, rfl, rfl, rfl⟩ rfl rfl

theorem keeps_nextObsSeq (phone : Phone η) :
    Method.Keeps (Follows phone) (nextObsSeq : Handling η Nat) :=
  fun _ => follows_quiet (List.append_nil _).symm ⟨rfl, rfl, rfl, rfl⟩ rfl rfl

theorem keeps_buildObservation : Method.Keeps (Follows phone) (buildObservation phone) := by
  intro s
  obtain ⟨obs, e, ran⟩ := run_buildObservation phone s
  rw [ran]
  exact follows_quiet (List.append_nil _).symm ⟨rfl, rfl, rfl, rfl⟩ rfl rfl

theorem keeps_writeReply (reply : Reply) (isCheckpoint : Bool) :
    Method.Keeps (Follows phone) (writeReply phone reply isCheckpoint) := by
  intro s
  obtain ⟨r, e, sent, ran, ends⟩ := run_writeReply phone reply isCheckpoint s
  rw [ran]
  refine follows_quiet rfl ?_ rfl rfl
  rcases ends with ⟨-, rfl⟩ | ⟨-, rfl⟩ <;> exact ⟨rfl, rfl, rfl, rfl⟩

theorem keeps_executeAction (action : Action) :
    Method.Keeps (Follows phone) (executeAction phone action) := by
  intro s
  obtain ⟨result, s', ran, executed⟩ := run_executeAction phone action s
  rw [ran]
  exact executed.follows

theorem keeps_log {event : DaemonEvent}
    (quiet : landings [event] = [] ∧ bridgeLandings [event] = [] ∧ recordings [event] = [] ∧
      memories [event] = []) : Method.Keeps (Follows phone) (log event : Handling η Unit) :=
  fun _ => follows_quiet rfl quiet rfl rfl

theorem keeps_waitBeforeStep (index : Nat) (step : PlanStep) :
    Method.Keeps (Follows phone) (waitBeforeStep phone index step) := by
  unfold waitBeforeStep
  split
  case h_1 => exact Method.keeps_pure _
  case h_2 p =>
    refine (keeps_ask phone _).bind fun t0 => (keeps_ask phone _).bind fun answer => ?_
    have polled : ∀ s : Daemon η, Follows phone s
        { s with trace := s.trace ++ answer.2.map DaemonEvent.polled } := by
      intro s
      refine follows_quiet rfl ⟨?_, ?_, ?_, ?_⟩ rfl rfl <;>
        exact List.filterMap_eq_nil_iff.mpr (List.forall_mem_map.mpr fun _ _ => rfl)
    refine (Method.keeps_update polled).bind fun _ => ?_
    split
    case isTrue => exact Method.keeps_pure _
    case isFalse => exact keeps_log ⟨rfl, rfl, rfl, rfl⟩

theorem keeps_verifyStep (step : PlanStep) : Method.Keeps (Follows phone) (verifyStep phone step) := by
  unfold verifyStep
  split
  case h_1 => exact Method.keeps_pure _
  case h_2 => exact (keeps_ask phone _).bind fun _ => Method.keeps_pure _

theorem keeps_checkpointAfter (plan : Plan) (results : List StepResult) :
    Method.Keeps (Follows phone) (checkpointAfter phone plan results) := by
  unfold checkpointAfter
  split
  case isTrue => exact keeps_buildObservation.bind fun _ => keeps_writeReply _ _
  case isFalse => exact Method.keeps_pure _

theorem keeps_planLoop (plan : Plan) (steps : List PlanStep) (index : Nat) (results : List StepResult)
    (allLanded : Bool) :
    Method.Keeps (Follows phone) (planLoop phone plan index steps results allLanded) := by
  induction steps generalizing index results allLanded with
  | nil => exact Method.keeps_pure _
  | cons step rest ih =>
    refine (keeps_waitBeforeStep index step).bind fun _ => (keeps_log ⟨rfl, rfl, rfl, rfl⟩).bind fun _ =>
      (keeps_executeAction step.action).bind fun result =>
        (keeps_verifyStep step).bind fun verified => ?_
    dsimp only
    split
    case isTrue => exact Method.keeps_pure _
    case isFalse => exact (keeps_checkpointAfter plan _).bind fun _ => ih _ _ _

theorem keeps_subscribe (sinceSeq : Nat) : Method.Keeps (Follows phone)
    (.update fun s => { s with stream := (s.stream.subscribe sinceSeq none).2 } : Handling η Unit) :=
  Method.keeps_update fun _ => follows_quiet (List.append_nil _).symm ⟨rfl, rfl, rfl, rfl⟩ rfl rfl

theorem keeps_handleConnection (request : Request) :
    Method.Keeps (Follows phone) (handleConnection phone request) := by
  cases request with
  | action id action =>
    refine (keeps_executeAction action).bind fun result => ?_
    split
    case h_1 => exact (keeps_ask phone _).bind fun _ => keeps_writeReply _ _
    case h_2 => exact keeps_writeReply _ _
  | plan id plan =>
    exact (keeps_ask phone _).bind fun _ => (keeps_planLoop plan _ _ _ _).bind fun _ =>
      (keeps_ask phone _).bind fun _ => keeps_buildObservation.bind fun _ => keeps_writeReply _ _
  | observe sinceSeq filter =>
    exact (keeps_subscribe sinceSeq).bind fun _ => keeps_buildObservation.bind fun _ =>
      (keeps_writeReply _ _).bind fun _ => (keeps_ask phone _).bind fun _ =>
        keeps_buildObservation.bind fun _ => (keeps_writeReply _ _).bind fun _ => keeps_writeReply _ _
  | query a11y frame state => exact keeps_buildObservation.bind fun _ => keeps_writeReply _ _
  | endOfStream => exact (keeps_nextObsSeq phone).bind fun _ => keeps_writeReply _ _

theorem follows_run (phone : Phone η) (s : Daemon η) (requests : List Request) :
    Follows phone s (Run.after (handle phone) s requests) :=
  Run.preserved (Follows phone s)
    (fun t request so => trans_of (Follows phone) so (keeps_handleConnection request t))
    (refl_of (Follows phone) s) requests

end Daemon

/-- Of the actions that landed in a run, all are in the action results and the memory just once, if and
only if none landed by way of the bridge. The state model has the newest of what was recorded, and
the memory is what was remembered, one success after the other. -/
theorem action_log_complete_iff {η : Type} (phone : Phone η) (e : η) (shared : Persistent)
    (requests : List Request) :
    let s := Run.after (Daemon.handle phone) (.new e shared) requests
    (Daemon.Complete phone s.trace ↔ bridgeLandings s.trace = []) ∧
      s.state.recentActionResults = (recordings s.trace).rtake actionResultCap ∧
      s.shared.memory = (memories s.trace).foldl (fun m x => m.withSuccess x.1 x.2) shared.memory := by
  have follows := Daemon.follows_run phone (.new e shared) requests
  obtain ⟨more, trace, accounts, ring, memory⟩ := follows.events
  obtain rfl : _ = more := trace
  refine ⟨accounts.complete_iff, ?_, memory⟩
  rw [ring]
  exact DropOldest.foldl_push (by decide) (Nat.zero_le _) _

def landsAll (_ : Action) (e : Nat) : Except String TimedOutcome × Nat :=
  (.ok { BridgeOutcome.ok 0 with elapsed := 0 }, e)

/-- A tap that lands by way of the bridge leaves nothing in the action results. -/
theorem bridge_landing_is_not_recorded :
    ¬Daemon.Complete { silentPhone with applyRaw := landsAll }
      (Run.after (Daemon.handle { silentPhone with applyRaw := landsAll })
        (.new 0 { memory := .new, sqlite := none }) [.action 1 (.tap 540 1200 1000)]).trace := by
  rintro ⟨recorded, -⟩
  exact List.cons_ne_nil _ _ recorded.symm

end HidConnect.Kernel
