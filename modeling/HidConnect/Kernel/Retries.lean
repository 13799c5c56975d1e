import HidConnect.Kernel.Execution
import HidConnect.Library.Run

/-! Requests that come with the id of an action that was executed before. -/
namespace HidConnect.Kernel
open Fallible

def executions (events : List DaemonEvent) : List (Action × ActionResult) :=
  events.filterMap fun
    | .executed action result _ => some (action, result)
    | _ => none

def replies (events : List DaemonEvent) : List Reply :=
  events.filterMap fun
    | .sent frame => some frame.reply
    | _ => none

/-- An action has an id that the host sent it under, and one that the daemon gave it. -/
inductive Naming where
  | host | daemon
  deriving DecidableEq

/-- A daemon, and what it executed so far: the id of each request, and the result. -/
structure Retries (η : Type) where
  daemon : Daemon η
  attempts : List (ActionId × ActionResult)

def Naming.of (naming : Naming) (attempt : ActionId × ActionResult) : ActionId :=
  match naming with
  | host => attempt.1
  | daemon => attempt.2.id

namespace Retries
variable {η : Type} (phone : Phone η)

def new (e : η) (shared : Persistent) : Retries η := { daemon := .new e shared, attempts := [] }

def during (r : Retries η) (request : ActionId × Action) : List DaemonEvent :=
  (r.daemon.handle phone (.action request.1 request.2)).trace.drop r.daemon.trace.length

def step (r : Retries η) (request : ActionId × Action) : Retries η where
  daemon := r.daemon.handle phone (.action request.1 request.2)
  attempts := r.attempts ++ (executions (r.during phone request)).map fun x => (request.1, x.2)

/-- The result of the attempt is among those that the state model still has. -/
def Retained (r : Retries η) (attempt : ActionId × ActionResult) : Prop :=
  (attempt.2.id, attempt.2) ∈ r.daemon.state.recentActionResults

/-- The id is that of an attempt whose result is retained. -/
def Replays (naming : Naming) (r : Retries η) (request : ActionId × Action) : Prop :=
  ∃ attempt ∈ r.attempts, naming.of attempt = request.1 ∧ r.Retained attempt

/-- A replay is answered with the result that is there, and anything else is executed once. -/
structure Idempotent (naming : Naming) (r : Retries η) (request : ActionId × Action) : Prop where
  replayed : r.Replays naming request → executions (r.during phone request) = [] ∧
    ∀ reply ∈ replies (r.during phone request), ∃ attempt ∈ r.attempts,
      naming.of attempt = request.1 ∧ r.Retained attempt ∧ reply = .action attempt.2
  fresh : ¬r.Replays naming request →
    ∃ result, executions (r.during phone request) = [(request.2, result)]

theorem executions_during (r : Retries η) (request : ActionId × Action) :
    ∃ result, executions (r.during phone request) = [(request.2, result)] := by
  obtain ⟨result, s', e, sent, executed, same, ends⟩ :=
    r.daemon.handle_action phone request.1 request.2
  have quiet : executions sent = [] := by rcases ends with rfl | rfl <;> rfl
  refine ⟨result, ?_⟩
  unfold during
  rw [same]
  cases executed <;> (dsimp only; rw [List.append_assoc, List.drop_left]; simpa [executions] using quiet)

theorem idempotent_iff (naming : Naming) (r : Retries η) (request : ActionId × Action) :
    r.Idempotent phone naming request ↔ ¬r.Replays naming request := by
  obtain ⟨result, once⟩ := r.executions_during phone request
  constructor
  · intro h replays
    have none := (h.replayed replays).1
    rw [once] at none
    contradiction
  · intro fresh
    exact ⟨fun replays => absurd replays fresh, fun _ => ⟨result, once⟩⟩

end Retries

/-- The daemon is idempotent in a run of requests if and only if no request comes with the id of an
executed action whose result is retained, whichever of its two ids is meant. -/
theorem idempotent_replay_iff {η : Type} (phone : Phone η) (e : η) (shared : Persistent)
    (naming : Naming) (requests : List (ActionId × Action)) :
    Run.Along (Retries.step phone) (Retries.Idempotent phone naming) (.new e shared) requests ↔
      Run.Along (Retries.step phone) (fun r request => ¬r.Replays naming request) (.new e shared)
        requests :=
  Run.along_congr (fun r request => r.idempotent_iff phone naming request) _ _

/-- The same request twice: its action is executed again, though its result is there. -/
theorem retry_is_executed_again :
    ¬Run.Along (Retries.step silentPhone) (Retries.Idempotent silentPhone .host)
      (.new 0 { memory := .new, sqlite := none })
      [(7, .getUiRepr none 1000), (7, .getUiRepr none 1000)] := by
  rintro ⟨-, again, -⟩
  refine (Retries.idempotent_iff silentPhone .host _ _).mp again ?_
  exact ⟨_, List.mem_singleton_self _, rfl, List.mem_singleton_self _⟩

end HidConnect.Kernel
