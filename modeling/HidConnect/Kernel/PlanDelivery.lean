import HidConnect.Kernel.Delivery
import HidConnect.Kernel.PlanStream
import HidConnect.Library.Trace

/-! What a plan delivers to the subscribers of the stream: what the host shows, under the numbers that
it has there, and the copies that carry checkpoints. -/
namespace HidConnect.Kernel
open Fallible

/-- What a subscriber with this filter is delivered. -/
def deliveries (filter : Option (List EventKind)) (trace : List PlanEvent) : List Observation :=
  (trace.filterMap published).filter (passes filter)

/-- What the host shows comes later in sequence than everything delivered before, and a checkpoint is
not delivered after anything else. -/
def InSequence (filter : Option (List EventKind)) (earlier : List Observation)
    (before : List PlanEvent) (event : PlanEvent) : Prop :=
  ∀ obs, published event = some obs → passes filter obs = true →
    match event with
    | .checkpoint _ _ => earlier ++ deliveries filter before = []
    | _ => ∀ o ∈ earlier ++ deliveries filter before, o.seq < obs.seq

theorem passes_checkpointCopy (filter : Option (List EventKind)) (planId : PlanId) (obs : Observation) :
    passes filter (checkpointCopy planId obs) = passes filter obs := by
  cases filter with
  | none => rfl
  | some kinds => simp [passes, checkpointCopy, EventKind.fromEvent]

section Deliveries
variable {filter : Option (List EventKind)} {earlier : List Observation}

theorem deliveries_append (trace more : List PlanEvent) :
    deliveries filter (trace ++ more) = deliveries filter trace ++ deliveries filter more := by
  unfold deliveries
  rw [List.filterMap_append, List.filter_append]

theorem deliveries_singleton (event : PlanEvent) :
    deliveries filter [event] = ((published event).filter (passes filter)).toList := by
  unfold deliveries
  cases shown : published event with
  | none => simp [shown]
  | some obs => cases accepted : passes filter obs <;> simp [shown, accepted, Option.filter]

/-- The deliveries are in sequence exactly where the events are. -/
def Sequenced (filter : Option (List EventKind)) (earlier : List Observation)
    (trace : List PlanEvent) : Prop :=
  Increasing (earlier ++ deliveries filter trace) ↔
    Increasing earlier ∧ Trace.Upheld (InSequence filter earlier) trace

/-- An event keeps this if it delivers nothing, or if what it delivers is in sequence exactly where the
event is. -/
theorem Sequenced.snoc {trace : List PlanEvent} (h : Sequenced filter earlier trace) (event : PlanEvent)
    (same : ∀ obs, published event = some obs → passes filter obs = true →
      ((∀ o ∈ earlier ++ deliveries filter trace, o.seq < obs.seq) ↔
        InSequence filter earlier trace event)) :
    Sequenced filter earlier (trace ++ [event]) := by
  unfold Sequenced at h ⊢
  rw [Trace.upheld_snoc, ← and_assoc, ← h, deliveries_append, deliveries_singleton]
  cases shown : published event with
  | none =>
    have free : InSequence filter earlier trace event := fun obs known => by
      rw [shown] at known
      contradiction
    simp [free]
  | some obs =>
    cases accepted : passes filter obs with
    | false =>
      have free : InSequence filter earlier trace event := fun o known passed => by
        rw [shown] at known
        cases known
        rw [accepted] at passed
        contradiction
      simp [free, accepted, Option.filter]
    | true =>
      rw [← same obs shown accepted, ← increasing_snoc, Option.filter_some, if_pos accepted,
        Option.toList_some, List.append_assoc]

def PlanEvent.isCheckpoint : PlanEvent → Bool
  | checkpoint _ _ => true
  | _ => false

theorem Sequenced.shown {trace : List PlanEvent} (h : Sequenced filter earlier trace) (event : PlanEvent)
    (other : event.isCheckpoint = false) : Sequenced filter earlier (trace ++ [event]) := by
  refine h.snoc event fun obs known accepted => ?_
  unfold InSequence
  rw [known]
  cases event with
  | checkpoint i obs => contradiction
  | _ => simp [accepted]

theorem Sequenced.append {trace more : List PlanEvent} (h : Sequenced filter earlier trace)
    (other : ∀ event ∈ more, event.isCheckpoint = false) :
    Sequenced filter earlier (trace ++ more) := by
  induction more generalizing trace with
  | nil => rwa [List.append_nil]
  | cons event rest ih =>
    rw [List.forall_mem_cons] at other
    rw [List.append_cons]
    exact ih (h.shown event other.1) other.2

theorem Sequenced.checkpoint {trace : List PlanEvent} (h : Sequenced filter earlier trace)
    {planId : PlanId} {finalObs : Observation}
    (last : finalObs.seq = 0 ∨ .observed (some finalObs) ∈ trace) (i : Nat) :
    Sequenced filter earlier (trace ++ [.checkpoint i (checkpointCopy planId finalObs)]) := by
  refine h.snoc _ fun obs known accepted => ?_
  cases known
  have same : InSequence filter earlier trace (.checkpoint i (checkpointCopy planId finalObs)) ↔
      earlier ++ deliveries filter trace = [] := by
    constructor
    · exact fun h => h _ rfl accepted
    · exact fun none obs _ _ => none
  rw [same]
  constructor
  · intro below
    rcases last with zero | member
    · refine List.eq_nil_iff_forall_not_mem.mpr fun o member => ?_
      have := below o member
      change o.seq < finalObs.seq at this
      omega
    · have delivered : finalObs ∈ deliveries filter trace := by
        rw [passes_checkpointCopy] at accepted
        exact List.mem_filter.mpr ⟨List.mem_filterMap.mpr ⟨_, member, rfl⟩, accepted⟩
      exact absurd (below finalObs (List.mem_append_right _ delivered)) (Nat.lt_irrefl _)
  · intro none
    rw [none]
    exact fun o member => absurd member List.not_mem_nil

end Deliveries

section Runs
variable {η : Type} {host : Host η} {filter : Option (List EventKind)} {earlier : List Observation}

/-- The deliveries are in sequence where the events are, and what is judged by was shown by the host. -/
structure Streamed (filter : Option (List EventKind)) (earlier : List Observation)
    (s : PlanRun η) : Prop where
  sequenced : Sequenced filter earlier s.trace
  last : s.finalObs.seq = 0 ∨ .observed (some s.finalObs) ∈ s.trace

theorem Streamed.more {s t : PlanRun η} (h : Streamed filter earlier s) (more : List PlanEvent)
    (other : ∀ event ∈ more, event.isCheckpoint = false) (trace : t.trace = s.trace ++ more)
    (last : t.finalObs = s.finalObs ∨ .observed (some t.finalObs) ∈ more) :
    Streamed filter earlier t := by
  constructor
  case sequenced =>
    rw [trace]
    exact h.sequenced.append other
  case last =>
    rw [trace, List.mem_append]
    rcases last with same | shown
    · rw [same]
      exact h.last.imp_right .inl
    · exact .inr (.inr shown)

theorem Streamed.drained {s : PlanRun η} (h : Streamed filter earlier s) (state : η)
    (predicates : PredicateEngine) (os : List Observation) {more : List PlanEvent}
    (other : ∀ event ∈ more, event.isCheckpoint = false) :
    Streamed filter earlier (s.drained state predicates os more) := by
  refine h.more (awaits os ++ more) ?_ (List.append_assoc ..) (.inl rfl)
  intro event member
  rcases List.mem_append.mp member with member | member
  · obtain ⟨o, -, rfl⟩ := List.mem_map.mp member
    rfl
  · exact other event member

theorem Streamed.waited {turns i : Nat} {step : PlanStep} {s w : PlanRun η} {ending : WaitEnd}
    (h : Streamed filter earlier s) (wait : Waited host turns i step s ending w) :
    Streamed filter earlier w := by
  cases wait with
  | free absent => exact h
  | waiting present drains unmatched long => exact h.drained _ _ _ (by simp)
  | closed present drains unmatched eof => exact h.drained _ _ _ (by simp [PlanEvent.isCheckpoint])
  | matched present drains unmatched answer met =>
    exact h.drained _ _ _ (by simp [PlanEvent.isCheckpoint])

theorem Streamed.performed {i : Nat} {action : Action} {w : PlanRun η}
    (h : Streamed filter earlier w) : Streamed filter earlier (w.performed host i action) :=
  h.more [.executed i (host.executeStep action w.host).1] (by simp [PlanEvent.isCheckpoint]) rfl
    (.inl rfl)

theorem Streamed.observed {w : PlanRun η} (h : Streamed filter earlier w) :
    Streamed filter earlier (w.observed host .observed) := by
  refine h.more [.observed (host.drainObservation w.host).1] (by simp [PlanEvent.isCheckpoint]) rfl ?_
  change (host.drainObservation w.host).1.getD w.finalObs = _ ∨
    PlanEvent.observed (some ((host.drainObservation w.host).1.getD w.finalObs)) ∈ _
  cases (host.drainObservation w.host).1 with
  | none => exact .inl rfl
  | some o => exact .inr (List.mem_singleton_self _)

theorem Streamed.judged {i : Nat} {verifyAfter : Option Predicate} {w : PlanRun η}
    (h : Streamed filter earlier w) : Streamed filter earlier (w.judged i verifyAfter) := by
  refine h.more _ ?_ (trace_judged ..) (.inl (finalObs_judged ..))
  intro event member
  obtain ⟨p, -, rfl⟩ := mem_verdict member
  rfl

theorem Streamed.recorded {i : Nat} {step : PlanStep} {result : ActionResult} {w : PlanRun η}
    (h : Streamed filter earlier w) : Streamed filter earlier (w.recorded i step result) :=
  h.more [.completed i result.landed] (by simp [PlanEvent.isCheckpoint]) rfl (.inl rfl)

theorem Streamed.checkpointed {plan : Plan} {planId : PlanId} {i : Nat} {w : PlanRun η}
    (h : Streamed filter earlier w) : Streamed filter earlier (w.checkpointed plan planId i) := by
  unfold PlanRun.checkpointed
  split
  case isFalse => exact h
  case isTrue =>
    exact ⟨h.sequenced.checkpoint h.last i, h.last.imp_right (List.mem_append_left _)⟩

theorem streamed_turn {plan : Plan} {planId : PlanId} {turns i : Nat} {step : PlanStep} {s : PlanRun η}
    {r : Outcome PlanStop Unit × PlanRun η} (h : Streamed filter earlier s)
    (turn : Turn host plan planId turns i step s r) :
    Method.Ends (fun _ => Streamed filter earlier) (fun _ => Streamed filter earlier) r := by
  cases turn with
  | waiting wait => exact h.waited wait
  | closed wait => exact h.waited wait
  | aborted wait said abort => exact (h.waited wait).performed
  | refused wait said abort =>
    exact (h.waited wait).performed.more [] (by simp) (List.append_nil _).symm (.inl rfl)
  | mismatched wait said verify rejected => exact (h.waited wait).performed.observed.judged
  | @done w result wait said accepted =>
    have done : Streamed filter earlier (w.done host plan planId i step result) :=
      (h.waited wait).performed.observed.judged.recorded.checkpointed
    split
    · exact done
    · exact done

end Runs

/- What this means for one subscriber. -/

theorem lookup_produce (e : StreamEngine) (obs : Observation) (id : Nat) :
    (e.produce fun _ => obs).2.subscribers.lookup id =
      (e.subscribers.lookup id).map fun sub => (sub.push obs).2 :=
  StreamEngine.lookup_mapSubscribers ..

theorem queue_publishAll {e : StreamEngine} {id : Nat} {sub : Subscriber}
    (known : e.subscribers.lookup id = some sub) (os : List Observation) :
    ((publishAll e os).subscribers.lookup id).map Subscriber.queue =
      some ((os.filter (passes sub.filter)).foldl (DropOldest.push subscriberQueueCap) sub.queue) := by
  induction os generalizing e sub with
  | nil =>
    change (e.subscribers.lookup id).map Subscriber.queue = _
    rw [known]
    rfl
  | cons obs rest ih =>
    have next : (e.produce fun _ => obs).2.subscribers.lookup id = some (sub.push obs).2 := by
      rw [lookup_produce, known, Option.map_some]
    have tail := ih next
    rw [Subscriber.filter_push] at tail
    refine tail.trans ?_
    rw [List.filter_cons]
    cases accepted : passes sub.filter obs with
    | false => rw [Subscriber.push_rejected accepted, if_neg Bool.false_ne_true]
    | true => rw [Subscriber.push_accepted accepted, if_pos rfl, List.foldl_cons]

section Execute
variable {η : Type} (host : Host η) (plan : Plan) (planId : PlanId) (turns : Nat)
  (predicateEngine : PredicateEngine) (streamEngine : StreamEngine) (state : η)

/-- A subscriber's queue takes in what a plan delivers to it. Together with what it was delivered earlier
this is in strictly increasing order if and only if all that the host shows it is, and no checkpoint
comes to it after anything else. -/
theorem deliveries_increasing_iff {id : Nat} {sub : Subscriber}
    (known : streamEngine.subscribers.lookup id = some sub) (earlier : List Observation) :
    let t := (execute host plan planId turns predicateEngine streamEngine state).2
    (t.streamEngine.subscribers.lookup id).map Subscriber.queue =
        some ((deliveries sub.filter t.trace).foldl (DropOldest.push subscriberQueueCap) sub.queue) ∧
      (Increasing (earlier ++ deliveries sub.filter t.trace) ↔
        Increasing earlier ∧ Trace.Upheld (InSequence sub.filter earlier) t.trace) := by
  intro t
  have initial : Streamed sub.filter earlier (PlanRun.start predicateEngine streamEngine state) := by
    refine ⟨?_, .inl rfl⟩
    change Increasing (earlier ++ []) ↔ _ ∧ Trace.Upheld _ []
    rw [List.append_nil]
    exact (and_iff_left Trace.upheld_nil).symm
  have ends : Method.Ends _ (fun _ => Streamed sub.filter earlier)
      (execute host plan planId turns predicateEngine streamEngine state) :=
    execute_ends host (fun _ => Streamed sub.filter earlier) initial
      fun i step s r _ streamed turn => streamed_turn streamed turn
  have last : Sequenced sub.filter earlier t.trace := by
    refine Method.Ends.state (P := fun s => Sequenced sub.filter earlier s.trace)
      (ends.mono ?_ fun e s streamed => streamed.sequenced)
    rintro answer s ⟨w, streamed, rfl, -⟩
    exact streamed.sequenced.shown (.finished _) rfl
  refine ⟨?_, last⟩
  rw [execute_carries host plan planId turns predicateEngine streamEngine state]
  exact queue_publishAll known _

end Execute

/-- A host that carries everything out and shows one observation, with the number 1. -/
def numberedHost : Host Bool where
  executeStep _ s := (.ok { ActionResult.blank with landed := true }, s)
  drainObservation
    | true => (some { Observation.initial with seq := 1 }, false)
    | false => (none, false)

def checkpointPlan : Plan where
  steps := [{ id := 0, action := .tap 0 0 0, waitBefore := none, verifyAfter := none, label := none }]
  abortOnError := true
  checkpointEvery := 1

def oneSubscriber : StreamEngine := (StreamEngine.new.subscribe 0 none).2

/-- The subscriber is delivered the number 1 twice. -/
theorem checkpoint_repeats_number :
    let t := (execute numberedHost checkpointPlan 1 0 .new oneSubscriber true).2
    (t.streamEngine.subscribers.lookup 1).map (fun sub => sub.queue.map Observation.seq) = some [1, 1] ∧
      ¬Increasing (deliveries none t.trace) := by
  refine ⟨rfl, fun increasing => ?_⟩
  exact Nat.lt_irrefl 1 ((List.pairwise_cons.mp increasing).1 _ (List.mem_singleton_self _))

theorem checkpoint_is_out_of_sequence :
    ¬Trace.Upheld (InSequence none [])
      (execute numberedHost checkpointPlan 1 0 .new oneSubscriber true).2.trace := by
  intro upheld
  have known : oneSubscriber.subscribers.lookup 1 = some (.new 1) := rfl
  have increasing := (deliveries_increasing_iff numberedHost checkpointPlan 1 0 .new oneSubscriber true
    known []).2.mpr ⟨List.Pairwise.nil, upheld⟩
  exact Nat.lt_irrefl 1 ((List.pairwise_cons.mp increasing).1 _ (List.mem_singleton_self _))

end HidConnect.Kernel
