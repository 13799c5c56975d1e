import HidConnect.Kernel.Delivery
import HidConnect.Kernel.Execution

/-! Any number of handlers that build observations at the same time, step by step. -/
namespace HidConnect.Kernel
open Fallible

/-- What a handler reads off the device and the clock between taking a number and publishing. -/
structure Capture where
  out : String
  png : Except String (List UInt8)
  stateUptime : UInt64
  timestampMs : UInt64
  uptime : UInt64

def Capture.observation (c : Capture) (seq : Nat) : Observation where
  seq
  timestampMs := c.timestampMs
  a11y := some {
    windowId := some 0, topActivity := parseFocusedApp c.out, nodeCount := 0, json := c.out }
  frame := c.png.toOption.bind (Daemon.frameOf seq)
  state := .unknown c.stateUptime
  events := [.uptime c.uptime]
  foregroundApp := none

/-- Where in `build_observation` a handler is. -/
inductive Stage where
  | idle
  | numbered (seq : Nat)
  | captured (obs : Observation)
  | publishing

/-- The number that a handler has taken and not yet published. -/
def Stage.number : Stage → Option Nat
  | idle | publishing => none
  | numbered seq => some seq
  | captured obs => some obs.seq

/-- `obsSeq` is a `u64` in the source: the two agree up to 2^64 numbers. -/
structure Publishing where
  obsSeq : Nat
  stage : Nat → Stage
  /-- The handler that holds the lock of the stream, and what it is about to record. Both guards of
  `build_observation` are held until it returns. -/
  streamLock : Option (Nat × Observation)
  stream : StreamEngine
  state : StateModel
  /-- What has gone into the stream, and into the state model. Nothing in the code reads it. -/
  published : List Observation
  recorded : List Observation

inductive HandlerStep where
  | takeSeq (handler : Nat)
  | capture (handler : Nat) (read : Capture)
  | produce (handler : Nat)
  | record (handler : Nat)
  /-- A handler of an `Observe` request subscribes. -/
  | subscribe (sinceSeq : Nat) (filter : Option (List EventKind))
  /-- An action or the end of a stream takes a number of its own. -/
  | takeOther
  | recordActionResult (id : ActionId) (result : ActionResult)

namespace Publishing

def new : Publishing where
  obsSeq := 0
  stage _ := .idle
  streamLock := none
  stream := .new
  state := .new
  published := []
  recorded := []

/-- A step that a handler is not at, or that waits for a lock, changes nothing. -/
def step (s : Publishing) : HandlerStep → Publishing
  | .takeSeq handler =>
    match s.stage handler with
    | .idle => { s with
        obsSeq := s.obsSeq + 1
        stage := Function.update s.stage handler (.numbered (s.obsSeq + 1)) }
    | _ => s
  | .capture handler read =>
    match s.stage handler with
    | .numbered seq => { s with
        stage := Function.update s.stage handler (.captured (read.observation seq)) }
    | _ => s
  | .produce handler =>
    match s.streamLock, s.stage handler with
    | none, .captured obs => { s with
        streamLock := some (handler, obs)
        stage := Function.update s.stage handler .publishing
        stream := (s.stream.produce fun _ => obs).2
        published := s.published ++ [obs] }
    | _, _ => s
  | .record handler =>
    match s.streamLock with
    | some (holder, obs) =>
      if holder = handler then { s with
        streamLock := none
        stage := Function.update s.stage handler .idle
        state := s.state.recordObservation obs
        recorded := s.recorded ++ [obs] }
      else s
    | none => s
  | .subscribe sinceSeq filter =>
    match s.streamLock with
    | none => { s with stream := (s.stream.subscribe sinceSeq filter).2 }
    | some _ => s
  | .takeOther => { s with obsSeq := s.obsSeq + 1 }
  | .recordActionResult id result => { s with state := s.state.recordActionResult id result }

/-- A handler that nobody comes in between. -/
def building (handler : Nat) (read : Capture) : List HandlerStep :=
  [.takeSeq handler, .capture handler read, .produce handler, .record handler]

theorem after_building {s : Publishing} {handler : Nat} (idle : s.stage handler = .idle)
    (unlocked : s.streamLock = none) (read : Capture) :
    let obs := read.observation (s.obsSeq + 1)
    Run.after step s (building handler read) = { s with
      obsSeq := s.obsSeq + 1
      stream := (s.stream.produce fun _ => obs).2
      state := s.state.recordObservation obs
      published := s.published ++ [obs]
      recorded := s.recorded ++ [obs] } := by
  have same : Function.update s.stage handler .idle = s.stage := by rw [← idle, Function.update_eq_self]
  simp [building, Run.after, step, idle, unlocked, same]

/-- Its steps are what the daemon does. -/
theorem run_buildObservation {η : Type} (phone : Phone η) (d : Daemon η) :
    ∃ read e, ∀ {s : Publishing} {handler : Nat}, s.stage handler = .idle → s.streamLock = none →
      s.obsSeq = d.obsSeq → s.stream = d.stream → s.state = d.state →
      let s' := Run.after step s (building handler read)
      (Daemon.buildObservation phone).run d = (.ok (read.observation (d.obsSeq + 1)), { d with
        phone := e, obsSeq := s'.obsSeq, stream := s'.stream, state := s'.state }) := by
  let dumped := phone.dumpsys d.phone
  let shot := phone.adbScreencap dumped.2
  let first := phone.uptimeMs shot.2
  let second := phone.uptimeMs first.2
  let third := phone.uptimeMs second.2
  let read : Capture :=
    { out := dumped.1, png := shot.1, stateUptime := first.1, timestampMs := second.1
      uptime := third.1 }
  refine ⟨read, third.2, fun {s handler} idle unlocked seq stream state => ?_⟩
  rw [after_building idle unlocked, seq, stream, state]
  rfl

/-- What one step does, if it does anything. -/
inductive Moved (s : Publishing) : HandlerStep → Publishing → Prop where
  | waits (op : HandlerStep) : Moved s op s
  | takeSeq {handler : Nat} (idle : s.stage handler = .idle) :
      Moved s (.takeSeq handler) { s with
        obsSeq := s.obsSeq + 1
        stage := Function.update s.stage handler (.numbered (s.obsSeq + 1)) }
  | capture {handler seq : Nat} (read : Capture) (numbered : s.stage handler = .numbered seq) :
      Moved s (.capture handler read) { s with
        stage := Function.update s.stage handler (.captured (read.observation seq)) }
  | produce {handler : Nat} {obs : Observation} (unlocked : s.streamLock = none)
      (captured : s.stage handler = .captured obs) :
      Moved s (.produce handler) { s with
        streamLock := some (handler, obs)
        stage := Function.update s.stage handler .publishing
        stream := (s.stream.produce fun _ => obs).2
        published := s.published ++ [obs] }
  | record {handler : Nat} {obs : Observation} (held : s.streamLock = some (handler, obs)) :
      Moved s (.record handler) { s with
        streamLock := none
        stage := Function.update s.stage handler .idle
        state := s.state.recordObservation obs
        recorded := s.recorded ++ [obs] }
  | subscribe (sinceSeq : Nat) (filter : Option (List EventKind)) (unlocked : s.streamLock = none) :
      Moved s (.subscribe sinceSeq filter) { s with stream := (s.stream.subscribe sinceSeq filter).2 }
  | takeOther : Moved s .takeOther { s with obsSeq := s.obsSeq + 1 }
  | recordActionResult (id : ActionId) (result : ActionResult) :
      Moved s (.recordActionResult id result) { s with state := s.state.recordActionResult id result }

theorem moved (s : Publishing) (op : HandlerStep) : Moved s op (s.step op) := by
  cases op with
  | takeSeq handler =>
    unfold step
    dsimp only
    split
    case h_1 idle => exact .takeSeq idle
    case h_2 => exact .waits _
  | capture handler read =>
    unfold step
    dsimp only
    split
    case h_1 seq numbered => exact .capture read numbered
    case h_2 => exact .waits _
  | produce handler =>
    unfold step
    dsimp only
    split
    case h_1 obs unlocked captured => exact .produce unlocked captured
    case h_2 => exact .waits _
  | record handler =>
    unfold step
    dsimp only
    split
    case h_1 holder obs held =>
      split
      case isTrue same =>
        subst same
        exact .record held
      case isFalse => exact .waits _
    case h_2 => exact .waits _
  | subscribe sinceSeq filter =>
    unfold step
    dsimp only
    split
    case h_1 unlocked => exact .subscribe sinceSeq filter unlocked
    case h_2 => exact .waits _
  | takeOther => exact .takeOther
  | recordActionResult id result => exact .recordActionResult id result

/- Numbers. -/

/-- No number is taken twice. -/
structure Fresh (obsSeq : Nat) (stage : Nat → Stage) (published : List Observation) : Prop where
  taken : ∀ handler seq, (stage handler).number = some seq → seq ≤ obsSeq
  apart : ∀ handler other seq, (stage handler).number = some seq → (stage other).number = some seq →
    handler = other
  unpublished : ∀ handler seq, (stage handler).number = some seq → ∀ obs ∈ published, obs.seq ≠ seq
  counted : ∀ obs ∈ published, obs.seq ≤ obsSeq

namespace Fresh
variable {obsSeq : Nat} {stage : Nat → Stage} {published : List Observation}

theorem initial : Fresh 0 (fun _ => .idle) [] := by
  constructor <;> intro _ <;> simp [Stage.number]

theorem later (h : Fresh obsSeq stage published) : Fresh (obsSeq + 1) stage published where
  taken handler seq taken := Nat.le_succ_of_le (h.taken handler seq taken)
  apart := h.apart
  unpublished := h.unpublished
  counted obs known := Nat.le_succ_of_le (h.counted obs known)

theorem restage (h : Fresh obsSeq stage published) {handler : Nat} {next : Stage}
    (kept : ∀ seq, next.number = some seq → (stage handler).number = some seq) :
    Fresh obsSeq (Function.update stage handler next) published := by
  have before : ∀ other seq, (Function.update stage handler next other).number = some seq →
      (stage other).number = some seq := by
    intro other seq taken
    by_cases same : other = handler
    · subst same
      rw [Function.update_self] at taken
      exact kept seq taken
    · rwa [Function.update_of_ne same] at taken
  constructor
  case taken => exact fun other seq taken => h.taken other seq (before other seq taken)
  case apart =>
    intro one other seq first second
    exact h.apart one other seq (before one seq first) (before other seq second)
  case unpublished => exact fun other seq taken => h.unpublished other seq (before other seq taken)
  case counted => exact h.counted

theorem takeSeq (h : Fresh obsSeq stage published) (handler : Nat) :
    Fresh (obsSeq + 1) (Function.update stage handler (.numbered (obsSeq + 1))) published := by
  have either : ∀ other seq,
      (Function.update stage handler (.numbered (obsSeq + 1)) other).number = some seq →
        other = handler ∧ seq = obsSeq + 1 ∨ (stage other).number = some seq := by
    intro other seq taken
    by_cases same : other = handler
    · subst same
      rw [Function.update_self] at taken
      exact .inl ⟨rfl, (Option.some.inj taken).symm⟩
    · rw [Function.update_of_ne same] at taken
      exact .inr taken
  constructor
  case taken =>
    intro other seq taken
    rcases either other seq taken with ⟨-, rfl⟩ | before
    · exact Nat.le_refl _
    · exact Nat.le_succ_of_le (h.taken other seq before)
  case apart =>
    intro one other seq first second
    rcases either one seq first with ⟨rfl, new⟩ | before <;>
      rcases either other seq second with ⟨rfl, new'⟩ | before'
    · rfl
    · exact absurd (h.taken other seq before') (by omega)
    · exact absurd (h.taken one seq before) (by omega)
    · exact h.apart one other seq before before'
  case unpublished =>
    intro other seq taken obs known
    rcases either other seq taken with ⟨-, rfl⟩ | before
    · exact Nat.ne_of_lt (Nat.lt_succ_of_le (h.counted obs known))
    · exact h.unpublished other seq before obs known
  case counted => exact fun obs known => Nat.le_succ_of_le (h.counted obs known)

theorem produce (h : Fresh obsSeq stage published) {handler : Nat} {obs : Observation}
    (captured : stage handler = .captured obs) :
    Fresh obsSeq (Function.update stage handler .publishing) (published ++ [obs]) := by
  have taken : (stage handler).number = some obs.seq := by rw [captured, Stage.number]
  have rest : Fresh obsSeq (Function.update stage handler .publishing) published :=
    h.restage fun seq none => by cases none
  constructor
  case taken => exact rest.taken
  case apart => exact rest.apart
  case unpublished =>
    intro other seq still o known
    rw [List.mem_append, List.mem_singleton] at known
    rcases known with earlier | rfl
    · exact rest.unpublished other seq still o earlier
    · -- the number was that of this handler, which has none now
      rintro rfl
      by_cases same : other = handler
      · subst same
        rw [Function.update_self] at still
        cases still
      · rw [Function.update_of_ne same] at still
        exact same (h.apart other handler _ still taken)
  case counted =>
    intro o known
    rw [List.mem_append, List.mem_singleton] at known
    rcases known with earlier | rfl
    · exact h.counted o earlier
    · exact h.taken handler _ taken

end Fresh

/- Order. -/

/-- What observers of the daemon count on. -/
structure Ordered (s : Publishing) : Prop where
  history : Increasing s.stream.history
  queues : ∀ id sub, s.stream.subscribers.lookup id = some sub → Increasing sub.queue
  newest : ∀ obs ∈ s.recorded, ∃ last, s.state.lastObservation = some last ∧ obs.seq ≤ last.seq

/-- No handler publishes after one that took a later number. -/
def NotOvertaken (s : Publishing) : HandlerStep → Prop
  | .produce handler => s.streamLock = none → ∀ obs, s.stage handler = .captured obs →
      ∀ earlier ∈ s.published, earlier.seq ≤ obs.seq
  | _ => True

/-- Everything that the stream and the state model hold has been published. -/
structure Accounted (s : Publishing) : Prop where
  fresh : Fresh s.obsSeq s.stage s.published
  history : s.stream.history = s.published.foldl (DropOldest.push historyCap) []
  queues : ∀ id sub, s.stream.subscribers.lookup id = some sub → sub.queue.Sublist s.published
  recorded : s.published = s.recorded ++ (s.streamLock.map Prod.snd).toList
  last : s.state.lastObservation = s.recorded.getLast?

theorem history_sublist {s : Publishing} (h : s.Accounted) : s.stream.history.Sublist s.published := by
  have none : ([] : List Observation).length ≤ historyCap := Nat.zero_le _
  rw [h.history, DropOldest.foldl_push (by decide) none]
  exact List.drop_sublist _ _

theorem replayed_sublist (id : Nat) (filter : Option (List EventKind)) (history : List Observation)
    (sinceSeq : Nat) :
    (((Subscriber.new id).withFilter filter).replayFromHistory history sinceSeq).queue.Sublist
      history := by
  have none : ([] : List Observation).length ≤ subscriberQueueCap := Nat.zero_le _
  rw [Subscriber.queue_replay]
  change List.Sublist (List.foldl _ [] _) _
  rw [DropOldest.foldl_push (by decide) none]
  exact (List.drop_sublist _ _).trans List.filter_sublist

section Queues
variable {stream : StreamEngine} {published : List Observation}
  (h : ∀ id sub, stream.subscribers.lookup id = some sub → sub.queue.Sublist published)

include h in
theorem queues_produce (obs : Observation) (id : Nat) (sub : Subscriber)
    (known : (stream.produce fun _ => obs).2.subscribers.lookup id = some sub) :
    sub.queue.Sublist (published ++ [obs]) := by
  unfold StreamEngine.produce at known
  rw [StreamEngine.lookup_mapSubscribers, Option.map_eq_some_iff] at known
  obtain ⟨before, known, rfl⟩ := known
  cases accepted : before.accepts obs with
  | false =>
    rw [Subscriber.push_rejected accepted]
    exact (h id before known).trans (List.sublist_append_left _ _)
  | true =>
    rw [Subscriber.push_accepted accepted]
    exact DropOldest.push_sublist (h id before known) obs

include h in
theorem queues_subscribe (history : stream.history.Sublist published) (sinceSeq : Nat)
    (filter : Option (List EventKind)) (id : Nat) (sub : Subscriber)
    (known : (stream.subscribe sinceSeq filter).2.subscribers.lookup id = some sub) :
    sub.queue.Sublist published := by
  unfold StreamEngine.subscribe at known
  by_cases same : id = stream.nextSubscriberId
  · rw [same, AList.lookup_insert] at known
    obtain rfl := Option.some.inj known
    exact (replayed_sublist _ _ _ _).trans history
  · rw [AList.lookup_insert_ne same] at known
    exact h id sub known

end Queues

/-- Every step keeps the books, overtaken or not. -/
theorem Accounted.step {s : Publishing} (h : s.Accounted) (op : HandlerStep) :
    (s.step op).Accounted := by
  have moved := s.moved op
  generalize s.step op = s' at moved
  cases moved with
  | waits => exact h
  | takeSeq idle => exact { h with fresh := h.fresh.takeSeq _ }
  | takeOther => exact { h with fresh := h.fresh.later }
  | recordActionResult id result => exact { h with }
  | capture read numbered =>
    refine { h with fresh := h.fresh.restage fun seq same => ?_ }
    rw [numbered]
    exact same
  | @produce handler obs unlocked captured =>
    constructor
    case fresh => exact h.fresh.produce captured
    case history =>
      rw [List.foldl_append, ← h.history]
      rfl
    case queues => exact queues_produce h.queues obs
    case recorded =>
      have all := h.recorded
      rw [unlocked] at all
      simp [all]
    case last => exact h.last
  | @record handler obs held =>
    have all := h.recorded
    rw [held] at all
    constructor
    case fresh => exact h.fresh.restage fun seq none => by cases none
    case history => exact h.history
    case queues => exact h.queues
    case recorded => simp [all]
    case last =>
      rw [List.getLast?_concat]
      rfl
  | subscribe sinceSeq filter unlocked =>
    exact { h with queues := queues_subscribe h.queues (history_sublist h) sinceSeq filter }

theorem accounted_new : new.Accounted where
  fresh := .initial
  history := rfl
  queues id sub known := by cases known
  recorded := rfl
  last := rfl

theorem seq_le_last {first : List Observation} {last obs : Observation}
    (increasing : Increasing (first ++ [last])) (known : obs ∈ first ++ [last]) :
    obs.seq ≤ last.seq := by
  rw [List.mem_append, List.mem_singleton] at known
  rcases known with earlier | rfl
  · exact Nat.le_of_lt ((increasing_snoc.mp increasing).2 obs earlier)
  · exact Nat.le_refl _

/-- What has been published is in order, so whatever is kept of it is. -/
structure Sound (s : Publishing) : Prop extends s.Accounted where
  increasing : Increasing s.published

theorem Sound.ordered {s : Publishing} (h : s.Sound) : s.Ordered where
  history := h.increasing.sublist (history_sublist h.toAccounted)
  queues id sub known := h.increasing.sublist (h.queues id sub known)
  newest obs known := by
    have increasing := h.increasing
    rw [h.recorded] at increasing
    have before : Increasing s.recorded := increasing.sublist (List.sublist_append_left _ _)
    rcases List.eq_nil_or_concat' s.recorded with none | ⟨first, last, split⟩
    · rw [none] at known
      cases known
    · rw [split] at known before
      refine ⟨last, ?_, seq_le_last before known⟩
      rw [h.last, split, List.getLast?_concat]

theorem Sound.step {s : Publishing} (h : s.Sound) {op : HandlerStep} (turn : s.NotOvertaken op) :
    (s.step op).Sound := by
  constructor
  case toAccounted => exact h.toAccounted.step op
  case increasing =>
    have moved := s.moved op
    generalize s.step op = s' at moved
    cases moved with
    | @produce handler obs unlocked captured =>
      -- the number was taken once
      have taken : (s.stage handler).number = some obs.seq := by rw [captured, Stage.number]
      refine increasing_snoc.mpr ⟨h.increasing, fun earlier known => ?_⟩
      apply Nat.lt_of_le_of_ne (turn unlocked obs captured earlier known)
      exact h.fresh.unpublished handler obs.seq taken earlier known
    | _ => exact h.increasing

/-- The newest that was published stays in the history, in front of the one that is late. -/
theorem late_breaks_order {s : Publishing} (h : s.Sound) {op : HandlerStep} (late : ¬s.NotOvertaken op) :
    ¬(s.step op).Ordered := by
  cases op with
  | produce handler =>
    unfold NotOvertaken at late
    push Not at late
    obtain ⟨unlocked, obs, captured, earlier, known, later⟩ := late
    intro ordered
    have history := (h.toAccounted.step (.produce handler)).history
    have produced : (s.step (.produce handler)).published = s.published ++ [obs] := by
      simp [Publishing.step, unlocked, captured]
    rcases List.eq_nil_or_concat' s.published with none | ⟨first, last, split⟩
    · rw [none] at known
      cases known
    have increasing := h.increasing
    rw [split] at known increasing
    have above := seq_le_last increasing known
    have kept : [last, obs] <:+ (s.step (.produce handler)).stream.history := by
      rw [history, produced, split]
      apply DropOldest.suffix_foldl_push (by decide)
      · exact ⟨first, by simp⟩
      · change 2 ≤ historyCap
        decide
    have pair : Increasing ([last] ++ [obs]) := ordered.history.sublist kept.sublist
    have less := (increasing_snoc.mp pair).2 last (List.mem_singleton_self last)
    omega
  | _ => exact absurd trivial late

end Publishing

def unread : Capture :=
  { out := "", png := .error "adb spawn failed", stateUptime := 0, timestampMs := 0, uptime := 0 }

/-- The second handler publishes while the first one is still at the device. -/
theorem overtaken_observation_is_out_of_order :
    ¬∀ steps, (Run.after Publishing.step .new steps).Ordered := by
  intro always
  have ordered := always [.takeSeq 0, .takeSeq 1, .capture 1 unread, .produce 1, .record 1,
    .capture 0 unread, .produce 0, .record 0]
  have history : Increasing ([unread.observation 2] ++ [unread.observation 1]) := ordered.history
  have less := (increasing_snoc.mp history).2 _ (List.mem_singleton_self _)
  exact absurd less (by decide : ¬2 < 1)

/-- Observations are in order all along a run exactly if no handler ever publishes after one that took
a later number. -/
theorem observation_order_iff (steps : List HandlerStep) :
    (∀ n, (Run.after Publishing.step .new (steps.take n)).Ordered) ↔
      Run.Along Publishing.step Publishing.NotOvertaken .new steps :=
  Run.always_iff Publishing.Sound Publishing.Ordered (fun _ h => h.ordered)
    (fun _ _ h turn => h.step turn) (fun _ _ h late => Publishing.late_breaks_order h late)
    { toAccounted := Publishing.accounted_new, increasing := List.Pairwise.nil } steps

end HidConnect.Kernel
