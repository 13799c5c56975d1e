import HidConnect.Kernel.Delivery

/-! A subscriber that lost observations and subscribes again behind the last one that it polled. -/
namespace HidConnect.Kernel

/- Observations in order. -/

theorem Increasing.split {observations : List Observation} (h : Increasing observations) (n : Nat) :
    (observations.filter fun obs => !decide (n < obs.seq)) ++
      (observations.filter fun obs => decide (n < obs.seq)) = observations := by
  induction observations with
  | nil => rfl
  | cons obs rest ih =>
    obtain ⟨first, later⟩ := List.pairwise_cons.mp h
    by_cases behind : n < obs.seq
    · have none : (rest.filter fun o => !decide (n < o.seq)) = [] := by
        apply List.filter_eq_nil_iff.mpr
        intro o known
        simp [Nat.lt_trans behind (first o known)]
      have all : (rest.filter fun o => decide (n < o.seq)) = rest := by
        apply List.filter_eq_self.mpr
        intro o known
        simp [Nat.lt_trans behind (first o known)]
      simp [behind, none, all]
    · simp [behind, ih later]

/-- Observations in order are known by which they are. -/
theorem Increasing.ext {xs ys : List Observation} (hx : Increasing xs) (hy : Increasing ys)
    (same : ∀ obs, obs ∈ xs ↔ obs ∈ ys) : xs = ys := by
  have distinct {zs : List Observation} (h : Increasing zs) : zs.Nodup := by
    apply List.Pairwise.imp _ h
    intro a b less same
    rw [same] at less
    exact Nat.lt_irrefl _ less
  have perm := (List.perm_ext_iff_of_nodup (distinct hx) (distinct hy)).mpr same
  exact perm.eq_of_pairwise (fun a b _ _ less more => absurd less (Nat.lt_asymm more)) hx hy

namespace Subscriber

theorem filter_poll (s : Subscriber) : s.poll.2.filter = s.filter := by
  unfold poll
  split <;> rfl

@[simp] theorem lastSeq_push (s : Subscriber) (obs : Observation) : (s.push obs).2.lastSeq = s.lastSeq := by
  cases accepted : s.accepts obs with
  | false => rw [push_rejected accepted]
  | true => rw [push_accepted accepted]

theorem filter_replay (s : Subscriber) (history : List Observation) (sinceSeq : Nat) :
    (s.replayFromHistory history sinceSeq).filter = s.filter := by
  unfold replayFromHistory
  induction history generalizing s with
  | nil => rfl
  | cons obs rest ih =>
    rw [List.foldl_cons, ih]
    split
    · exact filter_push s obs
    · rfl

theorem lastSeq_replay (s : Subscriber) (history : List Observation) (sinceSeq : Nat) :
    (s.replayFromHistory history sinceSeq).lastSeq = s.lastSeq := by
  unfold replayFromHistory
  induction history generalizing s with
  | nil => rfl
  | cons obs rest ih =>
    rw [List.foldl_cons, ih]
    split
    · exact lastSeq_push s obs
    · rfl

end Subscriber

namespace Booked

/-- The history is the last that was produced, and an account misses nothing of it behind the first
observation that is due. -/
structure Kept (b : Booked) : Prop where
  sound : b.Sound
  short : b.engine.history.length ≤ historyCap
  numbered : ∃ first, first + b.engine.history.length = b.engine.nextSeq ∧
    b.engine.history.map Observation.seq = List.range' first b.engine.history.length
  retained : ∀ id sub, b.engine.subscribers.lookup id = some sub →
    ∀ obs ∈ (b.accounts id).accepted, b.engine.nextSeq ≤ obs.seq + historyCap →
      obs ∈ b.engine.history
  due : ∀ id sub, b.engine.subscribers.lookup id = some sub →
    ∀ first ∈ (b.accounts id).accepted, ∀ obs ∈ b.engine.history, first.seq ≤ obs.seq →
      passes sub.filter obs = true → obs ∈ (b.accounts id).accepted
  passed : ∀ id sub, b.engine.subscribers.lookup id = some sub →
    ∀ obs ∈ (b.accounts id).accepted, passes sub.filter obs = true
  last : ∀ id sub, b.engine.subscribers.lookup id = some sub →
    sub.lastSeq = (b.accounts id).polled.getLast?.map Observation.seq

theorem new_kept : new.Kept where
  sound := new_sound
  short := Nat.zero_le _
  numbered := ⟨0, rfl, rfl⟩
  retained id sub found := absurd found (by simp [new, StreamEngine.new])
  due id sub found := absurd found (by simp [new, StreamEngine.new])
  passed id sub found := absurd found (by simp [new, StreamEngine.new])
  last id sub found := absurd found (by simp [new, StreamEngine.new])

theorem Kept.recent {b : Booked} (h : b.Kept) {obs : Observation} (known : obs ∈ b.engine.history) :
    b.engine.nextSeq ≤ obs.seq + historyCap := by
  obtain ⟨first, total, numbered⟩ := h.numbered
  have short := h.short
  have inside := List.mem_map_of_mem (f := Observation.seq) known
  rw [numbered, List.mem_range'_1] at inside
  omega

theorem Kept.mem_produce {b : Booked} (h : b.Kept) (obsFactory : Nat → Observation) (obs : Observation) :
    obs ∈ (b.step (.produce obsFactory)).engine.history ↔
      (obs ∈ b.engine.history ∧ b.engine.nextSeq < obs.seq + historyCap) ∨
        obs = obsFactory b.engine.nextSeq := by
  obtain ⟨first, total, numbered⟩ := h.numbered
  have short := h.short
  change obs ∈ (if historyCap ≤ b.engine.history.length then b.engine.history.tail
      else b.engine.history) ++ [obsFactory b.engine.nextSeq] ↔ _
  rw [List.mem_append, List.mem_singleton]
  apply or_congr_left
  split
  case isFalse room =>
    -- there is room, and nothing in the history is too old
    constructor
    · intro known
      have inside := List.mem_map_of_mem (f := Observation.seq) known
      rw [numbered, List.mem_range'_1] at inside
      exact ⟨known, by omega⟩
    · exact And.left
  case isTrue full =>
    cases history : b.engine.history with
    | nil => simp [history, historyCap] at full
    | cons oldest rest =>
      rw [history] at numbered total short full
      rw [List.length_cons, List.range'_succ, List.map_cons, List.cons.injEq] at numbered
      obtain ⟨start, numbered⟩ := numbered
      rw [List.length_cons] at total short full
      rw [List.tail_cons]
      constructor
      · intro known
        have inside := List.mem_map_of_mem (f := Observation.seq) known
        rw [numbered, List.mem_range'_1] at inside
        exact ⟨List.mem_cons_of_mem _ known, by omega⟩
      · rintro ⟨known, recent⟩
        rcases List.mem_cons.mp known with rfl | later
        · omega
        · exact later

theorem Kept.numbered_produce {b : Booked} (h : b.Kept) {obsFactory : Nat → Observation}
    (honest : ∀ seq, (obsFactory seq).seq = seq) : ∃ first,
      first + (b.step (.produce obsFactory)).engine.history.length =
        (b.step (.produce obsFactory)).engine.nextSeq ∧
      (b.step (.produce obsFactory)).engine.history.map Observation.seq =
        List.range' first (b.step (.produce obsFactory)).engine.history.length := by
  obtain ⟨first, total, numbered⟩ := h.numbered
  simp only [step, StreamEngine.step, StreamEngine.produce]
  split
  case isFalse room =>
    refine ⟨first, ?_, ?_⟩
    · rw [List.length_append, List.length_singleton]
      omega
    · rw [List.map_append, numbered, List.length_append, List.length_singleton, List.range'_concat]
      simp [honest, total]
  case isTrue full =>
    cases history : b.engine.history with
    | nil => simp [history, historyCap] at full
    | cons oldest rest =>
      rw [history] at numbered total
      rw [List.length_cons, List.range'_succ, List.map_cons, List.cons.injEq] at numbered
      rw [List.length_cons] at total
      refine ⟨first + 1, ?_, ?_⟩
      · rw [List.tail_cons, List.length_append, List.length_singleton]
        omega
      · rw [List.tail_cons, List.map_append, numbered.2, List.length_append, List.length_singleton,
          List.range'_concat]
        simp [honest, ← total]
        omega

theorem mem_due {subs : AList fun _ : Nat => Subscriber} {id : Nat} {sub : Subscriber}
    (known : subs.lookup id = some sub) (obs o : Observation) (account : Account) :
    o ∈ (due subs obs id account).accepted ↔
      o ∈ account.accepted ∨ o = obs ∧ passes sub.filter obs = true := by
  rw [due, known]
  dsimp only
  rw [Subscriber.accepts]
  cases passes sub.filter obs <;> simp

theorem polled_due (subs : AList fun _ : Nat => Subscriber) (obs : Observation) (id : Nat)
    (account : Account) : (due subs obs id account).polled = account.polled := by
  unfold due
  split
  · rfl
  · split <;> rfl

theorem Kept.produce {b : Booked} (h : b.Kept) {obsFactory : Nat → Observation}
    (honest : ∀ seq, (obsFactory seq).seq = seq) : (b.step (.produce obsFactory)).Kept := by
  have before {id : Nat} {sub : Subscriber}
      (found : (b.step (.produce obsFactory)).engine.subscribers.lookup id = some sub) :
      ∃ old, b.engine.subscribers.lookup id = some old ∧
        (old.push (obsFactory b.engine.nextSeq)).2 = sub := by
    simp only [step, StreamEngine.step, StreamEngine.produce] at found
    rw [StreamEngine.lookup_mapSubscribers, Option.map_eq_some_iff] at found
    exact found
  constructor
  case sound => exact h.sound.produce honest
  case short =>
    have short := h.short
    simp only [step, StreamEngine.step, StreamEngine.produce, List.length_append,
      List.length_singleton]
    split
    · rw [List.length_tail]
      unfold historyCap at *
      omega
    · omega
  case numbered => exact h.numbered_produce honest
  case retained =>
    intro id sub found obs due recent
    obtain ⟨old, known, -⟩ := before found
    rcases (mem_due known _ _ _).mp due with earlier | ⟨new, -⟩
    · have recent : b.engine.nextSeq + 1 ≤ obs.seq + historyCap := recent
      exact (h.mem_produce _ _).mpr (.inl ⟨h.retained id old known obs earlier (by omega), recent⟩)
    · exact (h.mem_produce _ _).mpr (.inr new)
  case due =>
    intro id sub found first firstDue obs inside later passed
    obtain ⟨old, known, rfl⟩ := before found
    rw [Subscriber.filter_push] at passed
    apply (mem_due known _ _ _).mpr
    rcases (h.mem_produce _ _).mp inside with ⟨earlier, -⟩ | rfl
    · left
      rcases (mem_due known _ _ _).mp firstDue with firstDue | ⟨rfl, -⟩
      · exact h.due id old known first firstDue obs earlier later passed
      · -- what is in the history is older than the new observation
        rw [honest] at later
        exact absurd later (Nat.not_le_of_lt (h.sound.below obs earlier))
    · exact .inr ⟨rfl, passed⟩
  case passed =>
    intro id sub found obs due
    obtain ⟨old, known, rfl⟩ := before found
    rw [Subscriber.filter_push]
    rcases (mem_due known _ _ _).mp due with earlier | ⟨rfl, passed⟩
    · exact h.passed id old known obs earlier
    · exact passed
  case last =>
    intro id sub found
    obtain ⟨old, known, rfl⟩ := before found
    rw [Subscriber.lastSeq_push]
    change _ = (Booked.due b.engine.subscribers _ id (b.accounts id)).polled.getLast?.map _
    rw [polled_due]
    exact h.last id old known

theorem mem_wanted {history : List Observation} {sinceSeq : Nat} {filter : Option (List EventKind)}
    {obs : Observation} : obs ∈ wanted history sinceSeq filter ↔
      obs ∈ history ∧ sinceSeq < obs.seq ∧ passes filter obs = true := by
  simp [wanted, List.mem_filter]

theorem Kept.subscribe {b : Booked} (h : b.Kept) (sinceSeq : Nat) (filter : Option (List EventKind)) :
    (b.step (.subscribe sinceSeq filter)).Kept := by
  -- the new subscriber is due what it is replayed, and the others are as before
  have cases {id : Nat} {sub : Subscriber}
      (found : (b.step (.subscribe sinceSeq filter)).engine.subscribers.lookup id = some sub) :
      ((b.step (.subscribe sinceSeq filter)).accounts id =
          { accepted := wanted b.engine.history sinceSeq filter, polled := [] } ∧
        sub.filter = filter ∧ sub.lastSeq = none) ∨
      ((b.step (.subscribe sinceSeq filter)).accounts id = b.accounts id ∧
        b.engine.subscribers.lookup id = some sub) := by
    by_cases same : id = b.engine.nextSubscriberId
    · left
      subst same
      cases (StreamEngine.lookup_subscribe b.engine sinceSeq filter).symm.trans found
      refine ⟨if_pos rfl, ?_, ?_⟩
      · rw [Subscriber.filter_replay]
        rfl
      · rw [Subscriber.lastSeq_replay]
        rfl
    · right
      refine ⟨if_neg same, ?_⟩
      simp only [step, StreamEngine.step, StreamEngine.subscribe] at found
      rwa [AList.lookup_insert_ne same] at found
  constructor
  case sound => exact h.sound.subscribe sinceSeq filter
  case short => exact h.short
  case numbered => exact h.numbered
  case retained =>
    intro id sub found obs due recent
    rcases cases found with ⟨account, -, -⟩ | ⟨account, known⟩
    · rw [account] at due
      exact (mem_wanted.mp due).1
    · rw [account] at due
      exact h.retained id sub known obs due recent
  case due =>
    intro id sub found first firstDue obs inside later passed
    rcases cases found with ⟨account, same, -⟩ | ⟨account, known⟩
    · rw [account] at firstDue ⊢
      rw [same] at passed
      exact mem_wanted.mpr ⟨inside, Nat.lt_of_lt_of_le (mem_wanted.mp firstDue).2.1 later, passed⟩
    · rw [account] at firstDue ⊢
      exact h.due id sub known first firstDue obs inside later passed
  case passed =>
    intro id sub found obs due
    rcases cases found with ⟨account, same, -⟩ | ⟨account, known⟩
    · rw [account] at due
      rw [same]
      exact (mem_wanted.mp due).2.2
    · rw [account] at due
      exact h.passed id sub known obs due
  case last =>
    intro id sub found
    rcases cases found with ⟨account, -, none⟩ | ⟨account, known⟩
    · rw [account, none]
      rfl
    · rw [account]
      exact h.last id sub known

theorem Kept.poll {b : Booked} (h : b.Kept) (handle : Nat) : (b.step (.poll handle)).Kept := by
  obtain ⟨nextSeq, history, -, lookup⟩ := b.engine.poll_eq handle
  have accepted (id : Nat) :
      ((b.step (.poll handle)).accounts id).accepted = (b.accounts id).accepted := by
    simp only [step, change]
    split
    case isTrue same => rw [same]
    case isFalse => rfl
  have before {id : Nat} {sub : Subscriber}
      (found : (b.step (.poll handle)).engine.subscribers.lookup id = some sub) :
      ∃ old, b.engine.subscribers.lookup id = some old ∧ sub.filter = old.filter := by
    have looked := (lookup id).symm.trans found
    split at looked
    · obtain ⟨old, known, rfl⟩ := Option.map_eq_some_iff.mp looked
      exact ⟨old, known, Subscriber.filter_poll old⟩
    · exact ⟨sub, looked, rfl⟩
  constructor
  case sound => exact h.sound.poll handle
  case short =>
    change (b.engine.poll handle).2.history.length ≤ _
    rw [history]
    exact h.short
  case numbered =>
    change ∃ first, first + (b.engine.poll handle).2.history.length = (b.engine.poll handle).2.nextSeq ∧
      (b.engine.poll handle).2.history.map Observation.seq = List.range' first
        (b.engine.poll handle).2.history.length
    rw [history, nextSeq]
    exact h.numbered
  case retained =>
    intro id sub found obs due recent
    obtain ⟨old, known, -⟩ := before found
    rw [accepted] at due
    change (b.engine.poll handle).2.nextSeq ≤ _ at recent
    change obs ∈ (b.engine.poll handle).2.history
    rw [nextSeq] at recent
    rw [history]
    exact h.retained id old known obs due recent
  case due =>
    intro id sub found first firstDue obs inside later passed
    obtain ⟨old, known, same⟩ := before found
    rw [accepted] at firstDue ⊢
    change obs ∈ (b.engine.poll handle).2.history at inside
    rw [history] at inside
    rw [same] at passed
    exact h.due id old known first firstDue obs inside later passed
  case passed =>
    intro id sub found obs due
    obtain ⟨old, known, same⟩ := before found
    rw [accepted] at due
    rw [same]
    exact h.passed id old known obs due
  case last =>
    intro id sub found
    have looked := (lookup id).symm.trans found
    simp only [step, change]
    split
    case isTrue same =>
      subst same
      rw [if_pos rfl] at looked
      obtain ⟨old, known, rfl⟩ := Option.map_eq_some_iff.mp looked
      rw [StreamEngine.polled_eq known]
      have last := h.last id old known
      unfold Subscriber.poll
      cases old.queue with
      | nil => simpa using last
      | cons obs rest => simp
    case isFalse other =>
      rw [if_neg other] at looked
      exact h.last id sub looked

theorem Kept.unsubscribe {b : Booked} (h : b.Kept) (handle : Nat) :
    (b.step (.unsubscribe handle)).Kept := by
  have before {id : Nat} {sub : Subscriber}
      (found : (b.step (.unsubscribe handle)).engine.subscribers.lookup id = some sub) :
      b.engine.subscribers.lookup id = some sub := by
    have looked : (b.engine.subscribers.erase handle).lookup id = some sub := found
    by_cases same : id = handle
    · rw [same, AList.lookup_erase] at looked
      contradiction
    · rwa [AList.lookup_erase_ne same] at looked
  exact {
    sound := h.sound.unsubscribe handle
    short := h.short
    numbered := h.numbered
    retained := fun id sub found => h.retained id sub (before found)
    due := fun id sub found => h.due id sub (before found)
    passed := fun id sub found => h.passed id sub (before found)
    last := fun id sub found => h.last id sub (before found) }

theorem Kept.step {b : Booked} (h : b.Kept) {op : StreamOp} (honest : op.Honest) :
    (b.step op).Kept := by
  cases op with
  | produce obsFactory => exact h.produce honest
  | subscribe sinceSeq filter => exact h.subscribe sinceSeq filter
  | poll handle => exact h.poll handle
  | unsubscribe handle => exact h.unsubscribe handle

theorem Kept.after {b : Booked} (h : b.Kept) {ops : List StreamOp} (honest : ∀ op ∈ ops, op.Honest) :
    (Run.after Booked.step b ops).Kept := by
  induction ops generalizing b with
  | nil => exact h
  | cons op rest ih =>
    exact ih (h.step (honest op (List.mem_cons_self ..))) fun o ho =>
      honest o (List.mem_cons_of_mem _ ho)

/-- What a subscriber is due behind an observation. -/
def missed (account : Account) (n : Nat) : List Observation :=
  account.accepted.filter fun obs => decide (n < obs.seq)

section
variable {b : Booked} {id : Nat} {sub : Subscriber} {n : Nat}

theorem Kept.behind (h : b.Kept) (found : b.engine.subscribers.lookup id = some sub)
    (last : sub.lastSeq = some n) : ∃ earlier obs,
      (b.accounts id).polled = earlier ++ [obs] ∧ obs.seq = n ∧ ∀ o ∈ earlier, o.seq < n := by
  have explained := h.sound.explained id sub found
  have polled := h.last id sub found
  rw [last] at polled
  obtain ⟨obs, final, rfl⟩ := Option.map_eq_some_iff.mp polled.symm
  obtain ⟨earlier, whole⟩ := List.getLast?_eq_some_iff.mp final
  refine ⟨earlier, obs, whole, rfl, ?_⟩
  have increasing := explained.increasing.sublist explained.ordered
  rw [whole] at increasing
  exact (increasing_snoc.mp (increasing.sublist (List.sublist_append_left _ _))).2

/-- A replay behind the last observation that was polled is asked for what was missed, as far as the
history goes back. -/
theorem Kept.wanted_eq (h : b.Kept) (found : b.engine.subscribers.lookup id = some sub)
    (last : sub.lastSeq = some n) :
    wanted b.engine.history n sub.filter =
      (missed (b.accounts id) n).filter fun obs =>
        decide (b.engine.nextSeq ≤ obs.seq + historyCap) := by
  have explained := h.sound.explained id sub found
  obtain ⟨earlier, newest, polled, rfl, -⟩ := h.behind found last
  have newestDue : newest ∈ (b.accounts id).accepted := by
    apply explained.ordered.subset
    simp [polled]
  apply Increasing.ext
  · exact h.sound.increasing.sublist List.filter_sublist
  · exact explained.increasing.sublist (List.filter_sublist.trans List.filter_sublist)
  intro obs
  rw [mem_wanted]
  simp only [missed, List.mem_filter, decide_eq_true_eq]
  constructor
  · rintro ⟨known, later, passed⟩
    have due := h.due id sub found newest newestDue obs known (Nat.le_of_lt later) passed
    exact ⟨⟨due, later⟩, h.recent known⟩
  · rintro ⟨⟨due, later⟩, recent⟩
    exact ⟨h.retained id sub found obs due recent, later, h.passed id sub found obs due⟩

theorem Kept.pending_missed (h : b.Kept) (found : b.engine.subscribers.lookup id = some sub)
    (last : sub.lastSeq = some n) : sub.queue <:+ missed (b.accounts id) n := by
  have explained := h.sound.explained id sub found
  obtain ⟨earlier, newest, polled, rfl, -⟩ := h.behind found last
  have pending : (sub.queue.filter fun obs => decide (newest.seq < obs.seq)) = sub.queue := by
    apply List.filter_eq_self.mpr
    intro obs known
    have increasing := explained.increasing.sublist explained.ordered
    have later := (List.pairwise_append.mp increasing).2.2 newest (by simp [polled]) obs known
    exact decide_eq_true later
  rw [← pending]
  exact explained.suffix.filter _

theorem Kept.resumed_ordered (h : b.Kept) (found : b.engine.subscribers.lookup id = some sub)
    (last : sub.lastSeq = some n) {queue : List Observation}
    (part : queue.Sublist (missed (b.accounts id) n)) :
    ((b.accounts id).polled ++ queue).Sublist (b.accounts id).accepted := by
  have explained := h.sound.explained id sub found
  obtain ⟨earlier, newest, polled, rfl, older⟩ := h.behind found last
  have upTo : ((b.accounts id).polled.filter fun obs => !decide (newest.seq < obs.seq)) =
      (b.accounts id).polled := by
    apply List.filter_eq_self.mpr
    intro obs known
    rw [polled, List.mem_append, List.mem_singleton] at known
    rcases known with known | rfl
    · simp [Nat.le_of_lt (older obs known)]
    · simp
  have whole := explained.increasing.split newest.seq
  rw [← whole]
  apply List.Sublist.append
  · rw [← upTo]
    exact ((List.sublist_append_left _ _).trans explained.ordered).filter _
  · exact part

end

end Booked

/-- A subscriber that subscribes again behind the last observation that it polled goes on from there
in order, and it loses nothing exactly where what it missed fits into a queue and none of it is older
than the history. -/
theorem reconnect_resumes (ops : List StreamOp) (honest : ∀ op ∈ ops, op.Honest) (id : Nat)
    (sub : Subscriber) (n : Nat)
    (found : (Run.after StreamEngine.step .new ops).subscribers.lookup id = some sub)
    (last : sub.lastSeq = some n) : ∃ queue,
    let engine := Run.after StreamEngine.step .new ops
    let account := (Booked.after ops).accounts id
    ((engine.subscribe n sub.filter).2.subscribers.lookup (engine.subscribe n sub.filter).1).map
        Subscriber.queue = some queue ∧
      (account.polled ++ queue).Sublist account.accepted ∧
      sub.queue <:+ Booked.missed account n ∧
      (queue = Booked.missed account n ↔
        (Booked.missed account n).length ≤ subscriberQueueCap ∧
          ∀ obs ∈ Booked.missed account n, engine.nextSeq ≤ obs.seq + historyCap) := by
  have kept : (Booked.after ops).Kept := Booked.new_kept.after honest
  have engine : (Booked.after ops).engine = Run.after StreamEngine.step .new ops :=
    Booked.engine_after ops .new
  rw [← engine] at found ⊢
  have queue := StreamEngine.queue_subscribe (Booked.after ops).engine n sub.filter
  rw [kept.wanted_eq found last] at queue
  have empty : ([] : List Observation).length ≤ subscriberQueueCap := Nat.zero_le _
  have newest := DropOldest.foldl_push (by decide : 0 < subscriberQueueCap) empty
    ((Booked.missed ((Booked.after ops).accounts id) n).filter fun obs =>
      decide ((Booked.after ops).engine.nextSeq ≤ obs.seq + historyCap))
  refine ⟨_, queue, ?_, kept.pending_missed found last, ?_⟩
  · apply kept.resumed_ordered found last
    rw [newest, List.nil_append, List.rtake]
    exact (List.drop_sublist _ _).trans List.filter_sublist
  · constructor
    · intro same
      rw [newest, List.nil_append, List.rtake] at same
      constructor
      · have length := congrArg List.length same
        rw [List.length_drop] at length
        omega
      · intro obs known
        rw [← same] at known
        exact of_decide_eq_true (List.mem_filter.mp (List.mem_of_mem_drop known)).2
    · rintro ⟨fits, recent⟩
      rw [List.filter_eq_self.mpr fun obs known => decide_eq_true (recent obs known)]
      exact (DropOldest.foldl_push_eq_iff (by decide) _).mpr fits

theorem exchange_resumes :
    (((Run.after StreamEngine.step .new exchange).subscribe 0 none).2.subscribers.lookup 2).map
        Subscriber.queue = some (Booked.missed ((Booked.after exchange).accounts 1) 0) ∧
      (Booked.missed ((Booked.after exchange).accounts 1) 0).map Observation.seq = [1] := by
  have honest : ∀ op ∈ exchange, op.Honest := by
    simp [exchange, StreamOp.Honest]
  obtain ⟨queue, found, -, -, whole⟩ := reconnect_resumes exchange honest 1 _ 0 rfl rfl
  have fits := whole.mpr ⟨by decide, by decide⟩
  exact ⟨found.trans (congrArg some fits), by decide⟩

end HidConnect.Kernel
