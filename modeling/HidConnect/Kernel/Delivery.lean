import HidConnect.Kernel.Replay

/-! What each subscriber is delivered over a run of the stream: every observation that its filter
accepts is polled, still pending, or counted as dropped. -/
namespace HidConnect.Kernel

inductive StreamOp where
  | produce (obsFactory : Nat → Observation)
  | subscribe (sinceSeq : Nat) (filter : Option (List EventKind))
  | poll (handle : Nat)
  | unsubscribe (handle : Nat)

namespace StreamOp

/-- The observation carries the number that its factory is given. -/
def Honest : StreamOp → Prop
  | produce obsFactory => ∀ seq, (obsFactory seq).seq = seq
  | _ => True

/-- Polling or removing another subscriber does not concern this one. -/
def concerns (id : Nat) : StreamOp → Bool
  | poll handle | unsubscribe handle => handle == id
  | produce _ | subscribe _ _ => true

end StreamOp

namespace StreamEngine

def step (e : StreamEngine) : StreamOp → StreamEngine
  | .produce obsFactory => (e.produce obsFactory).2
  | .subscribe sinceSeq filter => (e.subscribe sinceSeq filter).2
  | .poll handle => (e.poll handle).2
  | .unsubscribe handle => (e.unsubscribe handle).2

theorem lookup_mapSubscribers (f : Subscriber → Subscriber) (subs : AList fun _ : Nat => Subscriber)
    (id : Nat) : (mapSubscribers f subs).lookup id = (subs.lookup id).map f := by
  unfold mapSubscribers AList.lookup
  dsimp only
  generalize subs.entries = entries
  induction entries with
  | nil => rfl
  | cons entry rest ih =>
    obtain ⟨key, sub⟩ := entry
    rw [List.map_cons]
    by_cases same : key = id
    · subst same
      rw [List.dlookup_cons_eq, List.dlookup_cons_eq, Option.map_some]
    · rw [List.dlookup_cons_ne _ _ (Ne.symm same), List.dlookup_cons_ne _ _ (Ne.symm same), ih]

theorem poll_eq (e : StreamEngine) (handle : Nat) :
    (e.poll handle).2.nextSeq = e.nextSeq ∧ (e.poll handle).2.history = e.history ∧
      (e.poll handle).2.nextSubscriberId = e.nextSubscriberId ∧
      ∀ id, (e.poll handle).2.subscribers.lookup id =
        if id = handle then (e.subscribers.lookup id).map fun sub => sub.poll.2
        else e.subscribers.lookup id := by
  unfold poll
  cases known : e.subscribers.lookup handle with
  | none =>
    refine ⟨rfl, rfl, rfl, fun id => ?_⟩
    by_cases same : id = handle
    · rw [if_pos same, same, known]
      rfl
    · rw [if_neg same]
  | some sub =>
    refine ⟨rfl, rfl, rfl, fun id => ?_⟩
    dsimp only
    split
    case isTrue same => rw [same, known, AList.lookup_insert, Option.map_some]
    case isFalse other => exact AList.lookup_insert_ne other

theorem polled_eq {e : StreamEngine} {handle : Nat} {sub : Subscriber}
    (known : e.subscribers.lookup handle = some sub) : (e.poll handle).1 = sub.poll.1 := by
  rw [poll, known]

end StreamEngine

/-- What a subscriber has been due since it subscribed, its replay included, and what it polled. -/
structure Account where
  accepted : List Observation
  polled : List Observation

/-- The engine, and an account for every subscriber, kept without looking at the queues. -/
structure Booked where
  engine : StreamEngine
  accounts : Nat → Account

namespace Booked

def new : Booked := { engine := .new, accounts := fun _ => { accepted := [], polled := [] } }

def change (accounts : Nat → Account) (id : Nat) (account : Account) : Nat → Account :=
  fun other => if other = id then account else accounts other

/-- An observation is due to the subscribers whose filter accepts it. -/
def due (subs : AList fun _ : Nat => Subscriber) (obs : Observation) (id : Nat) (account : Account) :
    Account :=
  match subs.lookup id with
  | none => account
  | some sub => if sub.accepts obs then { account with accepted := account.accepted ++ [obs] } else account

def step (b : Booked) (op : StreamOp) : Booked where
  engine := b.engine.step op
  accounts :=
    match op with
    | .produce obsFactory =>
      fun id => due b.engine.subscribers (obsFactory b.engine.nextSeq) id (b.accounts id)
    | .subscribe sinceSeq filter =>
      change b.accounts b.engine.nextSubscriberId
        { accepted := wanted b.engine.history sinceSeq filter, polled := [] }
    | .poll handle =>
      change b.accounts handle { b.accounts handle with
        polled := (b.accounts handle).polled ++ (b.engine.poll handle).1.toList }
    | .unsubscribe _ => b.accounts

def after (ops : List StreamOp) : Booked := Run.after step new ops

theorem engine_after (ops : List StreamOp) (b : Booked) :
    (Run.after step b ops).engine = Run.after StreamEngine.step b.engine ops := by
  induction ops generalizing b with
  | nil => rfl
  | cons op rest ih => exact ih (b.step op)

end Booked

def Increasing (observations : List Observation) : Prop :=
  observations.Pairwise fun a b => a.seq < b.seq

/-- The account explains the queue. -/
structure Account.Explains (account : Account) (nextSeq : Nat) (sub : Subscriber) : Prop where
  bounded : sub.queue.length ≤ subscriberQueueCap
  suffix : sub.queue <:+ account.accepted
  increasing : Increasing account.accepted
  below : ∀ obs ∈ account.accepted, obs.seq < nextSeq
  total : account.accepted.length = account.polled.length + sub.queue.length + sub.dropped
  ordered : (account.polled ++ sub.queue).Sublist account.accepted

theorem increasing_snoc {observations : List Observation} {obs : Observation} :
    Increasing (observations ++ [obs]) ↔ Increasing observations ∧ ∀ o ∈ observations, o.seq < obs.seq := by
  unfold Increasing
  rw [List.pairwise_append]
  simp

theorem Increasing.sublist {observations others : List Observation} (h : Increasing observations)
    (sub : others.Sublist observations) : Increasing others := List.Pairwise.sublist sub h

namespace Account.Explains
variable {account : Account} {limit : Nat} {sub : Subscriber}

theorem later (h : account.Explains limit sub) {limit' : Nat} (le : limit ≤ limit') :
    account.Explains limit' sub :=
  { h with below := fun obs known => Nat.lt_of_lt_of_le (h.below obs known) le }

theorem push (h : account.Explains limit sub) {obs : Observation} (accepted : sub.accepts obs = true)
    (newest : ∀ o ∈ account.accepted, o.seq < obs.seq) (below : obs.seq < limit) :
    { account with accepted := account.accepted ++ [obs] : Account }.Explains limit
      (sub.push obs).2 := by
  rw [Subscriber.push_accepted accepted]
  constructor
  case bounded => exact DropOldest.length_push_le (by decide) h.bounded obs
  case suffix => exact DropOldest.push_suffix h.suffix obs
  case increasing => exact increasing_snoc.mpr ⟨h.increasing, newest⟩
  case below =>
    intro o known
    rw [List.mem_append, List.mem_singleton] at known
    rcases known with earlier | rfl
    · exact h.below o earlier
    · exact below
  case total =>
    have account := DropOldest.length_push (by decide : 0 < subscriberQueueCap) sub.queue obs
    have total := h.total
    rw [List.length_append, List.length_singleton]
    dsimp only
    omega
  case ordered =>
    dsimp only
    unfold DropOldest.push
    rw [← List.append_assoc]
    refine List.Sublist.append ?_ (List.Sublist.refl _)
    split
    · exact ((List.Sublist.refl _).append (List.tail_sublist _)).trans h.ordered
    · exact h.ordered

theorem poll (h : account.Explains limit sub) :
    { account with polled := account.polled ++ sub.poll.1.toList : Account }.Explains limit
      sub.poll.2 := by
  unfold Subscriber.poll
  cases queue : sub.queue with
  | nil =>
    dsimp only [Option.toList]
    rw [List.append_nil]
    exact h
  | cons obs rest =>
    obtain ⟨bounded, suffix, increasing, below, total, ordered⟩ := h
    rw [queue] at bounded suffix total ordered
    dsimp only [Option.toList]
    refine ⟨Nat.le_of_succ_le bounded, (List.suffix_cons obs rest).trans suffix, increasing, below,
      ?_, ?_⟩
    · rw [total]
      simp only [List.length_append, List.length_cons, List.length_nil]
      omega
    · rwa [List.append_assoc, List.singleton_append]

theorem fresh (id : Nat) (filter : Option (List EventKind)) :
    { accepted := [], polled := [] : Account }.Explains limit
      ((Subscriber.new id).withFilter filter) where
  bounded := Nat.zero_le _
  suffix := List.suffix_rfl
  increasing := List.Pairwise.nil
  below _ known := absurd known List.not_mem_nil
  total := rfl
  ordered := List.Sublist.refl _

/-- A replay is the pushes of what it is asked for, one by one. -/
theorem replay (h : account.Explains limit sub) {history : List Observation} (sinceSeq : Nat)
    (increasing : Increasing (account.accepted ++ history)) (below : ∀ obs ∈ history, obs.seq < limit) :
    { account with accepted := account.accepted ++ wanted history sinceSeq sub.filter : Account }.Explains
      limit (sub.replayFromHistory history sinceSeq) := by
  unfold Subscriber.replayFromHistory wanted
  induction history generalizing account sub with
  | nil =>
    rw [List.filter_nil, List.append_nil]
    exact h
  | cons obs rest ih =>
    have below' : ∀ o ∈ rest, o.seq < limit := fun o known => below o (List.mem_cons_of_mem _ known)
    have skipped : Increasing (account.accepted ++ rest) :=
      increasing.sublist ((List.Sublist.refl _).append (List.sublist_cons_self _ _))
    rw [List.foldl_cons, List.filter_cons]
    cases later : decide (sinceSeq < obs.seq) with
    | false =>
      rw [if_neg (of_decide_eq_false later), Bool.false_and, if_neg Bool.false_ne_true]
      exact ih h skipped below'
    | true =>
      rw [if_pos (of_decide_eq_true later), Bool.true_and]
      cases accepted : passes sub.filter obs with
      | false =>
        rw [Subscriber.push_rejected accepted, if_neg Bool.false_ne_true]
        exact ih h skipped below'
      | true =>
        have newest : ∀ o ∈ account.accepted, o.seq < obs.seq := fun o known =>
          (List.pairwise_append.mp increasing).2.2 o known obs (List.mem_cons_self ..)
        have pushed := h.push accepted newest (below obs (List.mem_cons_self ..))
        have whole := ih pushed (by rwa [List.append_assoc]) below'
        rw [Subscriber.filter_push] at whole
        rw [if_pos rfl, ← List.singleton_append, ← List.append_assoc]
        exact whole

end Account.Explains

namespace Booked

/-- Every subscriber of the engine is explained by its account. -/
structure Sound (b : Booked) : Prop where
  increasing : Increasing b.engine.history
  below : ∀ obs ∈ b.engine.history, obs.seq < b.engine.nextSeq
  explained : ∀ id sub, b.engine.subscribers.lookup id = some sub →
    (b.accounts id).Explains b.engine.nextSeq sub

theorem new_sound : new.Sound where
  increasing := List.Pairwise.nil
  below obs known := absurd known List.not_mem_nil
  explained id sub found := absurd found (by simp [new, StreamEngine.new])

theorem Sound.produce {b : Booked} (h : b.Sound) {obsFactory : Nat → Observation}
    (honest : ∀ seq, (obsFactory seq).seq = seq) : (b.step (.produce obsFactory)).Sound := by
  have seq := honest b.engine.nextSeq
  have kept : (if historyCap ≤ b.engine.history.length then b.engine.history.tail
      else b.engine.history).Sublist b.engine.history := by
    split
    · exact List.tail_sublist _
    · exact List.Sublist.refl _
  constructor
  case increasing =>
    refine increasing_snoc.mpr ⟨h.increasing.sublist kept, fun o known => ?_⟩
    exact seq.symm ▸ h.below o (kept.subset known)
  case below =>
    intro o known
    rcases List.mem_append.mp known with earlier | last
    · exact Nat.lt_succ_of_lt (h.below o (kept.subset earlier))
    · rw [List.mem_singleton.mp last, seq]
      exact Nat.lt_succ_self _
  case explained =>
    intro id sub found
    rw [step, StreamEngine.step, StreamEngine.produce] at found
    dsimp only at found
    rw [StreamEngine.lookup_mapSubscribers, Option.map_eq_some_iff] at found
    obtain ⟨before, known, rfl⟩ := found
    have explained := (h.explained id before known).later (Nat.le_succ _)
    change (due b.engine.subscribers _ id (b.accounts id)).Explains (b.engine.nextSeq + 1) _
    rw [due, known]
    dsimp only
    cases accepted : before.accepts (obsFactory b.engine.nextSeq) with
    | false =>
      rw [Subscriber.push_rejected accepted, if_neg Bool.false_ne_true]
      exact explained
    | true =>
      rw [if_pos rfl]
      refine explained.push accepted (fun o known' => ?_) (seq.symm ▸ Nat.lt_succ_self _)
      rw [seq]
      exact (h.explained id before known).below o known'

theorem Sound.subscribe {b : Booked} (h : b.Sound) (sinceSeq : Nat) (filter : Option (List EventKind)) :
    (b.step (.subscribe sinceSeq filter)).Sound where
  increasing := h.increasing
  below := h.below
  explained := by
    intro id sub found
    change (change b.accounts b.engine.nextSubscriberId _ id).Explains b.engine.nextSeq sub
    unfold change
    split
    case isTrue same =>
      subst same
      cases (StreamEngine.lookup_subscribe b.engine sinceSeq filter).symm.trans found
      exact (Account.Explains.fresh b.engine.nextSubscriberId filter).replay sinceSeq h.increasing
        h.below
    case isFalse other =>
      rw [step, StreamEngine.step, StreamEngine.subscribe] at found
      dsimp only at found
      rw [AList.lookup_insert_ne other] at found
      exact h.explained id sub found

theorem Sound.poll {b : Booked} (h : b.Sound) (handle : Nat) : (b.step (.poll handle)).Sound := by
  obtain ⟨nextSeq, history, -, lookup⟩ := b.engine.poll_eq handle
  constructor
  case increasing =>
    change Increasing (b.engine.poll handle).2.history
    rw [history]
    exact h.increasing
  case below =>
    change ∀ obs ∈ (b.engine.poll handle).2.history, obs.seq < (b.engine.poll handle).2.nextSeq
    rw [history, nextSeq]
    exact h.below
  case explained =>
    intro id sub found
    change (change b.accounts handle _ id).Explains (b.engine.poll handle).2.nextSeq sub
    rw [nextSeq]
    have looked := (lookup id).symm.trans found
    unfold change
    split
    case isTrue same =>
      subst same
      rw [if_pos rfl, Option.map_eq_some_iff] at looked
      obtain ⟨before, known, rfl⟩ := looked
      rw [StreamEngine.polled_eq known]
      exact (h.explained id before known).poll
    case isFalse other =>
      rw [if_neg other] at looked
      exact h.explained id sub looked

theorem Sound.unsubscribe {b : Booked} (h : b.Sound) (handle : Nat) :
    (b.step (.unsubscribe handle)).Sound where
  increasing := h.increasing
  below := h.below
  explained := by
    intro id sub found
    have looked : (b.engine.subscribers.erase handle).lookup id = some sub := found
    by_cases same : id = handle
    · rw [same, AList.lookup_erase] at looked
      contradiction
    · rw [AList.lookup_erase_ne same] at looked
      exact h.explained id sub looked

theorem Sound.step {b : Booked} (h : b.Sound) {op : StreamOp} (honest : op.Honest) :
    (b.step op).Sound := by
  cases op with
  | produce obsFactory => exact h.produce honest
  | subscribe sinceSeq filter => exact h.subscribe sinceSeq filter
  | poll handle => exact h.poll handle
  | unsubscribe handle => exact h.unsubscribe handle

theorem Sound.after {b : Booked} (h : b.Sound) {ops : List StreamOp}
    (honest : ∀ op ∈ ops, op.Honest) : (Run.after Booked.step b ops).Sound := by
  induction ops generalizing b with
  | nil => exact h
  | cons op rest ih =>
    exact ih (h.step (honest op (List.mem_cons_self ..))) fun o ho =>
      honest o (List.mem_cons_of_mem _ ho)

end Booked

namespace StreamEngine

structure Alike (id : Nat) (e e' : StreamEngine) : Prop where
  nextSeq : e.nextSeq = e'.nextSeq
  history : e.history = e'.history
  nextSubscriberId : e.nextSubscriberId = e'.nextSubscriberId
  subscriber : e.subscribers.lookup id = e'.subscribers.lookup id

theorem Alike.step {id : Nat} {e e' : StreamEngine} (h : Alike id e e') (op : StreamOp) :
    Alike id (e.step op) (e'.step op) := by
  obtain ⟨nextSeq, history, nextSubscriberId, subscriber⟩ := h
  cases op with
  | produce obsFactory =>
    refine ⟨?_, ?_, nextSubscriberId, ?_⟩
    · simp only [StreamEngine.step, produce, nextSeq]
    · simp only [StreamEngine.step, produce, nextSeq, history]
    · simp only [StreamEngine.step, produce, lookup_mapSubscribers, nextSeq, subscriber]
  | subscribe sinceSeq filter =>
    refine ⟨nextSeq, history, ?_, ?_⟩
    · simp only [StreamEngine.step, subscribe, nextSubscriberId]
    · simp only [StreamEngine.step, subscribe, nextSubscriberId, history]
      by_cases same : id = e'.nextSubscriberId
      · rw [same, AList.lookup_insert, AList.lookup_insert]
      · rw [AList.lookup_insert_ne same, AList.lookup_insert_ne same, subscriber]
  | poll handle =>
    obtain ⟨seq, kept, ids, lookup⟩ := e.poll_eq handle
    obtain ⟨seq', kept', ids', lookup'⟩ := e'.poll_eq handle
    refine ⟨?_, ?_, ?_, ?_⟩
    · exact seq.trans (nextSeq.trans seq'.symm)
    · exact kept.trans (history.trans kept'.symm)
    · exact ids.trans (nextSubscriberId.trans ids'.symm)
    · change (e.poll handle).2.subscribers.lookup id = (e'.poll handle).2.subscribers.lookup id
      rw [lookup, lookup', subscriber]
  | unsubscribe handle =>
    refine ⟨nextSeq, history, nextSubscriberId, ?_⟩
    simp only [StreamEngine.step, unsubscribe]
    by_cases same : id = handle
    · rw [same, AList.lookup_erase, AList.lookup_erase]
    · rw [AList.lookup_erase_ne same, AList.lookup_erase_ne same, subscriber]

theorem alike_of_unconcerned {id : Nat} {op : StreamOp} (other : op.concerns id = false)
    (e : StreamEngine) : Alike id (e.step op) e := by
  cases op with
  | produce obsFactory => contradiction
  | subscribe sinceSeq filter => contradiction
  | poll handle =>
    have different : id ≠ handle := fun same => by simp [StreamOp.concerns, same] at other
    obtain ⟨seq, kept, ids, lookup⟩ := e.poll_eq handle
    refine ⟨seq, kept, ids, ?_⟩
    exact (lookup id).trans (if_neg different)
  | unsubscribe handle =>
    have different : id ≠ handle := fun same => by simp [StreamOp.concerns, same] at other
    exact ⟨rfl, rfl, rfl, AList.lookup_erase_ne different⟩

theorem Alike.trans {id : Nat} {e e' e'' : StreamEngine} (h : Alike id e e') (h' : Alike id e' e'') :
    Alike id e e'' :=
  ⟨h.nextSeq.trans h'.nextSeq, h.history.trans h'.history,
    h.nextSubscriberId.trans h'.nextSubscriberId, h.subscriber.trans h'.subscriber⟩

theorem alike_after {id : Nat} {e e' : StreamEngine} (h : Alike id e e') (ops : List StreamOp) :
    Alike id (Run.after step e ops) (Run.after step e' (ops.filter fun op => op.concerns id)) := by
  induction ops generalizing e e' with
  | nil => exact h
  | cons op rest ih =>
    rw [List.filter_cons]
    cases concerned : op.concerns id with
    | true =>
      rw [if_pos rfl]
      exact ih (h.step op)
    | false =>
      rw [if_neg Bool.false_ne_true]
      exact ih ((alike_of_unconcerned concerned e).trans h)

end StreamEngine

/-- Every queue is bounded and explained by its account, and is the same as if no other subscriber had
polled or left. -/
theorem subscriber_accounting (ops : List StreamOp) (honest : ∀ op ∈ ops, op.Honest) (id : Nat)
    (sub : Subscriber)
    (found : (Run.after StreamEngine.step .new ops).subscribers.lookup id = some sub) :
    sub.queue.length ≤ subscriberQueueCap ∧
    sub.queue <:+ ((Booked.after ops).accounts id).accepted ∧
    Increasing sub.queue ∧
    ((Booked.after ops).accounts id).accepted.length =
      ((Booked.after ops).accounts id).polled.length + sub.queue.length + sub.dropped ∧
    (((Booked.after ops).accounts id).polled ++ sub.queue).Sublist
      ((Booked.after ops).accounts id).accepted ∧
    (Run.after StreamEngine.step .new (ops.filter fun op => op.concerns id)).subscribers.lookup id =
      some sub := by
  have sound : (Booked.after ops).Sound := Booked.new_sound.after honest
  have engine : (Booked.after ops).engine = Run.after StreamEngine.step .new ops :=
    Booked.engine_after ops .new
  have explained := sound.explained id sub (by rw [engine]; exact found)
  have alike := StreamEngine.alike_after (⟨rfl, rfl, rfl, rfl⟩ : StreamEngine.Alike id .new .new) ops
  exact ⟨explained.bounded, explained.suffix, explained.increasing.sublist explained.suffix.sublist,
    explained.total, explained.ordered, alike.subscriber.symm.trans found⟩

def exchange : List StreamOp :=
  [.subscribe 0 none, .produce fun seq => { Observation.initial with seq },
    .produce fun seq => { Observation.initial with seq }, .poll 1]

theorem exchange_accounted : ∃ sub,
    (Run.after StreamEngine.step .new exchange).subscribers.lookup 1 = some sub ∧
      sub.queue.length = 1 ∧
      ((Booked.after exchange).accounts 1).accepted.length =
        ((Booked.after exchange).accounts 1).polled.length + sub.queue.length + sub.dropped := by
  have honest : ∀ op ∈ exchange, op.Honest := by
    intro op member
    simp only [exchange, List.mem_cons, List.not_mem_nil, or_false] at member
    rcases member with rfl | rfl | rfl | rfl
    · trivial
    · exact fun _ => rfl
    · exact fun _ => rfl
    · trivial
  exact ⟨_, rfl, rfl, (subscriber_accounting exchange honest 1 _ rfl).2.2.2.1⟩

end HidConnect.Kernel
