import Mathlib.Data.List.AList
import HidConnect.Kernel.Observation
import HidConnect.Library.Run

/-! The working memory of a task, and what a restore makes of its deadline and of its time stamps. Instants
and durations are in nanoseconds. -/
namespace HidConnect.Kernel

def maxRecentAtomics : Nat := 20
def maxForegroundHistory : Nat := 10
def defaultDeadline : Nat := 5 * 60 * 1000000000

/-- `Duration::as_millis() as u64` -/
def asMillis (duration : Nat) : UInt64 := (duration / 1000000).toUInt64

/-- `Duration::from_millis` -/
def fromMillis (ms : UInt64) : Nat := ms.toNat * 1000000

structure TaskSpec where
  description : String
  timeout : Option Nat
  tags : List String

structure ChunkIndex where
  current : UInt32
  total : UInt32

structure AtomicRecord where
  id : ActionId
  atomic : Action
  result : ActionResult
  tsMs : UInt64

structure ResolvedTarget where
  selector : String
  nodeId : UInt32
  bounds : Int32 × Int32 × Int32 × Int32

/-- The fields of a session that are serialised. -/
structure SavedSession where
  task : TaskSpec
  scenarioProgress : ChunkIndex
  recentAtomics : List AtomicRecord
  selectorCache : AList fun _ : String => ResolvedTarget
  foregroundAppHistory : List ForegroundApp
  deadlineMsSinceEpoch : UInt64

structure SessionState extends SavedSession where
  sessionStart : Nat
  epochAnchor : Nat

namespace SessionState

/-- The deadline is taken from the clock and back to a duration. It panics where the clock cannot
represent it, and then there is no session. -/
def new (now : Nat) (task : TaskSpec) : SessionState where
  task
  scenarioProgress := { current := 0, total := 0 }
  recentAtomics := []
  selectorCache := ∅
  foregroundAppHistory := []
  deadlineMsSinceEpoch := asMillis (now + task.timeout.getD defaultDeadline - now)
  sessionStart := now
  epochAnchor := now

def withDeadline (now : Nat) (task : TaskSpec) (deadline : Nat) : SessionState where
  task
  scenarioProgress := { current := 0, total := 0 }
  recentAtomics := []
  selectorCache := ∅
  foregroundAppHistory := []
  deadlineMsSinceEpoch := if now ≤ deadline then asMillis (deadline - now) else 0
  sessionStart := now
  epochAnchor := now

/-- `SessionState::default()` -/
def blank (now : Nat) : SessionState := new now { description := "", timeout := none, tags := [] }

def recordAtomic (s : SessionState) (now : Nat) (id : ActionId) (atomic : Action)
    (result : ActionResult) : SessionState :=
  let record : AtomicRecord := { id, atomic, result, tsMs := asMillis (now - s.sessionStart) }
  let kept := if maxRecentAtomics ≤ s.recentAtomics.length then s.recentAtomics.tail else s.recentAtomics
  { s with recentAtomics := kept ++ [record] }

def cacheSelector (s : SessionState) (selector : String) (target : ResolvedTarget) : SessionState :=
  { s with selectorCache := s.selectorCache.insert selector target }

def invalidateSelector (s : SessionState) (selector : String) : Bool × SessionState :=
  (decide (selector ∈ s.selectorCache), { s with selectorCache := s.selectorCache.erase selector })

def recordForegroundApp (s : SessionState) (app : ForegroundApp) : SessionState :=
  let kept :=
    if maxForegroundHistory ≤ s.foregroundAppHistory.length then s.foregroundAppHistory.tail
    else s.foregroundAppHistory
  { s with foregroundAppHistory := kept ++ [app] }

def expiresAt (s : SessionState) : Nat := s.epochAnchor + fromMillis s.deadlineMsSinceEpoch

def isExpired (s : SessionState) (now : Nat) : Bool := s.expiresAt < now

def remaining (s : SessionState) (now : Nat) : Nat := s.expiresAt - now

/-- `saturating_add(1)` -/
def advanceChunk (s : SessionState) : SessionState :=
  { s with scenarioProgress.current :=
    if s.scenarioProgress.current = UInt32.ofNat 4294967295 then s.scenarioProgress.current
    else s.scenarioProgress.current + 1 }

def setTotalChunks (s : SessionState) (total : UInt32) : SessionState :=
  { s with scenarioProgress.total := total }

end SessionState

/-- The fields that are not serialised are those of a default session of this moment. -/
def SavedSession.restore (saved : SavedSession) (now : Nat) : SessionState :=
  { SessionState.blank now with toSavedSession := saved }

/- Runs. -/

inductive SessionStart where
  | new (task : TaskSpec)
  | withDeadline (task : TaskSpec) (deadline : Nat)

def SessionStart.build (now : Nat) : SessionStart → SessionState
  | new task => .new now task
  | withDeadline task deadline => .withDeadline now task deadline

/-- A session and the clock. The code does not read the rest: the instant at which the session was built or
last restored, how long after such an instant it last recorded an atomic, and whether it was restored since
then. -/
structure SessionRun where
  now : Nat
  session : SessionState
  begun : Nat
  recordedAfter : Option Nat
  restored : Bool

inductive SessionOp where
  | wait (time : Nat)
  | recordAtomic (id : ActionId) (atomic : Action) (result : ActionResult)
  | cacheSelector (selector : String) (target : ResolvedTarget)
  | invalidateSelector (selector : String)
  | recordForegroundApp (app : ForegroundApp)
  | advanceChunk
  | setTotalChunks (total : UInt32)
  /-- The session is serialised, and goes on from there when it is restored after this time. -/
  | restore (later : Nat)

namespace SessionRun

def begin (start : SessionStart) (now : Nat) : SessionRun :=
  { now, session := start.build now, begun := now, recordedAfter := none, restored := false }

/-- The time since the session was built or last restored. -/
def life (s : SessionRun) : Nat := s.now - s.begun

def step (s : SessionRun) : SessionOp → SessionRun
  | .wait time => { s with now := s.now + time }
  | .recordAtomic id atomic result =>
    { s with
      session := s.session.recordAtomic s.now id atomic result
      recordedAfter := some s.life
      restored := false }
  | .cacheSelector selector target => { s with session := s.session.cacheSelector selector target }
  | .invalidateSelector selector => { s with session := (s.session.invalidateSelector selector).2 }
  | .recordForegroundApp app => { s with session := s.session.recordForegroundApp app }
  | .advanceChunk => { s with session := s.session.advanceChunk }
  | .setTotalChunks total => { s with session := s.session.setTotalChunks total }
  | .restore later =>
    { s with
      now := s.now + later
      session := s.session.toSavedSession.restore (s.now + later)
      begun := s.now + later
      restored := true }

/-- The session expires when the original one does, and says so. -/
structure SameDeadline (original : SessionState) (s : SessionRun) : Prop where
  expired : ∀ now, s.session.isExpired now = original.isExpired now
  remaining : ∀ now, s.session.remaining now = original.remaining now

/-- The time stamps of the records do not decrease. -/
def Chronological (s : SessionRun) : Prop :=
  s.session.recentAtomics.Pairwise fun before after => before.tsMs ≤ after.tsMs

/-- A session is restored at the very instant that it counts from. -/
def Prompt (s : SessionRun) : SessionOp → Prop
  | .restore later => s.now + later = s.session.epochAnchor
  | _ => True

/-- The first atomic after a restore comes as many milliseconds after it, or more, as the atomic before
came after the session was built or restored before that. -/
def InOrder (s : SessionRun) : SessionOp → Prop
  | .recordAtomic .. =>
    s.restored = true → ∀ before ∈ s.recordedAfter, before / 1000000 ≤ s.life / 1000000
  | _ => True

/-- The milliseconds to be recorded fit in a `u64`. -/
def InClock (s : SessionRun) : SessionOp → Prop
  | .recordAtomic .. => s.life / 1000000 < 2 ^ 64
  | _ => True

variable {s : SessionRun} {original : SessionState}

theorem sameDeadline_iff :
    SameDeadline original s ↔ s.session.expiresAt = original.expiresAt := by
  constructor
  · intro same
    exact same.remaining 0
  · intro same
    refine ⟨fun now => ?_, fun now => ?_⟩
    · rw [SessionState.isExpired, SessionState.isExpired, same]
    · rw [SessionState.remaining, SessionState.remaining, same]

/-- The deadline is counted from the same instant, and has not been changed. -/
structure Anchored (original : SessionState) (s : SessionRun) : Prop where
  anchor : s.session.epochAnchor = original.epochAnchor
  deadline : s.session.deadlineMsSinceEpoch = original.deadlineMsSinceEpoch

/-- The deadline is serialised and changed by nothing; the anchor is, by a restore. -/
theorem deadline_step (s : SessionRun) (op : SessionOp) :
    (s.step op).session.deadlineMsSinceEpoch = s.session.deadlineMsSinceEpoch := by
  cases op <;> rfl

theorem anchor_step (s : SessionRun) (op : SessionOp) :
    (s.step op).session.epochAnchor = s.session.epochAnchor ↔ s.Prompt op := by
  cases op with
  | restore later => exact Iff.rfl
  | _ => exact iff_of_true rfl trivial

theorem Anchored.step (h : Anchored original s) {op : SessionOp} (prompt : s.Prompt op) :
    Anchored original (s.step op) :=
  ⟨((anchor_step s op).mpr prompt).trans h.anchor, (deadline_step s op).trans h.deadline⟩

theorem Anchored.sameDeadline (h : Anchored original s) : SameDeadline original s := by
  rw [sameDeadline_iff, SessionState.expiresAt, SessionState.expiresAt, h.anchor, h.deadline]

theorem Anchored.not_step (h : Anchored original s) {op : SessionOp} (late : ¬s.Prompt op) :
    ¬SameDeadline original (s.step op) := by
  rw [sameDeadline_iff, SessionState.expiresAt, SessionState.expiresAt, deadline_step, h.deadline]
  intro same
  exact late ((anchor_step s op).mp ((Nat.add_right_cancel same).trans h.anchor.symm))

theorem same_deadline_iff (start : SessionStart) (now : Nat) (ops : List SessionOp) :
    (∀ n, SameDeadline (start.build now) (Run.after step (begin start now) (ops.take n))) ↔
      Run.Along step Prompt (begin start now) ops :=
  Run.always_iff (Anchored (start.build now)) (SameDeadline (start.build now))
    (fun _ h => h.sameDeadline) (fun _ _ h prompt => h.step prompt)
    (fun _ _ h late => h.not_step late) ⟨rfl, rfl⟩ ops

/- The time stamps. -/

theorem asMillis_le_iff {before after : Nat} (fits : before / 1000000 < 2 ^ 64)
    (fits' : after / 1000000 < 2 ^ 64) :
    asMillis before ≤ asMillis after ↔ before / 1000000 ≤ after / 1000000 := by
  unfold asMillis
  rw [UInt64.le_iff_toNat_le, Nat.toUInt64_eq, Nat.toUInt64_eq, UInt64.toNat_ofNat_of_lt' fits,
    UInt64.toNat_ofNat_of_lt' fits']

/-- The session counts from the instant at which it was built or last restored, and its last record is
stamped with the time since then. Until it is restored again that time only grows. -/
structure Stamped (s : SessionRun) : Prop where
  counts : s.session.sessionStart = s.begun
  started : s.begun ≤ s.now
  chronological : s.Chronological
  last : s.session.recentAtomics.getLast?.map AtomicRecord.tsMs = s.recordedAfter.map asMillis
  fits : ∀ before ∈ s.recordedAfter, before / 1000000 < 2 ^ 64
  grows : s.restored = false → ∀ before ∈ s.recordedAfter, before ≤ s.life

theorem getLast?_kept (records : List AtomicRecord) :
    (if maxRecentAtomics ≤ records.length then records.tail else records).getLast? =
      records.getLast? := by
  split
  · rename_i full
    unfold maxRecentAtomics at full
    rw [List.getLast?_tail, if_neg (by omega)]
  · rfl

theorem pairwise_concat_iff {records : List AtomicRecord}
    (ordered : records.Pairwise fun before after => before.tsMs ≤ after.tsMs) (record : AtomicRecord) :
    (records ++ [record]).Pairwise (fun before after => before.tsMs ≤ after.tsMs) ↔
      ∀ last ∈ records.getLast?, last.tsMs ≤ record.tsMs := by
  rw [List.pairwise_append]
  constructor
  · rintro ⟨-, -, below⟩ last isLast
    exact below last (List.mem_of_getLast? isLast) record (List.mem_singleton_self record)
  · intro below
    refine ⟨ordered, List.pairwise_singleton _ record, fun before member after new => ?_⟩
    obtain rfl := List.mem_singleton.mp new
    cases isLast : records.getLast? with
    | none =>
      rw [List.getLast?_eq_none_iff] at isLast
      rw [isLast] at member
      cases member
    | some last =>
      obtain ⟨front, rfl⟩ := List.getLast?_eq_some_iff.mp isLast
      rcases List.mem_append.mp member with early | same
      · have inOrder := (List.pairwise_append.mp ordered).2.2
        exact UInt64.le_trans (inOrder before early last (List.mem_singleton_self last))
          (below last isLast)
      · obtain rfl := List.mem_singleton.mp same
        exact below before isLast

theorem Stamped.kept (h : Stamped s) : (if maxRecentAtomics ≤ s.session.recentAtomics.length then
    s.session.recentAtomics.tail else s.session.recentAtomics).Pairwise
      fun before after => before.tsMs ≤ after.tsMs := by
  split
  · exact h.chronological.sublist (List.tail_sublist _)
  · exact h.chronological

theorem Stamped.last_le_iff (h : Stamped s) (fits : s.life / 1000000 < 2 ^ 64) :
    (∀ last ∈ s.session.recentAtomics.getLast?, last.tsMs ≤ asMillis s.life) ↔
      ∀ before ∈ s.recordedAfter, before / 1000000 ≤ s.life / 1000000 := by
  have last := h.last
  cases newest : s.session.recentAtomics.getLast? with
  | none =>
    rw [newest, Option.map_none] at last
    rw [Option.map_eq_none_iff.mp last.symm]
    exact iff_of_true (fun _ none => by cases none) (fun _ none => by cases none)
  | some record =>
    rw [newest, Option.map_some] at last
    obtain ⟨before, recorded, same⟩ := Option.map_eq_some_iff.mp last.symm
    have below := asMillis_le_iff (h.fits before recorded) fits
    rw [recorded]
    simp only [Option.mem_some_iff, forall_eq', ← same, below]

theorem chronological_record (h : Stamped s) (fits : s.life / 1000000 < 2 ^ 64) (id : ActionId)
    (atomic : Action) (result : ActionResult) :
    (s.step (.recordAtomic id atomic result)).Chronological ↔
      s.InOrder (.recordAtomic id atomic result) := by
  refine (pairwise_concat_iff h.kept _).trans ?_
  rw [getLast?_kept]
  change (∀ last ∈ s.session.recentAtomics.getLast?,
    last.tsMs ≤ asMillis (s.now - s.session.sessionStart)) ↔ _
  rw [h.counts]
  refine (h.last_le_iff fits).trans ?_
  cases again : s.restored with
  | true => exact ⟨fun below _ => below, fun inOrder => inOrder again⟩
  | false =>
    -- within one life the time since its start has only grown
    refine iff_of_true (fun before recorded => ?_) fun restored => ?_
    · exact Nat.div_le_div_right (h.grows again before recorded)
    · rw [again] at restored
      contradiction

theorem chronological_step (h : Stamped s) {op : SessionOp} (fits : s.InClock op) :
    (s.step op).Chronological ↔ s.InOrder op := by
  cases op with
  | recordAtomic id atomic result => exact chronological_record h fits id atomic result
  | _ => exact iff_of_true h.chronological trivial

theorem Stamped.step (h : Stamped s) {op : SessionOp} (fits : s.InClock op) (inOrder : s.InOrder op) :
    Stamped (s.step op) := by
  have ordered := (chronological_step h fits).mpr inOrder
  obtain ⟨counts, started, chronological, last, small, grows⟩ := h
  cases op with
  | wait time =>
    refine ⟨counts, Nat.le_add_right_of_le started, ordered, last, small, fun same before recorded => ?_⟩
    exact (grows same before recorded).trans (Nat.sub_le_sub_right (Nat.le_add_right _ time) _)
  | recordAtomic id atomic result =>
    refine ⟨counts, started, ordered, ?_, ?_, fun _ before recorded => ?_⟩
    · change (_ ++ [_]).getLast?.map AtomicRecord.tsMs = some (asMillis (s.now - s.begun))
      rw [List.getLast?_concat, ← counts]
      rfl
    · rintro before ⟨⟩
      exact fits
    · cases recorded
      exact Nat.le_refl _
  | restore later =>
    exact ⟨rfl, Nat.le_refl _, ordered, last, small, fun fresh => Bool.noConfusion fresh⟩
  | _ => exact ⟨counts, started, ordered, last, small, grows⟩

theorem stamped_begin (start : SessionStart) (now : Nat) : Stamped (begin start now) := by
  have none (cond : Nat → Prop) : ∀ before ∈ (begin start now).recordedAfter, cond before := by
    rintro before ⟨⟩
  cases start with
  | _ => exact ⟨rfl, Nat.le_refl _, List.Pairwise.nil, rfl, none _, fun _ => none _⟩

theorem chronological_iff (start : SessionStart) (now : Nat) (ops : List SessionOp)
    (inClock : Run.Along step InClock (begin start now) ops) :
    (∀ n, Chronological (Run.after step (begin start now) (ops.take n))) ↔
      Run.Along step InOrder (begin start now) ops :=
  Run.always_within_iff Stamped Chronological (fun _ h => h.chronological)
    (fun _ _ h fits inOrder => h.step fits inOrder)
    (fun _ _ h fits late ordered => late ((chronological_step h fits).mp ordered))
    (stamped_begin start now) inClock

/-- A session keeps its deadline all along exactly if it is only ever restored at the instant that it
counts from, and its time stamps are in order exactly if nothing is recorded sooner after a restore than
what was recorded last: without a restore they always are. -/
theorem session_restore_iff (start : SessionStart) (now : Nat) (ops : List SessionOp) :
    ((∀ n, SameDeadline (start.build now) (Run.after step (begin start now) (ops.take n))) ↔
      Run.Along step Prompt (begin start now) ops) ∧
    (Run.Along step InClock (begin start now) ops →
      ((∀ n, Chronological (Run.after step (begin start now) (ops.take n))) ↔
        Run.Along step InOrder (begin start now) ops)) :=
  ⟨same_deadline_iff start now ops, chronological_iff start now ops⟩

/-- An atomic a second after the start, and another a second after a restore. -/
def restoredLater : List SessionOp :=
  [.wait 1000000000, .recordAtomic 0 (.key 3 0) .blank, .restore 5, .wait 1000000000,
    .recordAtomic 1 (.key 3 0) .blank]

theorem restored_later_in_order :
    let start := begin (.withDeadline (SessionState.blank 0).task 9) 7
    Chronological (Run.after step start restoredLater) := by
  intro start
  have inClock : Run.Along step InClock start restoredLater := by
    refine ⟨trivial, ?_, trivial, trivial, ?_, trivial⟩ <;>
      · change _ / 1000000 < 2 ^ 64
        decide +kernel
  have inOrder : Run.Along step InOrder start restoredLater := by
    refine ⟨trivial, fun again => ?_, trivial, trivial, fun _ before recorded => ?_, trivial⟩
    · cases again
    · cases recorded
      decide +kernel
  exact ((session_restore_iff _ 7 restoredLater).2 inClock).mpr inOrder 5

/-- An atomic a second after the start, a restore, and another atomic. -/
def restoredSecond : List SessionOp :=
  [.wait 1000000000, .recordAtomic 0 (.key 3 0) .blank, .restore 0, .recordAtomic 1 (.key 3 0) .blank]

/-- The session has a second more than the one that was saved, and counts from zero again. -/
theorem restored_second_later :
    let built := SessionState.blank 0
    let s := Run.after step (begin (.new built.task) 0) restoredSecond
    built.isExpired 300500000000 = true ∧ s.session.isExpired 300500000000 = false ∧
      ¬SameDeadline built s ∧ s.session.recentAtomics.map AtomicRecord.tsMs = [1000, 0] ∧
      ¬s.Chronological := by
  intro built s
  have expired : built.isExpired 300500000000 = true := by decide +kernel
  have extended : s.session.isExpired 300500000000 = false := by decide +kernel
  have stamps : s.session.recentAtomics.map AtomicRecord.tsMs = [1000, 0] := by decide +kernel
  refine ⟨expired, extended, fun same => ?_, stamps, fun ordered => ?_⟩
  · have answer := same.expired 300500000000
    rw [expired, extended] at answer
    cases answer
  · have ordered := List.pairwise_map.mpr ordered
    rw [stamps] at ordered
    revert ordered
    decide

end SessionRun
end HidConnect.Kernel
