import HidConnect.Incoming
import HidConnect.Library.Run

/-! The newest frame summary of a device's stream: the thread that keeps it up to date, and what readers
on other threads get to see of it. -/
namespace HidConnect.Incoming
open Fallible

structure LatestFrameSummarySnapshot where
  version : UInt64
  summary : FrameSummary
  deriving DecidableEq

structure LatestFrameSummaryBoundary where
  version : UInt64
  deriving DecidableEq

def LatestFrameSummaryBoundary.accepts (boundary : LatestFrameSummaryBoundary)
    (snapshot : LatestFrameSummarySnapshot) : Bool :=
  snapshot.version > boundary.version

structure LatestFrameSummaryObservation where
  boundary : LatestFrameSummaryBoundary
  snapshot : Option LatestFrameSummarySnapshot
  deriving DecidableEq

namespace LatestFrameSummaryObservation

/-- The panic is a failed `debug_assert_eq!`. -/
def fromParts (boundary : LatestFrameSummaryBoundary) (snapshot : Option LatestFrameSummarySnapshot) :
    Outcome Empty LatestFrameSummaryObservation :=
  match snapshot with
  | some current =>
    if current.version = boundary.version then .ok { boundary, snapshot } else .panic
  | none => .ok { boundary, snapshot }

def accepts (observation : LatestFrameSummaryObservation) (snapshot : LatestFrameSummarySnapshot) :
    Bool :=
  observation.boundary.accepts snapshot

end LatestFrameSummaryObservation

structure DeviceReadError where
  kind : ErrorKind
  message : String
  deriving DecidableEq

def DeviceReadError.fromIoError (err : IoError) : DeviceReadError :=
  { kind := err.kind, message := err.message }

def DeviceReadError.toIoError (err : DeviceReadError) : IoError :=
  { kind := err.kind, message := err.message }

def saturatingAdd (a b : UInt64) : UInt64 := (min (a.toNat + b.toNat) (2 ^ 64 - 1)).toUInt64

theorem toNat_saturatingAdd (a b : UInt64) :
    (saturatingAdd a b).toNat = min (a.toNat + b.toNat) (2 ^ 64 - 1) :=
  UInt64.toNat_ofNat_of_lt' (Nat.lt_of_le_of_lt (Nat.min_le_right _ _) (by decide))

structure LatestFrameSummaryState where
  latest : Option LatestFrameSummarySnapshot
  version : UInt64
  terminalError : Option DeviceReadError
  deriving DecidableEq

/- Every method of a receiver is one look at the state, or one change of it, under its lock. -/
namespace LatestFrameSummaryState

def new : LatestFrameSummaryState := { latest := none, version := 0, terminalError := none }

def snapshot (s : LatestFrameSummaryState) : Option LatestFrameSummarySnapshot := s.latest

def observe (s : LatestFrameSummaryState) : Outcome Empty LatestFrameSummaryObservation :=
  LatestFrameSummaryObservation.fromParts { version := s.version } s.latest

def boundary (s : LatestFrameSummaryState) : LatestFrameSummaryBoundary := { version := s.version }

def snapshotAfterVersion (s : LatestFrameSummaryState) (afterVersion : UInt64) :
    Option LatestFrameSummarySnapshot :=
  if s.version > afterVersion then s.latest else none

def snapshotAfterBoundary (s : LatestFrameSummaryState) (boundary : LatestFrameSummaryBoundary) :
    Option LatestFrameSummarySnapshot :=
  s.snapshotAfterVersion boundary.version

def snapshotAfterObservation (s : LatestFrameSummaryState)
    (observation : LatestFrameSummaryObservation) : Option LatestFrameSummarySnapshot :=
  s.snapshotAfterBoundary observation.boundary

/-- One turn of the loop of a wait, which sleeps until the next change on `none`. -/
def waitMatching (s : LatestFrameSummaryState) (predicate : LatestFrameSummarySnapshot → Bool) :
    Option (Outcome IoError LatestFrameSummarySnapshot) :=
  match s.latest.filter predicate with
  | some snapshot => some (.ok snapshot)
  | none => s.terminalError.map fun err => .err err.toIoError

def waitMatchingTimeout (s : LatestFrameSummaryState) (expired : Bool)
    (predicate : LatestFrameSummarySnapshot → Bool) :
    Option (Outcome IoError LatestFrameSummarySnapshot) :=
  match s.waitMatching predicate with
  | some result => some result
  | none =>
    if expired then some (.err { kind := .timedOut, message := "latest frame summary timeout" })
    else none

/-- What `wait_next_matching` and `wait_next_matching_timeout` wait for. -/
def newer (afterVersion : UInt64) (predicate : LatestFrameSummarySnapshot → Bool)
    (snapshot : LatestFrameSummarySnapshot) : Bool :=
  snapshot.version > afterVersion && predicate snapshot

def waitNextMatching (s : LatestFrameSummaryState) (afterVersion : UInt64)
    (predicate : LatestFrameSummarySnapshot → Bool) :
    Option (Outcome IoError LatestFrameSummarySnapshot) :=
  s.waitMatching (newer afterVersion predicate)

def waitNextMatchingTimeout (s : LatestFrameSummaryState) (afterVersion : UInt64) (expired : Bool)
    (predicate : LatestFrameSummarySnapshot → Bool) :
    Option (Outcome IoError LatestFrameSummarySnapshot) :=
  s.waitMatchingTimeout expired (newer afterVersion predicate)

def storeSummary (s : LatestFrameSummaryState) (summary : FrameSummary) : LatestFrameSummaryState :=
  let version := saturatingAdd s.version 1
  { s with version, latest := some { version, summary } }

def storeTerminalError (s : LatestFrameSummaryState) (err : IoError) : LatestFrameSummaryState :=
  { s with terminalError := some (.fromIoError err) }

/-- The state after a history of stores: their number, and the last of them under that number. -/
structure Shows (s : LatestFrameSummaryState) (stored : List FrameSummary) : Prop where
  version : s.version.toNat = min stored.length (2 ^ 64 - 1)
  latest : s.latest = stored.getLast?.map fun summary => { version := s.version, summary }

theorem shows_new : new.Shows [] := ⟨rfl, rfl⟩

theorem Shows.unique {s t : LatestFrameSummaryState} {stored : List FrameSummary}
    (hs : s.Shows stored) (ht : t.Shows stored) : s.version = t.version ∧ s.latest = t.latest := by
  have same : s.version = t.version := UInt64.toNat_inj.mp (hs.version.trans ht.version.symm)
  exact ⟨same, by rw [hs.latest, ht.latest, same]⟩

theorem Shows.storeSummary {s : LatestFrameSummaryState} {stored : List FrameSummary}
    (h : s.Shows stored) (summary : FrameSummary) :
    (s.storeSummary summary).Shows (stored ++ [summary]) where
  version := by
    have count := toNat_saturatingAdd s.version 1
    rw [h.version, UInt64.toNat_one] at count
    rw [LatestFrameSummaryState.storeSummary, count, List.length_append, List.length_singleton]
    omega
  latest := by rw [List.getLast?_append, List.getLast?_singleton]; rfl

theorem Shows.storeTerminalError {s : LatestFrameSummaryState} {stored : List FrameSummary}
    (h : s.Shows stored) (err : IoError) : (s.storeTerminalError err).Shows stored :=
  ⟨h.version, h.latest⟩

section Reads
variable {s : LatestFrameSummaryState} {stored : List FrameSummary}

theorem Shows.version_eq (h : s.Shows stored) (below : stored.length < 2 ^ 64) :
    s.version.toNat = stored.length := by
  rw [h.version]
  omega

theorem Shows.snapshot_eq (h : s.Shows stored) {snapshot : LatestFrameSummarySnapshot}
    (current : s.snapshot = some snapshot) :
    snapshot.version = s.version ∧ stored.getLast? = some snapshot.summary := by
  rw [LatestFrameSummaryState.snapshot, h.latest, Option.map_eq_some_iff] at current
  obtain ⟨summary, last, rfl⟩ := current
  exact ⟨rfl, last⟩

theorem Shows.observe_eq (h : s.Shows stored) :
    s.observe = .ok { boundary := s.boundary, snapshot := s.snapshot } := by
  unfold observe LatestFrameSummaryObservation.fromParts
  cases current : s.latest with
  | none => rw [snapshot, current]; rfl
  | some snapshot =>
    have same := (h.snapshot_eq current).1
    simp only [if_pos same, LatestFrameSummaryState.snapshot, current]
    rfl

theorem Shows.after_iff (h : s.Shows stored) (below : stored.length < 2 ^ 64) (version : UInt64) :
    (s.snapshotAfterVersion version).isSome = true ↔ version < s.version := by
  unfold snapshotAfterVersion
  split
  case isTrue newer =>
    refine iff_of_true ?_ newer
    have positive : 0 < stored.length := by
      rw [← h.version_eq below]
      exact Nat.lt_of_le_of_lt (Nat.zero_le _) newer
    rw [h.latest, Option.isSome_map, List.getLast?_isSome]
    exact List.ne_nil_of_length_pos positive
  case isFalse older => exact iff_of_false Bool.false_ne_true older

theorem waitMatching_ok {predicate : LatestFrameSummarySnapshot → Bool}
    {snapshot : LatestFrameSummarySnapshot} (ended : s.waitMatching predicate = some (.ok snapshot)) :
    s.snapshot = some snapshot ∧ predicate snapshot = true := by
  unfold waitMatching at ended
  split at ended
  case h_1 current found =>
    cases ended
    exact Option.filter_eq_some_iff.mp found
  case h_2 =>
    obtain ⟨err, -, failed⟩ := Option.map_eq_some_iff.mp ended
    cases failed

theorem waitMatchingTimeout_ok {expired : Bool} {predicate : LatestFrameSummarySnapshot → Bool}
    {snapshot : LatestFrameSummarySnapshot}
    (ended : s.waitMatchingTimeout expired predicate = some (.ok snapshot)) :
    s.waitMatching predicate = some (.ok snapshot) := by
  unfold waitMatchingTimeout at ended
  split at ended
  case h_1 result first =>
    cases ended
    exact first
  case h_2 =>
    split at ended
    · cases ended
    · cases ended

theorem waitNextMatching_ok {afterVersion : UInt64} {predicate : LatestFrameSummarySnapshot → Bool}
    {snapshot : LatestFrameSummarySnapshot}
    (ended : s.waitNextMatching afterVersion predicate = some (.ok snapshot)) :
    s.snapshot = some snapshot ∧ afterVersion < snapshot.version ∧ predicate snapshot = true := by
  obtain ⟨current, accepted⟩ := waitMatching_ok ended
  rw [newer, Bool.and_eq_true, decide_eq_true_iff] at accepted
  exact ⟨current, accepted⟩

end Reads

end LatestFrameSummaryState

inductive PumpPoint where
  | checking
  | reading
  | storing (summary : FrameSummary)
  | failing (error : IoError)
  | returned

/-- `handles` counts the receivers that readers hold. `stored` is the history of what has been stored. -/
structure LatestFrameSummaryPump where
  inner : LatestFrameSummaryState
  handles : Nat
  point : PumpPoint
  reader : Reader IoError
  stored : List FrameSummary

/-- What may happen next: a step of the background thread, or a reader clones or drops its receiver. The
other calls of readers change nothing. -/
inductive PumpStep where
  | loop
  | clone
  | drop

namespace LatestFrameSummaryPump

def spawn (reader : Reader IoError) : LatestFrameSummaryPump :=
  { inner := .new, handles := 1, point := .checking, reader, stored := [] }

def strongCount (s : LatestFrameSummaryPump) : Nat := s.handles + 1

def isAbandoned (s : LatestFrameSummaryPump) : Bool := s.strongCount == 1

/-- A panic ends the thread. -/
def received (s : LatestFrameSummaryPump) :
    Outcome IoError DeviceEvent × Reader IoError → LatestFrameSummaryPump
  | (.ok (.frameSummary summary), reader) => { s with point := .storing summary, reader }
  | (.ok _, reader) => { s with point := .checking, reader }
  | (.err e, reader) => { s with point := .failing e, reader }
  | (.panic, reader) => { s with point := .returned, reader }

variable (utf8Error : List UInt8 → String)

/-- Reading takes no lock; each store is one turn under it. -/
def latestFrameSummaryLoop (s : LatestFrameSummaryPump) : LatestFrameSummaryPump :=
  match s.point with
  | .checking => { s with point := if s.isAbandoned then .returned else .reading }
  | .reading => s.received ((readDeviceEvent utf8Error).run s.reader)
  | .storing summary =>
    { s with
      point := .checking
      inner := s.inner.storeSummary summary
      stored := s.stored ++ [summary] }
  | .failing error => { s with point := .returned, inner := s.inner.storeTerminalError error }
  | .returned => s

def step (s : LatestFrameSummaryPump) : PumpStep → LatestFrameSummaryPump
  | .loop => s.latestFrameSummaryLoop utf8Error
  | .clone => if 0 < s.handles then { s with handles := s.handles + 1 } else s
  | .drop => { s with handles := s.handles - 1 }

end LatestFrameSummaryPump

end HidConnect.Incoming
