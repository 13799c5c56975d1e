import HidConnect.Incoming.Latest

/-! Readers never take an observation for a newer one, wherever the background thread has got to. -/
namespace HidConnect.Incoming
open Fallible

def summaryOf : Outcome IoError DeviceEvent → Option FrameSummary
  | .ok (.frameSummary summary) => some summary
  | _ => none

/-- A frame summary that is read but not stored yet. -/
def PumpPoint.pending : PumpPoint → List FrameSummary
  | storing summary => [summary]
  | _ => []

namespace LatestFrameSummaryPump

theorem received_eq (s : LatestFrameSummaryPump) (call : Outcome IoError DeviceEvent × Reader IoError) :
    ∃ point, s.received call = { s with point, reader := call.2 } ∧
      point.pending = (summaryOf call.1).toList := by
  obtain ⟨result, reader⟩ := call
  cases result with
  | ok event =>
    cases event with
    | frameSummary summary => exact ⟨_, rfl, rfl⟩
    | native message => exact ⟨_, rfl, rfl⟩
    | aiStats stats => exact ⟨_, rfl, rfl⟩
    | unknownEnvelope msgType payload => exact ⟨_, rfl, rfl⟩
  | err e => exact ⟨_, rfl, rfl⟩
  | panic => exact ⟨_, rfl, rfl⟩

section Runs
variable (utf8Error : List UInt8 → String)

/-- The events that have been read are the first ones of the stream; what has been stored are the frame
summaries among them. -/
structure Inv (stream : Reader IoError) (s : LatestFrameSummaryPump) : Prop where
  shows : s.inner.Shows s.stored
  streamed : ∃ n, (Reader.calls (readDeviceEvent utf8Error) n stream).2 = s.reader ∧
    s.stored ++ s.point.pending =
      (Reader.calls (readDeviceEvent utf8Error) n stream).1.filterMap summaryOf
  ended : s.inner.terminalError.isSome = true → s.point = .returned

theorem inv_spawn (stream : Reader IoError) : Inv utf8Error stream (spawn stream) where
  shows := LatestFrameSummaryState.shows_new
  streamed := ⟨0, rfl, rfl⟩
  ended := fun failed => absurd failed Bool.false_ne_true

variable {utf8Error}

theorem Inv.running {stream : Reader IoError} {s : LatestFrameSummaryPump}
    (h : Inv utf8Error stream s) (running : s.point ≠ .returned) :
    s.inner.terminalError.isSome = true → False :=
  fun failed => running (h.ended failed)

theorem Inv.loop {stream : Reader IoError} {s : LatestFrameSummaryPump} (h : Inv utf8Error stream s) :
    Inv utf8Error stream (s.latestFrameSummaryLoop utf8Error) := by
  obtain ⟨n, reader, frames⟩ := h.streamed
  unfold latestFrameSummaryLoop
  split
  case h_1 at_point =>
    have running := h.running (by simp [at_point])
    rw [at_point] at frames
    refine ⟨h.shows, ⟨n, reader, ?_⟩, fun failed => absurd failed running⟩
    rw [← frames]
    dsimp only
    split <;> rfl
  case h_2 at_point =>
    have running := h.running (by simp [at_point])
    obtain ⟨point, received, pending⟩ := s.received_eq ((readDeviceEvent utf8Error).run s.reader)
    rw [received]
    refine ⟨h.shows, ⟨n + 1, ?_, ?_⟩, fun failed => absurd failed running⟩
    · rw [Reader.calls_succ, reader]
    · rw [at_point] at frames
      rw [Reader.calls_succ, reader, List.filterMap_append, ← frames, pending]
      cases call : summaryOf ((readDeviceEvent utf8Error).run s.reader).1 with
      | none => simp [PumpPoint.pending, call]
      | some summary => simp [PumpPoint.pending, call]
  case h_3 summary at_point =>
    have running := h.running (by simp [at_point])
    rw [at_point] at frames
    refine ⟨h.shows.storeSummary summary, ⟨n, reader, ?_⟩, fun failed => absurd failed running⟩
    rw [← frames]
    exact List.append_nil _
  case h_4 error at_point =>
    rw [at_point] at frames
    exact ⟨h.shows.storeTerminalError error, ⟨n, reader, frames⟩, fun _ => rfl⟩
  case h_5 => exact h

theorem Inv.step {stream : Reader IoError} {s : LatestFrameSummaryPump} (h : Inv utf8Error stream s)
    (a : PumpStep) : Inv utf8Error stream (s.step utf8Error a) := by
  cases a with
  | loop => exact h.loop
  | clone =>
    unfold LatestFrameSummaryPump.step
    dsimp only
    split
    · exact ⟨h.shows, h.streamed, h.ended⟩
    · exact h
  | drop => exact ⟨h.shows, h.streamed, h.ended⟩

theorem inv_after (stream : Reader IoError) (steps : List PumpStep) :
    Inv utf8Error stream (Run.after (step utf8Error) (spawn stream) steps) :=
  Run.preserved (Inv utf8Error stream) (fun _ a h => h.step a) (inv_spawn utf8Error stream) steps

/- What later steps leave of an earlier state. -/

theorem stored_loop (s : LatestFrameSummaryPump) :
    s.stored <+: (s.latestFrameSummaryLoop utf8Error).stored := by
  unfold latestFrameSummaryLoop
  split
  case h_2 =>
    obtain ⟨point, received, -⟩ := s.received_eq ((readDeviceEvent utf8Error).run s.reader)
    exact congrArg LatestFrameSummaryPump.stored received ▸ List.prefix_rfl
  case h_3 summary _ => exact List.prefix_append s.stored [summary]
  all_goals exact List.prefix_rfl

theorem stored_step (s : LatestFrameSummaryPump) (a : PumpStep) :
    s.stored <+: (s.step utf8Error a).stored := by
  cases a with
  | loop => exact s.stored_loop
  | clone =>
    unfold step
    dsimp only
    split <;> exact List.prefix_rfl
  | drop => exact List.prefix_rfl

theorem stored_after (s : LatestFrameSummaryPump) (steps : List PumpStep) :
    s.stored <+: (Run.after (step utf8Error) s steps).stored :=
  Run.preserved (fun t : LatestFrameSummaryPump => s.stored <+: t.stored)
    (fun t a h => h.trans (t.stored_step a)) List.prefix_rfl steps

/-- Once the loop has returned, the thread and its history stand still. -/
structure Stopped (s t : LatestFrameSummaryPump) : Prop where
  point : t.point = .returned
  inner : t.inner = s.inner
  stored : t.stored = s.stored

theorem stopped_step {s t : LatestFrameSummaryPump} (h : Stopped s t) (a : PumpStep) :
    Stopped s (t.step utf8Error a) := by
  cases a with
  | loop =>
    unfold step latestFrameSummaryLoop
    simp only [h.point]
    exact h
  | clone =>
    unfold step
    dsimp only
    split
    · exact ⟨h.point, h.inner, h.stored⟩
    · exact h
  | drop => exact ⟨h.point, h.inner, h.stored⟩

theorem stopped_after {s : LatestFrameSummaryPump} (returned : s.point = .returned)
    (steps : List PumpStep) : Stopped s (Run.after (step utf8Error) s steps) :=
  Run.preserved (Stopped s) (fun _ a h => stopped_step h a) ⟨returned, rfl, rfl⟩ steps

/- The results. -/

/-- At any moment the version counts the frames that have been stored, and a snapshot is the last of
them under its number. -/
structure Consistent (utf8Error : List UInt8 → String) (stream : Reader IoError)
    (s : LatestFrameSummaryPump) : Prop where
  counts : s.inner.version.toNat = s.stored.length
  streamed : ∃ n, s.stored ++ s.point.pending =
    (Reader.calls (readDeviceEvent utf8Error) n stream).1.filterMap summaryOf
  matched : ∀ snapshot, s.inner.snapshot = some snapshot →
    snapshot.version = s.inner.version ∧ s.stored.getLast? = some snapshot.summary
  newer : ∀ version, (s.inner.snapshotAfterVersion version).isSome = true ↔ version < s.inner.version
  waited : ∀ version predicate snapshot,
    s.inner.waitNextMatching version predicate = some (.ok snapshot) →
      s.inner.snapshot = some snapshot ∧ version < snapshot.version ∧ predicate snapshot = true
  timed : ∀ version expired predicate snapshot,
    s.inner.waitNextMatchingTimeout version expired predicate = some (.ok snapshot) →
      s.inner.waitNextMatching version predicate = some (.ok snapshot)

/-- An observation rejects what was current when it was made, and accepts what is current later
exactly if a frame has been stored since. -/
def ObservesUntil (s t : LatestFrameSummaryPump) : Prop :=
  ∃ observation, s.inner.observe = .ok observation ∧
    observation.snapshot = s.inner.snapshot ∧
    (∀ snapshot, s.inner.snapshot = some snapshot → observation.accepts snapshot = false) ∧
    (∀ snapshot, t.inner.snapshot = some snapshot →
      (observation.accepts snapshot = true ↔ s.stored.length < t.stored.length)) ∧
    ((t.inner.snapshotAfterObservation observation).isSome = true ↔
      s.stored.length < t.stored.length)

theorem Inv.consistent {stream : Reader IoError} {s : LatestFrameSummaryPump}
    (h : Inv utf8Error stream s) (below : s.stored.length < 2 ^ 64) : s.Consistent utf8Error stream where
  counts := h.shows.version_eq below
  streamed := h.streamed.imp fun _ same => same.2
  matched := fun _ => h.shows.snapshot_eq
  newer := h.shows.after_iff below
  waited := fun _ _ _ => LatestFrameSummaryState.waitNextMatching_ok
  timed := fun _ _ _ _ => LatestFrameSummaryState.waitMatchingTimeout_ok

theorem Consistent.observesUntil {stream : Reader IoError} {s t : LatestFrameSummaryPump}
    (h : s.inner.Shows s.stored) (hs : s.Consistent utf8Error stream)
    (ht : t.Consistent utf8Error stream) : s.ObservesUntil t := by
  have order : s.inner.version < t.inner.version ↔ s.stored.length < t.stored.length := by
    rw [UInt64.lt_iff_toNat_lt, hs.counts, ht.counts]
  refine ⟨_, h.observe_eq, rfl, fun snapshot current => ?_, fun snapshot current => ?_, ?_⟩
  · refine decide_eq_false ?_
    rw [(hs.matched snapshot current).1]
    exact UInt64.lt_irrefl s.inner.version
  · rw [← order, ← (ht.matched snapshot current).1]
    exact decide_eq_true_iff
  · exact (ht.newer s.inner.version).trans order

/-- Two moments of one run: what readers get is consistent at both, an observation made at the first is
never taken for a newer one, only a store changes what they get, and nothing does after a terminal
error. -/
theorem latest_frames_stay_fresh (utf8Error : List UInt8 → String) (stream : Reader IoError)
    (steps more : List PumpStep)
    (below : (Run.after (step utf8Error) (spawn stream) (steps ++ more)).stored.length < 2 ^ 64) :
    let s := Run.after (step utf8Error) (spawn stream) steps
    let t := Run.after (step utf8Error) s more
    s.Consistent utf8Error stream ∧ t.Consistent utf8Error stream ∧ s.ObservesUntil t ∧
      (t.stored = s.stored →
        t.inner.version = s.inner.version ∧ t.inner.snapshot = s.inner.snapshot) ∧
      (s.inner.terminalError.isSome = true → t.inner = s.inner ∧ t.stored = s.stored) := by
  intro s t
  have invS : Inv utf8Error stream s := inv_after stream steps
  have invT : Inv utf8Error stream t :=
    Run.preserved (Inv utf8Error stream) (fun _ a h => h.step a) invS more
  rw [Run.after_append] at below
  have consistentT : t.Consistent utf8Error stream := invT.consistent below
  have consistentS : s.Consistent utf8Error stream :=
    invS.consistent (Nat.lt_of_le_of_lt (s.stored_after more).length_le below)
  refine ⟨consistentS, consistentT, consistentS.observesUntil invS.shows consistentT, ?_, ?_⟩
  · intro same
    exact invT.shows.unique (same ▸ invS.shows)
  · intro failed
    have stopped : Stopped s t := stopped_after (invS.ended failed) more
    exact ⟨stopped.inner, stopped.stored⟩

end Runs

def twoFrames : Reader IoError where
  bytes :=
    let frame (seq : UInt32) : FrameSummary := {
      timestampMs := 100, frameSeq := seq, width := 1000, height := 2000, flags := 1
      features := [], motion := [], objects := [], textRegions := [] }
    envelope typeFrameSummary (frame 1).encode ++ (DeviceMessage.ackClipboard 7).encode ++
      envelope typeFrameSummary (frame 2).encode
  closing := cursorEnd

theorem latest_frames_stay_fresh_two :
    let s := Run.after (step fun _ => "invalid utf-8") (spawn twoFrames) (.replicate 3 .loop)
    let t := Run.after (step fun _ => "invalid utf-8") s (.replicate 8 .loop)
    s.stored.length = 1 ∧ t.stored.length = 2 ∧ t.inner.terminalError.isSome = true ∧
      s.ObservesUntil t := by
  intro s t
  have both := latest_frames_stay_fresh (fun _ => "invalid utf-8") twoFrames (.replicate 3 .loop)
    (.replicate 8 .loop) (by decide +kernel)
  exact ⟨by decide +kernel, by decide +kernel, by decide +kernel, both.2.2.1⟩

end LatestFrameSummaryPump

end HidConnect.Incoming
