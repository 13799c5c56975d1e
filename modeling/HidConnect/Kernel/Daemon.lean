import HidConnect.Kernel.MemorySqlite
import HidConnect.Kernel.PlanExecutor
import HidConnect.Kernel.State
import HidConnect.Kvs
import HidConnect.Library.Reader

/-! The daemon: what it does for a request of a host. -/
namespace HidConnect.Kernel
open Fallible

/- What the daemon reads off a screen. -/

/-- `str::lines`: what stands behind the last line break is a line if it is not empty, and only there a
carriage return stays. -/
def lines (s : List Char) : List (List Char) :=
  let parts := s.splitOn '\n'
  (parts.dropLast.map fun line => if line.getLast? = some '\r' then line.dropLast else line) ++
    (parts.getLast?.filter fun line => !line.isEmpty).toList

/-- `str::split_whitespace` -/
def splitWhitespace (s : List Char) : List (List Char) :=
  (s.splitOnP Kvs.isWhitespace).filter fun word => !word.isEmpty

/-- `str::strip_prefix` -/
def withoutPrefix (pattern s : List Char) : Option (List Char) :=
  if pattern <+: s then some (s.drop pattern.length) else none

def parseFocusedApp (dumpsysOutput : String) : Option String :=
  (lines dumpsysOutput.toList).findSome? fun line =>
    ((withoutPrefix "mFocusedApp=".toList (Kvs.trimStart line)).bind fun rest =>
      (splitWhitespace rest)[2]?).map String.ofList

def pngMagic : List UInt8 := [0x89, 0x50, 0x4E, 0x47, 0x0D, 0x0A, 0x1A, 0x0A]

/-- The big-endian number in four of the bytes. -/
def beAt (bytes : List UInt8) (offset : Nat) : Nat := Bytes.ofBe ((bytes.drop offset).take 4)

def readPngDimensions (bytes : List UInt8) : Option (UInt16 × UInt16) :=
  if bytes.length < 24 then none
  else if bytes.take 8 ≠ pngMagic then none
  else if beAt bytes 8 ≠ 13 then none
  else if (bytes.drop 12).take 4 ≠ [0x49, 0x48, 0x44, 0x52] then none
  else if beAt bytes 16 < 2 ^ 16 ∧ beAt bytes 20 < 2 ^ 16 then
    some ((beAt bytes 16).toUInt16, (beAt bytes 20).toUInt16)
  else none

def checkPredicate (predicate : Predicate) (focusedApp : Option String) (dumpsysText : String) : Bool :=
  match predicate with
  | .activity component _ => focusedApp.any fun c => c == component
  | .textAppears text _ _ => decide (text.toList <:+: dumpsysText.toList)
  | .selectorMatches selector _ => decide (selector.toList <:+: dumpsysText.toList)
  | _ => true

def holdsOn (predicate : Predicate) (out : String) : Bool :=
  checkPredicate predicate (parseFocusedApp out) out

def predicateTimeoutMs : Predicate → Nat
  | .activity _ timeoutMs | .textAppears _ _ timeoutMs | .selectorMatches _ timeoutMs
  | .sceneStable _ timeoutMs | .a11yIdle _ timeoutMs | .eventFires _ timeoutMs => timeoutMs.toNat

/- Requests and replies. -/

inductive Request where
  | action (id : ActionId) (action : Action)
  | plan (id : PlanId) (plan : Plan)
  | observe (sinceSeq : Nat) (filter : List EventKind)
  | query (a11y frame state : Bool)
  | endOfStream

inductive Reply where
  | action (result : ActionResult)
  | plan (result : PlanResult)
  | observation (obs : Observation)
  | query (obs : Observation)
  | endOfStream (finalSeq : Nat)
  deriving DecidableEq

/-- A reply, and whether its frame is marked as a checkpoint. -/
structure ReplyFrame where
  reply : Reply
  isCheckpoint : Bool
  deriving DecidableEq

/-- An outcome of the bridge with the time it took, in milliseconds. -/
structure TimedOutcome extends BridgeOutcome where
  elapsed : Nat
  deriving DecidableEq

/-- What is outside the daemon, over whatever state it has: the device behind `adb`, the bridge to it,
the file, the socket and the clocks. -/
structure Phone (η : Type) where
  adbShell : String → η → Except String String × η
  adbScreencap : η → Except String (List UInt8) × η
  /-- `ensure_raw_injector`, whose error it is, and then `apply`. -/
  applyRaw : Action → η → Except String TimedOutcome × η
  /-- `ScreenId::from_focus` -/
  fromFocus : String → ScreenId
  /-- Whether `persist_screen` succeeds. -/
  persists : η → Bool × η
  send : ReplyFrame → η → Except IoError Unit × η
  uptimeMs : η → UInt64 × η
  /-- What the monotonic clock stands at, in milliseconds. -/
  time : η → Nat
  now : η → Nat × η
  sleep : Nat → η → η
  now_reads : ∀ e, time e ≤ (now e).1 ∧ (now e).1 ≤ time (now e).2
  shell_takes : ∀ command e, time e ≤ time (adbShell command e).2
  sleep_takes : ∀ ms e, time e + ms ≤ time (sleep ms e)

/-- What happens in the daemon. Nothing in the code reads it. -/
inductive DaemonEvent where
  | polled (out : String)
  | timedOut (index : Nat)
  | started (index : Nat)
  | bridged (action : Action) (answer : Except String TimedOutcome)
  | remembered (screenId : ScreenId) (action : Action)
  | recorded (id : ActionId) (result : ActionResult)
  /-- An action with its result, and the focused app that was parsed after it. -/
  | executed (action : Action) (result : ActionResult) (focus : Option String)
  | sent (frame : ReplyFrame)

/-- `obsSeq` is a `u64` in the source: the two agree up to 2^64 numbers. -/
structure Daemon (η : Type) where
  phone : η
  obsSeq : Nat
  state : StateModel
  stream : StreamEngine
  shared : Persistent
  trace : List DaemonEvent

abbrev Handling (η : Type) := Method IoError (Daemon η)

section Handlers
variable {η : Type} (phone : Phone η)

namespace Phone

def dumpsysCommand : String := "dumpsys window | grep -E 'mCurrentFocus|mFocusedApp'"

/-- `adb_shell(..).unwrap_or_default()` -/
def dumpsys (e : η) : String × η :=
  match phone.adbShell dumpsysCommand e with
  | (.ok out, e) => (out, e)
  | (.error _, e) => ("", e)

theorem dumpsys_takes (e : η) : phone.time e ≤ phone.time (phone.dumpsys e).2 := by
  have takes := phone.shell_takes dumpsysCommand e
  unfold dumpsys
  split <;> rename_i answer <;> rwa [answer] at takes

/-- Poll until the predicate holds, or until the time is up: whether it held, and what was read. -/
def pollUntil (p : Predicate) {pause : Nat} (positive : 0 < pause) (t0 cap : Nat) (e : η) :
    (Bool × List String) × η :=
  if (phone.now e).1 - t0 < cap then
    let out := phone.dumpsys (phone.now e).2
    if holdsOn p out.1 then ((true, [out.1]), out.2)
    else
      let rest := pollUntil p positive t0 cap (phone.sleep pause out.2)
      ((rest.1.1, out.1 :: rest.1.2), rest.2)
  else ((false, []), (phone.now e).2)
termination_by t0 + cap - phone.time e
decreasing_by
  have reads := phone.now_reads e
  have takes := phone.dumpsys_takes (phone.now e).2
  have pauses := phone.sleep_takes pause (phone.dumpsys (phone.now e).2).2
  omega

end Phone

namespace Daemon

def ask {α : Type} (f : η → α × η) : Handling η α :=
  ⟨fun s => (.ok (f s.phone).1, { s with phone := (f s.phone).2 })⟩

def log (event : DaemonEvent) : Handling η Unit :=
  .update fun s => { s with trace := s.trace ++ [event] }

def nextObsSeq : Handling η Nat :=
  ⟨fun s => (.ok (s.obsSeq + 1), { s with obsSeq := s.obsSeq + 1 })⟩

/-- `as u32` -/
def elapsedMs (start stop : Nat) : UInt32 := (stop - start).toUInt32

/- Execution. -/

def usesScrcpyBridge : Action → Bool
  | .tap .. | .swipe .. | .typeText .. | .key .. | .launch .. | .setClipboard .. | .gamepadFrame ..
  | .injectRaw .. => true
  | _ => false

def blankTruth : GroundTruth := ActionResult.blank.groundTruth

def viaShell (command : String) (sceneChange : F32) : Handling η (Bool × GroundTruth) := do
  match ← ask (phone.adbShell command) with
  | .ok _ => pure (true, { blankTruth with sceneChange })
  | .error _ => pure (false, blankTruth)

/-- `0.1`, `0.3` and `0.5` -/
def tenth : F32 := 0x3DCCCCCD
def threeTenths : F32 := 0x3E99999A
def half : F32 := 0x3F000000

def spaced (words : List String) : String := " ".intercalate words

/-- The arms of `execute_action`. Those of actions that use the bridge are not reached. -/
def perform : Action → Handling η (Bool × GroundTruth)
  | .tap x y _ => viaShell phone (spaced ["input tap", toString x, toString y]) threeTenths
  | .swipe x1 y1 x2 y2 durMs _ =>
    viaShell phone (spaced ["input swipe", toString x1, toString y1, toString x2, toString y2,
      toString durMs]) half
  | .key code _ => viaShell phone (spaced ["input keyevent", toString code]) 0
  | .typeText text _ =>
    if text.toList.all fun c => c.toNat < 128 then viaShell phone (spaced ["input text", text]) 0
    else pure (false, blankTruth)
  | .dumpObservation _ _ =>
    pure (true, { blankTruth with
      a11yDiff := [{ nodeId := 0, kind := .boundsChanged, newText := none, newVisible := none }]
      focus := some 0 })
  | .getUiRepr _ _ => pure (true, blankTruth)
  | .wait predicate _ => do
    let t0 ← ask phone.now
    let cap := min (predicateTimeoutMs predicate) 5000
    let satisfied ← ask (phone.pollUntil predicate (by decide : 0 < 100) t0 cap)
    pure (satisfied.1, { blankTruth with sceneChange := tenth })
  | .localizeText .. | .detectElement .. => pure (true, blankTruth)
  | .ground .. | .askVisual .. | .tapSelector .. => pure (false, blankTruth)
  | .launch .. | .setClipboard .. | .gamepadFrame .. | .injectRaw .. => .crash

/-- `BridgeOutcome::retryable` -/
def retryable (code : Option AtomicErrorCode) : Bool :=
  decide (code = some .timeout ∨ code = some .kernelError ∨ code = some .selectorMiss)

def executeRawBridgeAction (action : Action) (id : ActionId) : Handling η TimedOutcome := do
  let answer ← ask (phone.applyRaw action)
  log (.bridged action answer)
  match answer with
  | .ok outcome => pure { outcome with id }
  | .error reason => pure { BridgeOutcome.rejected id .kernelError reason with elapsed := 0 }

def actionResultFromBridge (outcome : TimedOutcome) : ActionResult :=
  { id := outcome.id
    landed := outcome.landed
    groundTruth := blankTruth
    elapsedMs := outcome.elapsed.toUInt32
    code := if outcome.landed then none else some (outcome.code.getD .kernelError)
    retryable := retryable outcome.code }

def recordSuccess (screenId : ScreenId) (action : Action) : Handling η Unit := do
  let persists ← ask phone.persists
  .update fun s => { s with shared := s.shared.recordSuccess screenId action persists }
  log (.remembered screenId action)

def recordActionResult (id : ActionId) (result : ActionResult) : Handling η Unit := do
  .update fun s => { s with state := s.state.recordActionResult id result }
  log (.recorded id result)

/-- What is done after an action that has landed. -/
def recordLanded (action : Action) (result : ActionResult) : Handling η (Option String) := do
  let out ← ask phone.dumpsys
  let focus := parseFocusedApp out
  match focus with
  | some f => recordSuccess phone (phone.fromFocus f) action
  | none => pure ()
  recordActionResult result.id result
  pure focus

def executeAction (action : Action) : Handling η ActionResult := do
  let start ← ask phone.now
  let seq ← nextObsSeq
  let actionId : ActionId := seq.toUInt64
  if usesScrcpyBridge action then
    let outcome ← executeRawBridgeAction phone action actionId
    let result := actionResultFromBridge outcome
    log (.executed action result none)
    pure result
  else
    let (landed, groundTruth) ← perform phone action
    let stop ← ask phone.now
    let result : ActionResult :=
      { ActionResult.blank with id := actionId, landed, groundTruth, elapsedMs := elapsedMs start stop }
    let focus ← if landed then recordLanded phone action result else pure none
    log (.executed action result focus)
    pure result

/- Observations. -/

def frameOf (seq : Nat) (png : List UInt8) : Option FrameSnapshot :=
  (readPngDimensions png).map fun size =>
    { width := size.1, height := size.2, codec := 1, isKeyframe := true, pts := seq.toUInt64
      sceneChangeScore := 0, png := none }

def buildObservation : Handling η Observation := do
  let seq ← nextObsSeq
  let out ← ask phone.dumpsys
  let png ← ask phone.adbScreencap
  let stateUptime ← ask phone.uptimeMs
  let timestampMs ← ask phone.uptimeMs
  let uptime ← ask phone.uptimeMs
  let obs : Observation :=
    { seq
      timestampMs
      a11y := some { windowId := some 0, topActivity := parseFocusedApp out, nodeCount := 0, json := out }
      frame := png.toOption.bind (frameOf seq)
      state := .unknown stateUptime
      events := [.uptime uptime]
      foregroundApp := none }
  .update fun s => { s with
    stream := (s.stream.produce fun _ => obs).2, state := s.state.recordObservation obs }
  pure obs

def writeReply (reply : Reply) (isCheckpoint : Bool) : Handling η Unit := do
  let answer ← ask (phone.send { reply, isCheckpoint })
  match answer with
  | .ok () => log (.sent { reply, isCheckpoint })
  | .error e => .fail e

/-- The filter of the request is not looked at, nor is the subscriber that is made for it. -/
def handleObserve (sinceSeq : Nat) (_filter : List EventKind) : Handling η Unit := do
  .update fun s => { s with stream := (s.stream.subscribe sinceSeq none).2 }
  let obs1 ← buildObservation phone
  writeReply phone (.observation obs1) false
  ask fun e => ((), phone.sleep 150 e)
  let obs2 ← buildObservation phone
  writeReply phone (.observation obs2) false
  writeReply phone (.endOfStream obs2.seq) false

/- Plans. -/

/-- The plan goes on after the time is up as it does where the predicate held. -/
def waitBeforeStep (index : Nat) (step : PlanStep) : Handling η Unit :=
  match step.waitBefore with
  | none => pure ()
  | some p => do
    let cap := min (predicateTimeoutMs p) 3000
    let t0 ← ask phone.now
    let (held, polls) ← ask (phone.pollUntil p (by decide : 0 < 80) t0 cap)
    .update fun s => { s with trace := s.trace ++ polls.map DaemonEvent.polled }
    if held then pure () else log (.timedOut index)

def verifyStep (step : PlanStep) : Handling η Bool :=
  match step.verifyAfter with
  | none => pure true
  | some p => do
    let out ← ask phone.dumpsys
    pure (holdsOn p out)

def stepRecord (index : Nat) (step : PlanStep) (result : ActionResult) (verified : Bool) : StepResult :=
  { stepId := step.id
    index := index.toUInt32
    actionResult := result
    landed := result.landed && verified
    error :=
      if result.landed && verified then none
      else if result.landed then some "verify_after failed"
      else some "action refused" }

def checkpointAfter (plan : Plan) (results : List StepResult) : Handling η Unit :=
  if 0 < plan.checkpointEvery ∧ results.length.toUInt32 % plan.checkpointEvery = 0 then do
    let obs ← buildObservation phone
    writeReply phone (.observation obs) true
  else pure ()

/-- The loop over the steps, with the results so far and whether all have landed. -/
def planLoop (plan : Plan) : Nat → List PlanStep → List StepResult → Bool →
    Handling η (List StepResult × Bool)
  | _, [], results, allLanded => pure (results, allLanded)
  | index, step :: rest, results, allLanded => do
    waitBeforeStep phone index step
    log (.started index)
    let result ← executeAction phone step.action
    let verified ← verifyStep phone step
    let stepResult := stepRecord index step result verified
    if !stepResult.landed && plan.abortOnError then pure (results ++ [stepResult], false)
    else do
      checkpointAfter phone plan (results ++ [stepResult])
      planLoop plan (index + 1) rest (results ++ [stepResult]) (allLanded && stepResult.landed)

def handlePlan (id : PlanId) (plan : Plan) : Handling η Unit := do
  let start ← ask phone.now
  let (steps, allLanded) ← planLoop phone plan 0 plan.steps [] true
  let stop ← ask phone.now
  let finalObservation ← buildObservation phone
  writeReply phone (.plan
    { planId := id
      steps
      finalObservation
      totalElapsedMs := elapsedMs start stop
      allLanded }) false

/-- The id of the request is not looked at. -/
def handleAction (_id : ActionId) (action : Action) : Handling η Unit := do
  let result ← executeAction phone action
  match action with
  | .getUiRepr .. =>
    let _ ← ask phone.dumpsys
    writeReply phone (.action result) false
  | _ => writeReply phone (.action result) false

def handleQuery (a11y frame state : Bool) : Handling η Unit := do
  let obs ← buildObservation phone
  writeReply phone (.query
    { Observation.initial with
      seq := obs.seq
      timestampMs := obs.timestampMs
      a11y := if a11y then obs.a11y else none
      frame := if frame then obs.frame else none
      state := if state then obs.state else .unknown 0 }) false

/-- `handle_connection`, behind `read_request`. -/
def handleConnection : Request → Handling η Unit
  | .action id action => handleAction phone id action
  | .plan id plan => handlePlan phone id plan
  | .observe sinceSeq filter => handleObserve phone sinceSeq filter
  | .query a11y frame state => handleQuery phone a11y frame state
  | .endOfStream => do
    let seq ← nextObsSeq
    writeReply phone (.endOfStream (seq - 1)) false

/-- An error of a handler ends its connection only. -/
def handle (s : Daemon η) (request : Request) : Daemon η :=
  ((handleConnection phone request).run s).2

/-- The daemon as it starts. -/
def new (phone : η) (shared : Persistent) : Daemon η :=
  { phone, obsSeq := 0, state := .new, stream := .new, shared, trace := [] }

end Daemon
end Handlers

end HidConnect.Kernel
