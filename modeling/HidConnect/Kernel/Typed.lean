import HidConnect.Kernel.Landed
import HidConnect.Kernel.TypeText
import HidConnect.Session.HostView

/-! What a host reads of the texts that the bridge types, whatever it is called for between them. -/
namespace HidConnect
open Fallible Method
open Kernel (Action)

/-- The characters that an action types: those of a text before the first that has no key. -/
def typedBy : Action → List Char
  | .typeText text _ => text.toList.takeWhile HidSession.supported
  | _ => []

theorem supported_typedBy {action : Action} : ∀ ch ∈ typedBy action, HidSession.supported ch = true := by
  cases action with
  | typeText text => exact fun _ typed => List.mem_takeWhile_imp typed
  | _ => exact List.forall_mem_nil _

theorem keysAfter_append (down : List UInt8) (xs ys : List KeyReport) :
    keysAfter down (xs ++ ys) = keysAfter (keysAfter down xs) ys := by
  induction xs generalizing down with
  | nil => rfl
  | cons report rest ih => exact ih report.keys

theorem keysAfter_text {chars : List Char} (all : ∀ ch ∈ chars, HidSession.supported ch = true) :
    keysAfter [] (textReports chars) = [] := by
  induction chars with
  | nil => rfl
  | cons ch rest ih =>
    obtain ⟨-, up⟩ := hostReads_char (all ch (List.mem_cons_self ..))
    rw [textReports, List.flatMap_cons, keysAfter_append, up, ← textReports]
    exact ih fun other known => all other (List.mem_cons_of_mem _ known)

theorem keeps_rejecting {α : Type} {R : HidSession → HidSession → Prop} (id : ActionId) {m : Session α}
    (h : Keeps R m) : Keeps R (rejecting id m) := by
  intro s
  have kept := h s
  unfold rejecting
  rcases run : m.run s with ⟨r, s'⟩
  rw [run] at kept
  cases r <;> simpa [run] using kept

namespace HidSession

/-- The keyboard's driver is left alone, and nothing is reported for it. -/
structure Aside (s s' : HidSession) : Prop where
  driver : SameKeyboard s s'
  stays : Stays { keys := False, moves := True, raw := False } s s'

instance : IsPreorder HidSession Aside where
  refl s := ⟨refl_of SameKeyboard s, refl_of (Stays _) s⟩
  trans _ _ _ h h' := ⟨trans_of SameKeyboard h.driver h'.driver, trans_of (Stays _) h.stays h'.stays⟩

theorem aside_send {msg : ControlMessage}
    (allowed : ∀ s, Allowed { keys := False, moves := True, raw := False } s msg) :
    Keeps Aside (send msg) :=
  fun s => ⟨sameKeyboard_onWriter _ s, keeps_send allowed s⟩

theorem aside_injectTouch (action : UInt8) (pointerId : UInt64) (x y : Int32) (pressure : Float32) :
    Keeps Aside (injectTouch action pointerId x y pressure) :=
  fun s => ⟨sameKeyboard_injectTouch _ _ _ _ _ s, keeps_injectTouch _ _ _ _ _ s⟩

theorem aside_swipe (origin target : Int32 × Int32) (steps : UInt32) :
    Keeps Aside (swipe origin target steps) :=
  fun s => ⟨sameKeyboard_swipePointer _ _ _ _ s, keeps_swipePointer _ _ _ _ s⟩

theorem aside_injectRawGamepadReport (payload : List UInt8) :
    Keeps Aside (injectRawGamepadReport payload) :=
  fun s => ⟨sameKeyboard_gamepadOp (.injectRawGamepadReport payload) s,
    keeps_injectRawGamepadReport payload s⟩

theorem aside_flushNow : Keeps Aside flushNow :=
  fun s => ⟨sameKeyboard_onWriter _ s, stays_flush s⟩

end HidSession

namespace ActionInjector
open HidSession
variable (showChar : Char → String)

theorem aside_maybeFlush (batchDepth : UInt32) : Keeps Aside (maybeFlush batchDepth) := by
  unfold maybeFlush
  split
  · exact keeps_discard aside_flushNow
  · exact keeps_pure _

theorem aside_mapped (id : ActionId) (batchDepth : UInt32) {action : Action}
    (types : ∀ text deadlineMs, action ≠ .typeText text deadlineMs) :
    Keeps Aside (mapped showChar id batchDepth action) := by
  have flush := aside_maybeFlush batchDepth
  have reports (bytes : List UInt8) : Keeps Aside (injectRaw id batchDepth bytes) := by
    apply keeps_rejecting
    exact (aside_injectRawGamepadReport bytes).bind fun _ => flush
  have sends {msg : ControlMessage}
      (allowed : ∀ s, Allowed { keys := False, moves := True, raw := False } s msg) :
      Keeps Aside (do send msg; maybeFlush batchDepth) :=
    (aside_send allowed).bind fun _ => flush
  cases action with
  | tap x y deadlineMs =>
    apply keeps_rejecting
    apply (aside_injectTouch _ _ _ _ _).bind
    intro _
    exact (aside_injectTouch _ _ _ _ _).bind fun _ => flush
  | swipe x1 y1 x2 y2 durMs deadlineMs =>
    apply keeps_rejecting
    exact (aside_swipe _ _ _).bind fun _ => flush
  | typeText text deadlineMs => exact absurd rfl (types text deadlineMs)
  | key code deadlineMs =>
    apply keeps_rejecting
    apply Keeps.bind
    · exact aside_send fun _ => trivial
    · intro _
      apply sends
      exact fun _ => trivial
  | gamepadFrame report deadlineMs => exact reports _
  | launch target launchBy deadlineMs =>
    apply keeps_rejecting
    apply sends
    exact fun _ => trivial
  | setClipboard text paste deadlineMs =>
    apply keeps_rejecting
    apply sends
    exact fun _ => trivial
  | injectRaw bytes deadlineMs => exact reports _
  | _ => exact keeps_fail _

theorem stays_typeText (id : ActionId) (batchDepth : UInt32) (text : String) :
    Keeps (Stays anyReport) (typeText showChar id batchDepth text) := by
  apply Keeps.bind
  · apply keeps_forEach
    intro ch _
    unfold typeChar
    split
    · exact keeps_fail _
    · apply (keeps_rejecting id (keeps_key _ _ _ fun _ => trivial)).bind
      intro _
      exact keeps_rejecting id (keeps_key _ _ _ fun _ => trivial)
  · intro _
    apply keeps_rejecting
    unfold maybeFlush
    split
    · exact keeps_discard stays_flush
    · exact keeps_pure _

end ActionInjector

/-- The keyboard is idle, and its reports so far are those of the characters that were typed. -/
structure Typing (typed : List Char) (s : HidSession) : Prop where
  idle : ∃ d stream, HidSession.Idle d stream s ∧
    keyReports (stream.map eventOfMessage) = textReports typed
  pad : s.gamepadHidId ≠ some hidIdKeyboard
  supported : ∀ ch ∈ typed, HidSession.supported ch = true

namespace Typing
open HidSession ActionInjector
variable {typed : List Char} {s s' : HidSession}

theorem aside (h : Typing typed s) (aside : Aside s s') : Typing typed s' := by
  obtain ⟨d, stream, idle, reports⟩ := h.idle
  obtain ⟨sent, held, carries, joined⟩ := idle.carries
  obtain ⟨landed, sent', held', carries', joined', allowed, -⟩ := aside.stays.stream d sent held carries
  have driver : s'.kbd = s.kbd := aside.driver
  constructor
  case pad =>
    rw [aside.stays.same.hidId]
    exact h.pad
  case supported => exact h.supported
  case idle =>
    refine ⟨d, stream ++ landed, ⟨?_, ?_, ?_⟩, ?_⟩
    · rw [driver]
      exact idle.keyboard
    · exact ⟨sent', held', carries', joined'.trans (congrArg (· ++ landed) joined)⟩
    · exact aside.stays.working carries idle.working
    · rw [List.map_append, keyReports, List.filterMap_append, ← keyReports, ← keyReports, reports,
        quiet_of_allowed h.pad allowed, List.append_nil]

theorem opened {t : Transport} (clock : Nat → Nat) {req : OpenRequest} (fresh : t.wire = [])
    (never : t.NeverFails) (wanted : req.kbd = true) : Typing [] (afterOpen t clock req) := by
  have showing := Showing.opened clock fresh never wanted
  obtain ⟨d, sent, held, carries, -, shown⟩ := showing.stream
  constructor
  case pad => exact showing.pad
  case supported => exact List.forall_mem_nil _
  case idle =>
    refine ⟨d, sent ++ held, ⟨⟨.empty, showing.keyboard⟩, ⟨sent, held, carries, rfl⟩,
      showing.working⟩, ?_⟩
    exact List.getLast?_eq_none_iff.mp shown

theorem apply (h : Typing typed s) {i : ActionInjector} (session : i.session = s)
    (showChar : Char → String) (action : Action) :
    Typing (typed ++ typedBy action) (applied showChar i action).session := by
  subst session
  have others (types : ∀ text deadlineMs, action ≠ .typeText text deadlineMs)
      (none : typedBy action = []) :
      Typing (typed ++ typedBy action) (applied showChar i action).session := by
    rw [none, List.append_nil]
    exact h.aside (aside_mapped showChar i.nextId i.batchDepth types i.session)
  cases action with
  | typeText text deadlineMs =>
    obtain ⟨d, stream, idle, reports⟩ := h.idle
    have stays := stays_typeText showChar i.nextId i.batchDepth text i.session
    constructor
    case pad =>
      have same : (applied showChar i (.typeText text deadlineMs)).session.gamepadHidId =
          i.session.gamepadHidId := stays.same.hidId
      rw [same]
      exact h.pad
    case supported =>
      intro ch known
      rcases List.mem_append.mp known with earlier | later
      · exact h.supported ch earlier
      · exact supported_typedBy ch later
    case idle =>
      refine ⟨d, _, applyTypeText_idle showChar idle text, ?_⟩
      rw [List.map_append, keyReports, List.filterMap_append, ← keyReports, ← keyReports, reports,
        keyReports_messages fun _ known => length_textReports known, textReports, textReports,
        textReports, List.flatMap_append]
      rfl
  | _ => exact others (fun _ _ same => by cases same) rfl

theorem flush (h : Typing typed s) :
    ∃ n s', flushNow.run s = (.ok n, s') ∧ Typing typed s' := by
  obtain ⟨d, stream, idle, -⟩ := h.idle
  obtain ⟨sent, held, carries, -⟩ := idle.carries
  obtain ⟨effect, -⟩ := CoalescingWriter.flushNow_effect carries
  obtain ⟨n, ok⟩ := Outcome.isOk_iff.mp (effect.total idle.working (List.forall_mem_nil _))
  exact ⟨n, _, Prod.ext ok rfl, h.aside (aside_flushNow s)⟩

theorem actions (h : Typing typed s) {i : ActionInjector} (session : i.session = s)
    (showChar : Char → String) (actions : List Action) :
    Typing (typed ++ actions.flatMap typedBy) (Run.after (applied showChar) i actions).session := by
  induction actions generalizing typed s i with
  | nil =>
    rw [List.flatMap_nil, List.append_nil, Run.after, session]
    exact h
  | cons action rest ih =>
    have later := ih (h.apply session showChar action) rfl
    rw [List.flatMap_cons, ← List.append_assoc]
    exact later

end Typing

namespace ActionInjector
variable (showChar : Char → String)

/-- A batch tries as many of its actions as it has outcomes for. -/
theorem applyEach_after {actions : List Action} {outcomes outcomes' : List BridgeOutcome}
    {firstFailure : Option Nat} {i i' : ActionInjector}
    (run : (applyEach showChar actions outcomes).run i = (.ok (outcomes', firstFailure), i')) :
    ∃ own, outcomes' = outcomes ++ own ∧
      i' = Run.after (applied showChar) i (actions.take own.length) := by
  induction actions generalizing outcomes i with
  | nil =>
    cases run
    exact ⟨[], (List.append_nil _).symm, rfl⟩
  | cons action rest ih =>
    obtain ⟨outcome, i₁, one, more⟩ := of_run_bind_ok run
    have next : applied showChar i action = i₁ := congrArg Prod.snd one
    split at more
    · obtain ⟨own, joined, state⟩ := ih more
      refine ⟨outcome :: own, ?_, ?_⟩
      · rw [joined, List.append_assoc, List.singleton_append]
      · rw [List.length_cons, List.take_succ_cons, Run.after, next]
        exact state
    · cases more
      exact ⟨[outcome], rfl, next.symm⟩

theorem terminalFlush_typing {typed : List Char} {i : ActionInjector} (h : Typing typed i.session) :
    ∃ i', terminalFlush.run i = (.ok none, i') ∧ Typing typed i'.session := by
  obtain ⟨n, s', run, after⟩ := h.flush
  refine ⟨{ i with session := s' }, ?_, after⟩
  simp [terminalFlush, run]

theorem stageMany_typing {typed : List Char} {i i' : ActionInjector} (h : Typing typed i.session)
    {actions : List Action} {outcomes : List BridgeOutcome} {firstFailure : Option Nat}
    (run : (stageMany showChar actions).run i = (.ok (outcomes, firstFailure), i')) :
    Typing (typed ++ (actions.take outcomes.length).flatMap typedBy) i'.session := by
  rw [stageMany, run_update_bind] at run
  obtain ⟨staged, i₁, each, rest⟩ := of_run_bind_ok run
  cases rest
  obtain ⟨own, joined, rfl⟩ := applyEach_after showChar each
  obtain rfl : outcomes = own := joined
  exact h.actions (i := { i with batchDepth := deeper i.batchDepth }) rfl showChar
    (actions.take outcomes.length)

theorem applyMany_typing {typed : List Char} {i i' : ActionInjector} (h : Typing typed i.session)
    {actions : List Action} {outcomes : List BridgeOutcome} {firstFailure : Option Nat}
    (run : (applyMany showChar actions).run i = (.ok (outcomes, firstFailure), i')) :
    Typing (typed ++ (actions.take outcomes.length).flatMap typedBy) i'.session := by
  rw [applyMany] at run
  obtain ⟨⟨staged, failure⟩, i₁, stages, rest⟩ := of_run_bind_ok run
  have typing := stageMany_typing showChar h stages
  dsimp only at rest
  rw [run_read_bind] at rest
  split at rest
  · -- the flush at the end works, so that it adds no outcome
    obtain ⟨i₂, flushed, after⟩ := terminalFlush_typing typing
    rw [run_bind_ok flushed] at rest
    cases rest
    exact after
  · cases rest
    exact typing

end ActionInjector

namespace BridgeCall
variable (showChar : Char → String)

/-- The characters that a call types: a batch, those of the actions that it answers for. -/
def typed (injector : Option ActionInjector) (call : BridgeCall) : List Char :=
  match injector, call with
  | none, _ => []
  | some _, .apply action => typedBy action
  | some i, .applyMany actions =>
    match (ActionInjector.applyMany showChar actions).run i with
    | (.ok (outcomes, _), _) => (actions.take outcomes.length).flatMap typedBy
    | _ => []

/-- The characters that the calls type, in order. -/
def typedAlong : Option ActionInjector → List BridgeCall → List Char
  | _, [] => []
  | injector, call :: rest =>
    call.typed showChar injector ++ typedAlong (step showChar injector call) rest

theorem typing_step {typed : List Char} {i i' : ActionInjector} (h : Typing typed i.session)
    {call : BridgeCall} (next : step showChar (some i) call = some i') :
    Typing (typed ++ call.typed showChar (some i)) i'.session := by
  obtain ⟨i₀, same, ⟨action, outcome, rfl, run⟩ | ⟨actions, answer, rfl, run⟩⟩ :=
    step_cases showChar next
  · cases same
    have state : ActionInjector.applied showChar i action = i' := congrArg Prod.snd run
    rw [← state]
    exact h.apply rfl showChar action
  · cases same
    obtain ⟨outcomes, firstFailure⟩ := answer
    have after := ActionInjector.applyMany_typing showChar h run
    unfold BridgeCall.typed
    dsimp only
    rw [run]
    exact after

theorem typing_after {typed : List Char} {i i' : ActionInjector} (h : Typing typed i.session)
    {calls : List BridgeCall} (ends : Run.after (step showChar) (some i) calls = some i') :
    Typing (typed ++ typedAlong showChar (some i) calls) i'.session := by
  induction calls generalizing typed i with
  | nil =>
    cases ends
    rw [typedAlong, List.append_nil]
    exact h
  | cons call rest ih =>
    rw [Run.after] at ends
    rw [typedAlong, ← List.append_assoc]
    cases next : step showChar (some i) call with
    | none =>
      have ended : Run.after (step showChar) none rest = none :=
        Run.preserved (fun s => s = none) (fun s call none => by rw [none]; rfl) rfl rest
      rw [next, ended] at ends
      contradiction
    | some i₁ =>
      rw [next] at ends
      exact ih (typing_step showChar h next) ends

end BridgeCall

/-- Over a transport that works, whatever the bridge is called for: the host reads the texts of the actions
that it tried, each up to its first character without a key, in order and each character with the SHIFT that
it needs, and no key is left down. -/
theorem host_reads_texts (showChar : Char → String) (t : Transport) (clock : Nat → Nat)
    (req : OpenRequest) (fresh : t.wire = []) (never : t.NeverFails) (wanted : req.kbd = true)
    (calls : List BridgeCall) {i : ActionInjector} (reached : Run.after (BridgeCall.step showChar)
      (some (ActionInjector.new (HidSession.afterOpen t clock req))) calls = some i) :
    let reports := keyReports i.session.delivered
    hostReads [] reports = (BridgeCall.typedAlong showChar
        (some (ActionInjector.new (HidSession.afterOpen t clock req))) calls).map
          (fun ch => (ch, needsShift ch)) ∧
      keysAfter [] reports = [] := by
  intro reports
  have start : Typing [] (ActionInjector.new (HidSession.afterOpen t clock req)).session :=
    .opened clock fresh never wanted
  have typing := BridgeCall.typing_after showChar start reached
  obtain ⟨d, stream, idle, shown⟩ := typing.idle
  have whole : reports = textReports (BridgeCall.typedAlong showChar
      (some (ActionInjector.new (HidSession.afterOpen t clock req))) calls) := by
    rw [show reports = _ from congrArg keyReports idle.delivered]
    exact shown
  rw [whole]
  exact ⟨hostReads_text typing.supported, keysAfter_text typing.supported⟩

/-- A batch that stops in its first text, and another text behind it. -/
theorem host_reads_texts_stopped :
    let calls : List BridgeCall :=
      [.applyMany [.key 3 0, .typeText "aé" 0, .typeText "b" 0], .apply (.typeText "A1" 0)]
    ∃ i, Run.after (BridgeCall.step fun _ => "")
        (some (ActionInjector.new (HidSession.afterOpen .steady id .all))) calls = some i ∧
      hostReads [] (keyReports i.session.delivered) = [('a', false), ('A', true), ('1', false)] := by
  intro calls
  obtain ⟨read, -⟩ := host_reads_texts (fun _ => "") .steady id .all rfl Transport.steady_neverFails rfl
    calls rfl
  have typed : (BridgeCall.typedAlong (fun _ => "")
      (some (ActionInjector.new (HidSession.afterOpen .steady id .all))) calls).map
        (fun ch => (ch, needsShift ch)) = [('a', false), ('A', true), ('1', false)] := by
    decide +kernel
  exact ⟨_, rfl, read.trans typed⟩

end HidConnect
