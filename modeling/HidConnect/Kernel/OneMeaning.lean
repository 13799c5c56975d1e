import HidConnect.Kernel.Execution

/-! What a predicate means to each of its evaluators: the engine on an observation, the engine on the
kind of an event, and the daemon on the text of a dump. -/
namespace HidConnect.Kernel
open Fallible

namespace PredicateEngine

def onEventKind (e : PredicateEngine) (kind : EventKind) : List (PredicateHandle × PredicateOutcome) :=
  e.predicates.entries.map fun entry =>
    (entry.1, match entry.2.predicate with
      | .eventFires want _ => if want = kind then .matched else .noMatch
      | _ => .noMatch)

end PredicateEngine

def outcomeFor (results : List (PredicateHandle × PredicateOutcome)) (handle : PredicateHandle) :
    Option PredicateOutcome :=
  (results.find? fun r => r.1 == handle).map Prod.snd

/-- Both paths go through the registered predicates and give each of them an outcome. -/
theorem outcomeFor_entries (e : PredicateEngine) (f : Predicate → PredicateOutcome)
    (handle : PredicateHandle) :
    outcomeFor (e.predicates.entries.map fun entry => (entry.1, f entry.2.predicate)) handle =
      (e.predicates.lookup handle).map fun reg => f reg.predicate := by
  unfold outcomeFor AList.lookup
  induction e.predicates.entries with
  | nil => rfl
  | cons entry rest ih =>
    obtain ⟨key, reg⟩ := entry
    by_cases same : key = handle
    · subst same
      simp
    · simpa [same, List.dlookup_cons_ne rest ⟨key, reg⟩ (Ne.symm same)] using ih

theorem outcomeFor_onObservation (e : PredicateEngine) (obs : Observation) (handle : PredicateHandle) :
    outcomeFor (e.onObservation obs) handle =
      (e.predicates.lookup handle).map fun reg =>
        if reg.predicate.matched obs then .matched else .noMatch :=
  outcomeFor_entries e (fun p => if p.matched obs then .matched else .noMatch) handle

/-- Whether the kind alone meets the predicate. -/
def Predicate.firesOn (kind : EventKind) : Predicate → Bool
  | eventFires want _ => decide (want = kind)
  | _ => false

theorem outcomeFor_onEventKind (e : PredicateEngine) (kind : EventKind) (handle : PredicateHandle) :
    outcomeFor (e.onEventKind kind) handle =
      (e.predicates.lookup handle).map fun reg =>
        if reg.predicate.firesOn kind then .matched else .noMatch := by
  rw [← outcomeFor_entries e fun p => if p.firesOn kind then .matched else .noMatch]
  have same : ∀ p : Predicate, (match p with
      | .eventFires want _ => if want = kind then PredicateOutcome.matched else .noMatch
      | _ => .noMatch) = if p.firesOn kind then .matched else .noMatch := by
    intro p
    cases p <;> simp [Predicate.firesOn]
  unfold PredicateEngine.onEventKind
  simp only [same]

/- An event by itself. -/

/-- The heuristics that look further than the kind of an event: a scene with hardly any change is a stable
one, and a changed configuration is an idle one. -/
def Predicate.inferredFrom (ev : DeviceEvent) : Predicate → Bool
  | sceneStable durationMs timeoutMs =>
    match ev with
    | .sceneChangeDetected score => durationMs ≤ timeoutMs && lessThan score sceneStableScore
    | _ => false
  | a11yIdle durationMs timeoutMs => durationMs ≤ timeoutMs && ev == .configurationChanged
  | _ => false

structure Observation.OnlyEvent (obs : Observation) (ev : DeviceEvent) : Prop where
  events : obs.events = [ev]
  a11y : obs.a11y = none
  frame : obs.frame = none

theorem matched_onlyEvent {obs : Observation} {ev : DeviceEvent} {kind : EventKind}
    (known : EventKind.fromEvent ev = some kind) (only : obs.OnlyEvent ev) (p : Predicate) :
    p.matched obs = (p.firesOn kind || p.inferredFrom ev) := by
  unfold Predicate.matched Predicate.firesOn Predicate.inferredFrom
  cases p with
  | textAppears text nodeId timeoutMs =>
    simp [Observation.containsText, Observation.treeContains, only.a11y]
  | activity component timeoutMs => simp [Observation.activityMatches, only.a11y]
  | sceneStable durationMs timeoutMs =>
    by_cases short : timeoutMs < durationMs
    · have long : ¬ durationMs ≤ timeoutMs := UInt32.not_le.mpr short
      cases ev <;> simp [Observation.hasSceneStableEvent, short, long]
    · have long : durationMs ≤ timeoutMs := UInt32.not_lt.mp short
      cases ev <;> simp [Observation.hasSceneStableEvent, only.events, short, long]
  | a11yIdle durationMs timeoutMs =>
    by_cases short : timeoutMs < durationMs
    · have long : ¬ durationMs ≤ timeoutMs := UInt32.not_le.mpr short
      simp [Observation.hasA11yIdleEvent, short, long]
    · have long : durationMs ≤ timeoutMs := UInt32.not_lt.mp short
      simp [Observation.hasA11yIdleEvent, only.events, only.a11y, short, long]
  | selectorMatches selector timeoutMs =>
    simp [Observation.selectorMatches, Observation.treeContains, only.a11y]
  | eventFires want timeoutMs =>
    simp [Observation.containsEventKind, only.events, known, eq_comm, beq_eq_decide]

/-- The two paths disagree on the heuristics and on nothing else. -/
theorem fast_path_agrees_iff (e : PredicateEngine) {ev : DeviceEvent} {kind : EventKind}
    (known : EventKind.fromEvent ev = some kind) {obs : Observation} (only : obs.OnlyEvent ev)
    (handle : PredicateHandle) :
    outcomeFor (e.onEventKind kind) handle = outcomeFor (e.onObservation obs) handle ↔
      ∀ reg, e.predicates.lookup handle = some reg → reg.predicate.inferredFrom ev = false := by
  rw [outcomeFor_onEventKind, outcomeFor_onObservation]
  cases e.predicates.lookup handle with
  | none => simp
  | some reg =>
    simp only [Option.map_some, Option.some.injEq, forall_eq', matched_onlyEvent known only]
    -- a predicate that the kind meets is not one of the heuristics
    have apart : reg.predicate.firesOn kind = true → reg.predicate.inferredFrom ev = false := by
      intro fires
      cases hp : reg.predicate with
      | eventFires want timeoutMs => rfl
      | _ => rw [hp] at fires; exact absurd fires Bool.false_ne_true
    cases hf : reg.predicate.firesOn kind with
    | true => simp [apart hf]
    | false => cases reg.predicate.inferredFrom ev <;> simp

/-- One predicate of each heuristic, under the handles 0 and 1. -/
def heuristics : PredicateEngine :=
  ((PredicateEngine.new.register (.sceneStable 500 1000)).2.register (.a11yIdle 500 1000)).2

def seeing (ev : DeviceEvent) : Observation := { Observation.initial with events := [ev] }

theorem fast_path_agrees_elsewhere :
    outcomeFor (heuristics.onEventKind .configurationChanged) 0 =
      outcomeFor (heuristics.onObservation (seeing .configurationChanged)) 0 := by
  have known : EventKind.fromEvent .configurationChanged = some .configurationChanged := rfl
  exact (fast_path_agrees_iff heuristics known ⟨rfl, rfl, rfl⟩ 0).mpr (by decide)

theorem fast_path_misses_heuristics :
    (outcomeFor (heuristics.onEventKind .sceneChangeDetected) 0 = some .noMatch ∧
      outcomeFor (heuristics.onObservation (seeing (.sceneChangeDetected 0))) 0 = some .matched) ∧
    outcomeFor (heuristics.onEventKind .configurationChanged) 1 = some .noMatch ∧
      outcomeFor (heuristics.onObservation (seeing .configurationChanged)) 1 = some .matched := by
  decide

/- The daemon. -/

def Predicate.isShown : Predicate → Bool
  | activity .. | textAppears .. | selectorMatches .. => true
  | sceneStable .. | a11yIdle .. | eventFires .. => false

/-- What the daemon makes of a dump: the text as the tree, the focused app on top, no nodes counted, and
no event but the time. -/
structure Observation.DumpOf (obs : Observation) (text : String) : Prop where
  a11y : obs.a11y = some {
    windowId := some 0, topActivity := parseFocusedApp text, nodeCount := 0, json := text }
  events : ∃ uptimeMs, obs.events = [.uptime uptimeMs]

theorem buildObservation_dumpOf {η : Type} (phone : Phone η) (d : Daemon η) :
    ∃ obs d', (Daemon.buildObservation phone).run d = (.ok obs, d') ∧
      obs.DumpOf (phone.dumpsys d.phone).1 :=
  ⟨_, _, rfl, rfl, _, rfl⟩

/-- The engine agrees with the daemon on what a dump shows, and sees nothing of the rest. -/
theorem matched_dumpOf {obs : Observation} {text : String} (dump : obs.DumpOf text) (p : Predicate) :
    p.matched obs = (p.isShown && holdsOn p text) := by
  obtain ⟨uptimeMs, events⟩ := dump.events
  cases p with
  | textAppears shown nodeId timeoutMs =>
    simp [Predicate.matched, Observation.containsText, Observation.treeContains, dump.a11y,
      Predicate.isShown, holdsOn, checkPredicate]
  | activity component timeoutMs =>
    cases hf : parseFocusedApp text <;>
      simp [Predicate.matched, Observation.activityMatches, dump.a11y, Predicate.isShown, holdsOn,
        checkPredicate, hf]
  | selectorMatches selector timeoutMs =>
    simp [Predicate.matched, Observation.selectorMatches, Observation.treeContains, dump.a11y,
      Predicate.isShown, holdsOn, checkPredicate]
  | sceneStable durationMs timeoutMs =>
    simp [Predicate.matched, Observation.hasSceneStableEvent, events, Predicate.isShown]
  | a11yIdle durationMs timeoutMs =>
    simp [Predicate.matched, Observation.hasA11yIdleEvent, events, dump.a11y, Predicate.isShown]
  | eventFires kind timeoutMs =>
    simp [Predicate.matched, Observation.containsEventKind, events, EventKind.fromEvent,
      Predicate.isShown]

theorem holdsOn_of_not_shown {p : Predicate} (other : p.isShown = false) (text : String) :
    holdsOn p text = true := by
  cases p with
  | sceneStable | a11yIdle | eventFires => rfl
  | _ => exact absurd other.symm Bool.false_ne_true

/-- A predicate means the same to the daemon and to the engine exactly where the dump can tell. -/
theorem one_meaning_iff {η : Type} (phone : Phone η) (d : Daemon η) {text : String}
    (dumped : (phone.dumpsys d.phone).1 = text) (e : PredicateEngine) {handle : PredicateHandle}
    {reg : RegisteredPredicate} (registered : e.predicates.lookup handle = some reg) :
    ∃ obs d', (Daemon.buildObservation phone).run d = (.ok obs, d') ∧
      ((checkPredicate reg.predicate (parseFocusedApp text) text = true ↔
          outcomeFor (e.onObservation obs) handle = some .matched) ↔
        reg.predicate.isShown = true) := by
  obtain ⟨obs, d', ran, dump⟩ := buildObservation_dumpOf phone d
  rw [dumped] at dump
  refine ⟨obs, d', ran, ?_⟩
  change ((holdsOn reg.predicate text = true ↔ _) ↔ _)
  rw [outcomeFor_onObservation, registered, Option.map_some, matched_dumpOf dump]
  cases shown : reg.predicate.isShown with
  | true => simp
  | false => simp [holdsOn_of_not_shown shown text]

def awaiting (p : Predicate) : PredicateEngine := (PredicateEngine.new.register p).2

def settingsOnTop : Predicate := .activity "app/.Settings" 1000

def onClipboard : Predicate := .eventFires .clipboardChanged 1000

theorem settings_has_one_meaning :
    ∃ obs d', (Daemon.buildObservation silentPhone).run (.new 0 { memory := .new, sqlite := none }) =
        (.ok obs, d') ∧
      ((checkPredicate settingsOnTop (parseFocusedApp "") "" = true ↔
          outcomeFor ((awaiting settingsOnTop).onObservation obs) 0 = some .matched) ↔
        settingsOnTop.isShown = true) :=
  one_meaning_iff silentPhone (.new 0 { memory := .new, sqlite := none }) rfl (awaiting settingsOnTop)
    (rfl : (awaiting settingsOnTop).predicates.lookup 0 = some ⟨0, settingsOnTop⟩)

theorem clipboard_has_two_meanings :
    ∃ obs d', (Daemon.buildObservation silentPhone).run (.new 0 { memory := .new, sqlite := none }) =
        (.ok obs, d') ∧
      checkPredicate onClipboard (parseFocusedApp "") "" = true ∧
      outcomeFor ((awaiting onClipboard).onObservation obs) 0 = some .noMatch :=
  ⟨_, _, rfl, rfl, rfl⟩

end HidConnect.Kernel
