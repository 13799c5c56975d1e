import HidConnect.Kernel.Bridge
import HidConnect.Session.Typing

/-! What typing leaves on the keyboard: the session's two forms and the bridge's action. -/
namespace HidConnect
open Fallible

def KeyReport.Neutral (report : KeyReport) : Prop := report.headD 0 = 0 ∧ report.keys = []

instance (report : KeyReport) : Decidable report.Neutral := inferInstanceAs (Decidable (_ ∧ _))

namespace HidSession

/-- The last keyboard report on the wire after a flush, if there is one, is neutral. -/
def LeftNeutral (s : HidSession) : Prop :=
  ∀ report, (keyReports s.delivered).getLast? = some report → report.Neutral

/-- The last character typed needs no SHIFT. Where nothing is typed it was all right before. -/
def EndsPlain (s : HidSession) (typed : List Char) : Prop :=
  match typed.getLast? with
  | some ch => needsShift ch = false
  | none => s.LeftNeutral

theorem last_report {ch : Char} (h : supported ch = true) :
    ∃ report, (charReports ch).getLast? = some report ∧
      (report.Neutral ↔ needsShift ch = false) := by
  have all : supportedChars.all (fun ch => (charReports ch).getLast?.any fun report =>
      report.Neutral ↔ needsShift ch = false) = true := by
    decide +kernel
  have here := List.all_eq_true.mp all ch (mem_supportedChars h)
  obtain ⟨report, last, plain⟩ := (Option.any_eq_true _ _).mp here
  exact ⟨report, last, of_decide_eq_true plain⟩

namespace Idle
variable {d : Bool} {stream : List ControlMessage} {s s' : HidSession}

theorem leftNeutral (h : Idle d stream s) {typed : List Char}
    (all : ∀ ch ∈ typed, supported ch = true)
    (h' : Idle d (stream ++ keyMessages (textReports typed)) s') :
    s'.LeftNeutral ↔ s.EndsPlain typed := by
  have reports : keyReports s'.delivered = keyReports s.delivered ++ textReports typed := by
    rw [h.delivered, h'.delivered, List.map_append, keyReports, List.filterMap_append]
    exact congrArg _ (keyReports_messages fun _ hr => length_textReports hr)
  rw [LeftNeutral, reports, EndsPlain]
  cases hl : typed.getLast? with
  | none =>
    obtain rfl := List.getLast?_eq_none_iff.mp hl
    rw [textReports, List.flatMap_nil, List.append_nil]
    rfl
  | some ch =>
    obtain ⟨front, rfl⟩ := List.getLast?_eq_some_iff.mp hl
    obtain ⟨report, last, plain⟩ := last_report (all ch (by simp))
    have final : (keyReports s.delivered ++ textReports (front ++ [ch])).getLast? = some report := by
      rw [textReports, List.flatMap_append, ← List.append_assoc, List.flatMap_singleton,
        List.getLast?_append, last]
      rfl
    rw [final]
    refine Iff.trans ?_ plain
    exact ⟨fun neutral => neutral report rfl, fun neutral _ same => Option.some.inj same ▸ neutral⟩

theorem maybeFlush (h : Idle d stream s) (batchDepth : UInt32) :
    ∃ s', (ActionInjector.maybeFlush batchDepth).run s = (.ok (), s') ∧ Idle d stream s' := by
  rw [ActionInjector.maybeFlush]
  split
  · obtain ⟨sent, held, carries, joined⟩ := h.carries
    have effect := (CoalescingWriter.emits_flushNow d).discard s.transport sent held carries
    obtain ⟨landed, sent', held', carries', joined', _, whole⟩ := effect.stream
    have ok := effect.total h.working (List.forall_mem_nil _)
    obtain ⟨u, hu⟩ := Outcome.isOk_iff.mp ok
    refine ⟨_, Prod.ext hu rfl, h.keyboard, ⟨sent', held', carries', ?_⟩,
      working_of_plans h.working effect.onWrite effect.onFlush⟩
    rw [joined', whole ok, List.append_nil, joined]
  · exact ⟨s, rfl, h⟩

end Idle

end HidSession

/- The bridge types up to the first unsupported character. -/

theorem rejecting_ok {α : Type} {id : ActionId} {m : Session α} {s s' : HidSession} {a : α}
    (run : m.run s = (.ok a, s')) : (rejecting id m).run s = (.ok a, s') := by
  simp only [rejecting, run]

namespace ActionInjector
variable (showChar : Char → String)

theorem typeChars_run (id : ActionId) {text : String} {s s' : HidSession}
    (typed : (Method.forEach (text.toList.takeWhile HidSession.supported)
      HidSession.typeChar).run s = (.ok (), s')) :
    (Method.forEach text.toList (typeChar showChar id)).run s =
      (match HidSession.firstUnsupported text.toList with
        | none => .ok ()
        | some ch => .err (refusal showChar id ch), s') := by
  refine HidSession.forEach_strict (refusal showChar id) ?_ ?_ typed
  · intro ch s s' hs run
    obtain ⟨sc, mods, hc⟩ := HidSession.tryFromChar_supported hs
    rw [HidSession.typeChar, hc] at run
    obtain ⟨_, s₁, down, up⟩ := Method.of_run_bind_ok run
    rw [typeChar, hc]
    exact (Method.run_bind_ok (rejecting_ok down)).trans (rejecting_ok up)
  · intro ch hs
    obtain ⟨mods, hc⟩ := HidSession.tryFromChar_unsupported hs
    rw [typeChar, hc]

theorem applyTypeText_idle {d : Bool} {stream : List ControlMessage} {injector : ActionInjector}
    (h : HidSession.Idle d stream injector.session) (text : String) :
    HidSession.Idle d
      (stream ++ HidSession.keyMessages (textReports (text.toList.takeWhile HidSession.supported)))
      ((applyTypeText showChar text).run injector).2.session := by
  obtain ⟨s₁, typed, idle₁⟩ := h.typeText (text.toList.takeWhile HidSession.supported)
  have loop := typeChars_run showChar injector.nextId typed
  cases hf : HidSession.firstUnsupported text.toList with
  | none =>
    rw [hf] at loop
    obtain ⟨s₂, flushed, idle₂⟩ := idle₁.maybeFlush injector.batchDepth
    have run : (typeText showChar injector.nextId injector.batchDepth text).run injector.session =
        (.ok (), s₂) := by
      rw [typeText, Method.run_bind_ok loop, rejecting_ok flushed]
    simp only [applyTypeText, run]
    exact idle₂
  | some ch =>
    rw [hf] at loop
    have run : (typeText showChar injector.nextId injector.batchDepth text).run injector.session =
        (.err (refusal showChar injector.nextId ch), s₁) := by
      rw [typeText, Method.run_bind_err loop]
    simp only [applyTypeText, run]
    exact idle₁

end ActionInjector

/-- Over a transport that never fails, typing from a keyboard with no key held leaves a neutral report
exactly if the last character typed needs no SHIFT, or nothing was typed and the report before was
neutral. The strict form and the bridge stop at the first unsupported character. -/
theorem typing_leaves_neutral (t : Transport) (clock : Nat → Nat) (req : OpenRequest)
    (fresh : t.wire = []) (never : t.NeverFails) (ops : List SessionOp) (k : KeyboardHid)
    (opened : (Run.after HidSession.step (HidSession.afterOpen t clock req) ops).kbd = some k)
    (up : k.heldScancodes = []) (text : String) (showChar : Char → String) (nextId : UInt64)
    (batchDepth : UInt32) :
    let session := Run.after HidSession.step (HidSession.afterOpen t clock req) ops
    (((HidSession.typeText text).run session).2.LeftNeutral ↔
      session.EndsPlain (text.toList.filter HidSession.supported)) ∧
    (((HidSession.typeTextStrict text).run session).2.LeftNeutral ↔
      session.EndsPlain (text.toList.takeWhile HidSession.supported)) ∧
    (((ActionInjector.applyTypeText showChar text).run
        { session, nextId, batchDepth }).2.session.LeftNeutral ↔
      session.EndsPlain (text.toList.takeWhile HidSession.supported)) := by
  intro session
  obtain ⟨d, stream, idle⟩ := HidSession.idle_reached clock req fresh never ops opened up
  obtain ⟨s₁, run, after⟩ := idle.typeText text.toList
  obtain ⟨s₂, stopped, after'⟩ := idle.typeText (text.toList.takeWhile HidSession.supported)
  have prefix' : ∀ ch ∈ text.toList.takeWhile HidSession.supported, HidSession.supported ch = true :=
    fun _ hm => List.mem_takeWhile_imp hm
  refine ⟨?_, ?_, ?_⟩
  · have whole : (HidSession.typeText text).run session = (.ok (), s₁) := run
    rw [whole]
    refine idle.leftNeutral (fun _ hm => (List.mem_filter.mp hm).2) ?_
    rw [HidSession.textReports_filter]
    exact after
  · rw [HidSession.typeTextStrict_run stopped]
    exact idle.leftNeutral prefix' after'
  · exact idle.leftNeutral prefix' (ActionInjector.applyTypeText_idle showChar idle text)

theorem typing_leaves_neutral_plain :
    ((HidSession.typeText "Aé1").run
      (Run.after HidSession.step (HidSession.afterOpen .steady id .kbdOnly) [])).2.LeftNeutral := by
  obtain ⟨plain, _⟩ := typing_leaves_neutral .steady id .kbdOnly rfl Transport.steady_neverFails []
    .new rfl (by decide +kernel) "Aé1" (fun _ => "") 0 0
  refine plain.mpr ?_
  have last : ("Aé1".toList.filter HidSession.supported).getLast? = some '1' := by decide +kernel
  rw [HidSession.EndsPlain, last]
  decide

/-- After "A" all three leave SHIFT down. -/
theorem shift_stays_down :
    let session := HidSession.afterOpen .steady id .kbdOnly
    let injector : ActionInjector := { session, nextId := 0, batchDepth := 0 }
    let last := fun s : HidSession => (keyReports s.delivered).getLast?
    last ((HidSession.typeText "A").run session).2 = some [2, 0, 0, 0, 0, 0, 0, 0] ∧
    last ((HidSession.typeTextStrict "A").run session).2 = some [2, 0, 0, 0, 0, 0, 0, 0] ∧
    last ((ActionInjector.applyTypeText (fun _ => "") "A").run injector).2.session =
      some [2, 0, 0, 0, 0, 0, 0, 0] := by
  decide +kernel

end HidConnect
