import HidConnect.Client.Channel
import HidConnect.Library.Accounts

/-! Which error each flush waiter is told, over all that the commands before it did. -/
namespace HidConnect
open Fallible Accounts

def fixedFrames {α : Type} {n : Nat} (frames : Vector α n) (len : UInt8) : List α :=
  frames.toList.take len.toNat

/-- The session calls that a command makes, one after the other and whatever the ones before have
returned. The flush of a waiter is not one of them. -/
def HidCommand.calls : HidCommand → List (Session Unit)
  | .typeText s => [.discard (HidSession.typeText s)]
  | .typeTextStrict s => [.discard (HidSession.typeTextStrict s)]
  | .key scancode pressed mods => [HidSession.key scancode pressed mods]
  | .keyTap scancode mods => [do
    HidSession.key scancode true mods
    HidSession.key scancode false .empty]
  | .keyBatchFixed len frames => (fixedFrames frames len).map fun frame =>
    HidSession.key frame.scancode frame.pressed frame.mods
  | .mouseMotion dx dy buttons => [HidSession.mouseMotion dx dy buttons]
  | .mouseButtons buttons => [HidSession.mouseButtons buttons]
  | .mouseScroll hscroll vscroll => [.discard (HidSession.mouseScroll hscroll vscroll)]
  | .mouseBatchFixed len frames => (fixedFrames frames len).map fun frame =>
    HidSession.mouseMotion frame.dx frame.dy frame.buttons
  | .injectKeycode action keycode repeats metastate =>
    [HidSession.injectKeycode action keycode repeats metastate]
  | .androidKeyTap keycode metastate => [HidSession.tapAndroidKeycode keycode metastate]
  | .androidKeyBatchFixed len frames => (fixedFrames frames len).map fun frame =>
    HidSession.injectKeycode frame.action frame.keycode frame.repeats frame.metastate
  | .backOrScreenOn action => [HidSession.send (.backOrScreenOn ⟨action⟩)]
  | .multitouchDown id x y pressure => [HidSession.injectTouchAction TouchAction.down id x y pressure]
  | .multitouchMove id x y pressure => [HidSession.injectTouchAction TouchAction.move id x y pressure]
  | .multitouchUp id => [HidSession.injectTouchAction TouchAction.up id 0 0 0]
  | .multitouchCancel id => [HidSession.cancelTouch id]
  | .touchBatchFixed len frames => (fixedFrames frames len).map fun frame =>
    HidSession.injectTouch frame.action frame.pointerId frame.x frame.y frame.pressure
  | .injectScroll x y hscroll vscroll buttons =>
    [HidSession.injectScroll x y hscroll vscroll buttons]
  | .injectScrollBatchFixed len frames => (fixedFrames frames len).map fun frame =>
    HidSession.injectScroll frame.x frame.y frame.hscroll frame.vscroll frame.buttons
  | .gamepadButton btn pressed => [HidSession.setButton btn pressed]
  | .gamepadButtons buttons => [HidSession.setButtons buttons]
  | .gamepadStick axis value => [HidSession.setStick axis value]
  | .gamepadStickRaw axis value => [HidSession.setStickRaw axis value]
  | .gamepadLeftStickRaw x y => [HidSession.setLeftStickRaw x y]
  | .gamepadRightStickRaw x y => [HidSession.setRightStickRaw x y]
  | .gamepadTriggersRaw left right => [HidSession.setTriggersRaw left right]
  | .gamepadSticksRaw leftX leftY rightX rightY leftTrigger rightTrigger =>
    [HidSession.setSticksRaw leftX leftY rightX rightY leftTrigger rightTrigger]
  | .gamepadFrameRaw frame => [HidSession.setFrameRaw frame]
  | .gamepadFrameRawUnchecked frame => [HidSession.setFrameRawUncheckedFrame frame]
  | .gamepadFrameRawBatch frames => [.discard (HidSession.setFrameRawBatch frames)]
  | .gamepadFrameRawBatchFixed len frames =>
    [.discard (HidSession.setFrameRawBatch (fixedFrames frames len))]
  | .gamepadFrameRawBatchFixedUnchecked len frames =>
    [.discard (HidSession.setFrameRawBatchUnchecked (fixedFrames frames len))]
  | .gamepadFrameRawBatchUnchecked frames => [.discard (HidSession.setFrameRawBatchUnchecked frames)]
  | .gamepadPackedFrame frame => [HidSession.setFrameRawPacked frame]
  | .gamepadPackedFrameBatch frames => [.discard (HidSession.setFrameRawPackedBatch frames)]
  | .gamepadPackedFrameBatchFixed len frames =>
    [.discard (HidSession.setFrameRawPackedBatch (fixedFrames frames len))]
  | .setScreenSize width height => [HidSession.setScreenSize width height]
  | .setScreenPower on => [HidSession.send (.setDisplayPower ⟨on⟩)]
  | .showNotifications => [HidSession.showNotifications]
  | .showQuickSettings => [HidSession.showQuickSettings]
  | .collapsePanels => [HidSession.collapsePanels]
  | .rotateDevice => [HidSession.rotateDevice]
  | .resizeDisplay width height => [HidSession.resizeDisplay width height]
  | .setTorch on => [HidSession.setTorch on]
  | .cameraZoomIn => [HidSession.cameraZoomIn]
  | .cameraZoomOut => [HidSession.cameraZoomOut]
  | .openHardKeyboardSettings => [HidSession.openHardKeyboardSettings]
  | .resetVideo => [HidSession.resetVideo]
  | .aiConfig flags sampleIntervalMs featureDim =>
    [HidSession.send (.aiConfig { flags, sampleIntervalMs, featureDim })]
  | .aiQuery sinceTimestampMs => [HidSession.send (.aiQuery ⟨sinceTimestampMs⟩)]
  | .aiPause => [HidSession.send .aiPause]
  | .launchApp name => [HidSession.send (.startApp ⟨name⟩)]
  | .setClipboard text paste => [HidSession.send (.setClipboard { sequence := 0, paste, text })]
  | .setClipboardSequenced sequence text paste =>
    [HidSession.send (.setClipboard { sequence, paste, text })]
  | .getClipboard copyKey => [HidSession.requestClipboard copyKey]
  | .flush => [.discard HidSession.flushNow]
  | .flushAck _ _ => []
  | .close => []

namespace Dispatcher

theorem attempt_discard {α : Type} (m : Session α) : attempt (Method.discard m) = attempt m := by
  change Method.mk _ = Method.mk _
  congr 1
  funext d
  obtain ⟨session, pending, notified⟩ := d
  simp only [call, Method.run_discard]
  rcases m.run session with ⟨r, s⟩
  cases r <;> cases pending <;> rfl

theorem attempt_single (m : Session Unit) : attempt m = Method.forEach [m] attempt := by
  rw [Method.forEach_cons, Method.forEach_nil, Method.bind_pure_unit]

theorem slice_fits {α : Type} {n : Nat} {len : UInt8} (fits : len.toNat ≤ n) (frames : Vector α n) :
    slice frames len = pure (fixedFrames frames len) := by
  rw [slice, if_pos fits, fixedFrames]

theorem eachOf_calls {α : Type} {n : Nat} {len : UInt8} (fits : len.toNat ≤ n)
    (frames : Vector α n) (m : α → Session Unit) :
    eachOf frames len m = Method.forEach ((fixedFrames frames len).map m) attempt := by
  rw [eachOf, slice_fits fits, Method.pure_bind, Method.forEach_map]

theorem allOf_calls {α : Type} {n : Nat} {len : UInt8} (fits : len.toNat ≤ n)
    (frames : Vector α n) (m : List α → Session Nat) :
    allOf frames len m = Method.forEach [.discard (m (fixedFrames frames len))] attempt := by
  rw [allOf, slice_fits fits, Method.pure_bind, ← attempt_single, attempt_discard]

theorem perform_calls {cmd : HidCommand} (sound : cmd.Sound) (silent : cmd.slots = [])
    (stays : cmd.isClose = false) : perform cmd = Method.forEach cmd.calls attempt := by
  cases cmd with
  | keyBatchFixed len frames => exact eachOf_calls sound frames _
  | mouseBatchFixed len frames => exact eachOf_calls sound frames _
  | androidKeyBatchFixed len frames => exact eachOf_calls sound frames _
  | touchBatchFixed len frames => exact eachOf_calls sound frames _
  | injectScrollBatchFixed len frames => exact eachOf_calls sound frames _
  | gamepadFrameRawBatchFixed len frames => exact allOf_calls sound frames _
  | gamepadFrameRawBatchFixedUnchecked len frames => exact allOf_calls sound frames _
  | gamepadPackedFrameBatchFixed len frames => exact allOf_calls sound frames _
  | typeText s => exact (attempt_discard _).symm.trans (attempt_single _)
  | typeTextStrict s => exact (attempt_discard _).symm.trans (attempt_single _)
  | gamepadFrameRawBatch frames => exact (attempt_discard _).symm.trans (attempt_single _)
  | gamepadFrameRawBatchUnchecked frames => exact (attempt_discard _).symm.trans (attempt_single _)
  | gamepadPackedFrameBatch frames => exact (attempt_discard _).symm.trans (attempt_single _)
  | flush => exact (attempt_discard _).symm.trans (attempt_single _)
  | mouseScroll hscroll vscroll => exact (attempt_discard _).symm.trans (attempt_single _)
  | setScreenSize width height =>
    -- the only call that cannot fail, and the only one whose result is not looked at
    refine Eq.trans ?_ (attempt_single _)
    change Method.mk _ = Method.mk _
    congr 1
    funext d
    obtain ⟨session, pending, notified⟩ := d
    cases pending <;> rfl
  | flushAck seq slot => cases silent
  | close => cases stays
  | _ => exact attempt_single _

end Dispatcher

/-- A call that failed. Its number tells it from other calls that fail alike. -/
structure Fault where
  number : Nat
  error : Error

def Fault.of {α : Type} (number : Nat) : Result α → Option Fault
  | .err error => some { number, error }
  | _ => none

/-- What the calls come to, one after the other: the faults, and the session behind them. -/
def faultsOf : List (Session Unit) → Nat → HidSession → List Fault × HidSession
  | [], _, s => ([], s)
  | m :: rest, n, s =>
    let later := faultsOf rest (n + 1) (m.run s).2
    ((Fault.of n (m.run s).1).toList ++ later.1, later.2)

structure FlushReport where
  slot : FlushSlot
  flush : Result Nat

/-- The flushes that are waited for, each with the faults since the one before. -/
def windows : List HidCommand → Nat → HidSession → List Fault → List (Window FlushReport Fault)
  | [], _, _, _ => []
  | cmd :: rest, n, s, failed =>
    match cmd.slots with
    | [] =>
      let done := faultsOf cmd.calls n s
      windows rest (n + cmd.calls.length) done.2 (failed ++ done.1)
    | slot :: _ =>
      let flush := HidSession.flushNow.run s
      { report := { slot, flush := flush.1 }, failed, own := Fault.of n flush.1 } ::
        windows rest (n + 1) flush.2 []

/-- A fault, or without one what the flush has returned. -/
def FlushReport.told (r : FlushReport) : Option Fault → Result Nat
  | some fault => .err fault.error
  | none => r.flush

theorem FlushReport.told_own (slot : FlushSlot) (flush : Result Nat) (n : Nat) :
    FlushReport.told { slot, flush } (Fault.of n flush) = flush := by
  cases flush <;> rfl

def answer (a : Account FlushReport Fault) : FlushSlot × Result Nat :=
  (a.window.report.slot, a.window.report.told a.reported)

namespace Dispatcher

/-- The commands that the loop gets through, up to a `Close` or a panic. -/
def processed : List HidCommand → Dispatcher → List HidCommand
  | [], _ => []
  | cmd :: rest, d =>
    match (dispatchToSession cmd).run d with
    | (.ok false, d') => cmd :: processed rest d'
    | _ => []

theorem attempt_run {m : Session Unit} {d : Dispatcher} (n : Nat)
    (calm : (m.run d.session).1.isPanic = false) :
    (attempt m).run d = (.ok (), { d with
      session := (m.run d.session).2
      pendingError := d.pendingError.or ((Fault.of n (m.run d.session).1).map Fault.error) }) := by
  rw [attempt, Method.run_bind_ok (call_run calm), recordFirstError, Method.run_update]
  rcases hr : m.run d.session with ⟨r, s⟩
  rw [hr] at calm
  obtain ⟨session, pending, notified⟩ := d
  cases r with
  | ok _ => cases pending <;> rfl
  | err e => cases pending <;> rfl
  | panic => contradiction

theorem head?_map_append (xs ys : List Fault) :
    (xs ++ ys).head?.map Fault.error =
      (xs.head?.map Fault.error).or (ys.head?.map Fault.error) := by
  cases xs <;> rfl

theorem forEach_attempt {ms : List (Session Unit)} (n : Nat) {d : Dispatcher}
    (calm : ((Method.forEach ms attempt).run d).1.isPanic = false) :
    (Method.forEach ms attempt).run d = (.ok (), { d with
      session := (faultsOf ms n d.session).2
      pendingError :=
        d.pendingError.or ((faultsOf ms n d.session).1.head?.map Fault.error) }) := by
  induction ms generalizing n d with
  | nil =>
    rw [faultsOf]
    simp
  | cons m rest ih =>
    have first : (m.run d.session).1.isPanic = false := by
      by_contra panics
      have crash : (m.run d.session).1 = .panic := by
        cases hr : (m.run d.session).1 <;> simp_all
      rw [Method.forEach_cons, Method.run_bind_panics (attempt_panics d crash)] at calm
      contradiction
    rw [Method.forEach_cons, Method.run_bind_ok (attempt_run n first)] at calm ⊢
    rw [ih (n + 1) calm, faultsOf]
    dsimp only
    rw [head?_map_append, Option.or_assoc]
    cases Fault.of n (m.run d.session).1 <;> rfl

/-- The first fault due is told. The flush's own fault, if another one was told, is pending. -/
theorem flushAck_run (n : Nat) (slot : FlushSlot) {carried : Option Fault} {failed : List Fault}
    {d : Dispatcher} (pending : d.pendingError = (carried.toList ++ failed).head?.map Fault.error)
    {r : Result Nat} {s : HidSession} (run : HidSession.flushNow.run d.session = (r, s)) :
    let a : Account FlushReport Fault :=
      { carried, window := { report := { slot, flush := r }, failed, own := Fault.of n r } }
    (flushAck slot).run d = (.ok (), {
      session := s
      pendingError := a.left.map Fault.error
      notified := d.notified ++ [answer a] }) := by
  intro a
  have calm := HidSession.neverPanics_flushNow d.session
  have flushed := call_run (d := { d with pendingError := none }) calm
  rw [run] at calm flushed
  rw [flushAck, Method.run_read_bind, Method.run_update_bind, Method.run_bind_ok flushed]
  have early : a.early = carried.toList ++ failed := rfl
  cases shape : carried.toList ++ failed with
  | nil =>
    rw [shape] at pending early
    have told : a.reported = Fault.of n r := Account.reported_of_none early
    have left : a.left = none := if_pos early
    rw [pending, left, answer, told, FlushReport.told_own]
    rfl
  | cons f rest =>
    rw [shape] at pending early
    have some : a.early ≠ [] := early ▸ List.cons_ne_nil f rest
    have told : a.reported = .some f := by
      rw [Account.reported_of_early some, early, List.head?_cons]
    have left : a.left = Fault.of n r := if_neg some
    rw [pending, left, answer, told]
    cases r with
    | ok _ => rfl
    | err e => rfl
    | panic => contradiction

theorem dispatch_run {cmd : HidCommand} {d d' : Dispatcher} {r : Outcome Empty Unit}
    (run : (perform cmd).run d = (r, d')) :
    (dispatchToSession cmd).run d = (r.map fun _ => cmd.isClose, d') := by
  rw [dispatch_eq, Method.run_bind_pure, run]

section Windows
variable {cmd : HidCommand} {rest : List HidCommand} {n : Nat} {s : HidSession} {failed : List Fault}

theorem windows_calls (silent : cmd.slots = []) :
    windows (cmd :: rest) n s failed = windows rest (n + cmd.calls.length)
      (faultsOf cmd.calls n s).2 (failed ++ (faultsOf cmd.calls n s).1) := by
  rw [windows, silent]

theorem windows_flushAck (seq : UInt64) (slot : FlushSlot) {r : Result Nat} {s' : HidSession}
    (run : HidSession.flushNow.run s = (r, s')) :
    windows (.flushAck seq slot :: rest) n s failed =
      { report := { slot, flush := r }, failed, own := Fault.of n r } ::
        windows rest (n + 1) s' [] := by
  rw [windows]
  dsimp only [HidCommand.slots]
  rw [run]

end Windows

theorem notified_stop {cmd : HidCommand} (rest : List HidCommand) {d d' : Dispatcher}
    {r : Outcome Empty Unit} (run : (perform cmd).run d = (r, d'))
    (stops : r = .panic ∨ cmd.isClose = true) :
    ((dispatcherLoop (cmd :: rest)).run d).2.notified = d.notified ∧ processed (cmd :: rest) d = [] := by
  have silent : cmd.slots = [] := by
    rcases slots_cases cmd with silent | ⟨seq, slot, rfl⟩
    · exact silent
    · have calm := neverPanics_flushAck slot d
      change (perform (.flushAck seq slot)).run d = _ at run
      rcases stops with rfl | close
      · rw [show (flushAck slot).run d = _ from run] at calm
        contradiction
      · cases close
  have same : d'.notified = d.notified := by
    have kept := silent_perform silent d
    rw [run] at kept
    exact kept
  have step := dispatch_run run
  rw [dispatcherLoop, processed, step]
  cases r with
  | err e => exact e.elim
  | panic =>
    rw [Method.run_bind_panic step]
    exact ⟨same, rfl⟩
  | ok _ =>
    have close : cmd.isClose = true := stops.resolve_left fun panics => by cases panics
    rw [Method.run_bind_ok step, close, if_pos rfl]
    exact ⟨(silent_intoInner d').trans same, rfl⟩

/-- Induction on the commands: what is pending is the first fault due. -/
theorem notified_loop (cmds : List HidCommand) (n : Nat) (carried : Option Fault)
    (failed : List Fault) {d : Dispatcher}
    (pending : d.pendingError = (carried.toList ++ failed).head?.map Fault.error) :
    ((dispatcherLoop cmds).run d).2.notified = d.notified ++
      (accounts carried (windows (processed cmds d) n d.session failed)).map answer := by
  induction cmds generalizing n carried failed d with
  | nil =>
    have silent : Method.Keeps Silent (dispatcherLoop []) :=
      (silent_call _).bind fun _ => silent_intoInner
    rw [silent d]
    exact (List.append_nil _).symm
  | cons cmd rest ih =>
    rcases run : (perform cmd).run d with ⟨r, d'⟩
    by_cases stops : r = .panic ∨ cmd.isClose = true
    · obtain ⟨notified, none⟩ := notified_stop rest run stops
      rw [notified, none]
      exact (List.append_nil _).symm
    · rw [not_or, Bool.not_eq_true] at stops
      obtain ⟨calm, stays⟩ := stops
      obtain rfl : r = .ok () := by
        cases r with
        | ok _ => rfl
        | err e => exact e.elim
        | panic => exact absurd rfl calm
      have step := dispatch_run run
      rw [stays] at step
      have goes : (dispatcherLoop (cmd :: rest)).run d = (dispatcherLoop rest).run d' := by
        rw [dispatcherLoop, Method.run_bind_ok step, if_neg Bool.false_ne_true]
      have next : processed (cmd :: rest) d = cmd :: processed rest d' := by
        rw [processed, step]
        rfl
      rw [goes, next]
      rcases slots_cases cmd with silent | ⟨seq, slot, rfl⟩
      · have sound : cmd.Sound := (perform_iff cmd d).mp (by rw [run]; rfl)
        rw [perform_calls sound silent stays] at run
        obtain ⟨-, rfl⟩ := Prod.mk.inj (run.symm.trans (forEach_attempt n (by rw [run]; rfl)))
        rw [windows_calls silent]
        refine ih (n + cmd.calls.length) _ _ ?_
        rw [← List.append_assoc, head?_map_append, ← pending]
      · rcases flushed : HidSession.flushNow.run d.session with ⟨r, s⟩
        have told := flushAck_run n slot pending flushed
        dsimp only at told
        obtain ⟨-, rfl⟩ := Prod.mk.inj (run.symm.trans told)
        rw [windows_flushAck seq slot flushed, ih (n + 1) (Account.left _) []]
        · rw [accounts, List.map_cons, List.append_assoc]
          rfl
        · dsimp only
          rw [List.append_nil]
          cases Account.left _ <;> rfl

end Dispatcher

structure Numbered (lo hi : Nat) (fs : List Fault) : Prop where
  rising : fs.Pairwise fun f g => f.number < g.number
  within : ∀ f ∈ fs, lo ≤ f.number ∧ f.number < hi

namespace Numbered
variable {lo mid hi : Nat} {fs gs : List Fault}

theorem nil (lo hi : Nat) : Numbered lo hi [] :=
  ⟨List.Pairwise.nil, fun _ hf => absurd hf List.not_mem_nil⟩

theorem append (hf : Numbered lo mid fs) (hg : Numbered mid hi gs) (le : lo ≤ mid) (le' : mid ≤ hi) :
    Numbered lo hi (fs ++ gs) where
  rising := List.pairwise_append.mpr ⟨hf.rising, hg.rising, fun f mf g mg =>
    Nat.lt_of_lt_of_le (hf.within f mf).2 (hg.within g mg).1⟩
  within f mem := by
    rcases List.mem_append.mp mem with mf | mg
    · exact ⟨(hf.within f mf).1, Nat.lt_of_lt_of_le (hf.within f mf).2 le'⟩
    · exact ⟨Nat.le_trans le (hg.within f mg).1, (hg.within f mg).2⟩

theorem nodup (h : Numbered lo hi fs) : fs.Nodup :=
  h.rising.imp fun less same => Nat.ne_of_lt less (congrArg Fault.number same)

theorem of {α : Type} (n : Nat) (r : Result α) : Numbered n (n + 1) (Fault.of n r).toList := by
  cases r with
  | ok _ => exact nil _ _
  | err e => exact ⟨List.pairwise_singleton _ _, fun f hf => by
      obtain rfl := List.mem_singleton.mp hf
      exact ⟨Nat.le_refl n, Nat.lt_succ_self n⟩⟩
  | panic => exact nil _ _

theorem faultsOf (ms : List (Session Unit)) (n : Nat) (s : HidSession) :
    Numbered n (n + ms.length) (HidConnect.faultsOf ms n s).1 := by
  induction ms generalizing n s with
  | nil => exact nil _ _
  | cons m rest ih =>
    have later := ih (n + 1) (m.run s).2
    rw [List.length_cons, Nat.add_comm rest.length, ← Nat.add_assoc]
    exact (of n (m.run s).1).append later (Nat.le_succ n) (Nat.le_add_right _ _)

theorem windows (cmds : List HidCommand) {n : Nat} (s : HidSession) (le : lo ≤ n)
    (h : Numbered lo n fs) :
    ∃ hi, n ≤ hi ∧ Numbered lo hi (faults (HidConnect.windows cmds n s fs)) := by
  induction cmds generalizing lo n s fs with
  | nil => exact ⟨n, Nat.le_refl n, nil _ _⟩
  | cons cmd rest ih =>
    rcases Dispatcher.slots_cases cmd with silent | ⟨seq, slot, rfl⟩
    · rw [Dispatcher.windows_calls silent]
      obtain ⟨hi, above, numbered⟩ := ih _ (Nat.le_trans le (Nat.le_add_right _ _))
        (h.append (faultsOf cmd.calls n s) le (Nat.le_add_right _ _))
      exact ⟨hi, Nat.le_trans (Nat.le_add_right _ _) above, numbered⟩
    · obtain ⟨hi, above, numbered⟩ := ih (HidSession.flushNow.run s).2 (Nat.le_refl (n + 1)) (nil _ _)
      refine ⟨hi, Nat.le_of_succ_le above, ?_⟩
      rw [Dispatcher.windows_flushAck seq slot rfl, faults, List.flatMap_cons]
      exact (h.append (of n _) le (Nat.le_succ n)).append numbered (by omega) above

end Numbered

theorem windows_own (cmds : List HidCommand) (n : Nat) (s : HidSession) (failed : List Fault) :
    ∀ w ∈ windows cmds n s failed, ∃ m, w.own = Fault.of m w.report.flush := by
  induction cmds generalizing n s failed with
  | nil => exact fun w hw => absurd hw List.not_mem_nil
  | cons cmd rest ih =>
    rcases Dispatcher.slots_cases cmd with silent | ⟨seq, slot, rfl⟩
    · rw [Dispatcher.windows_calls silent]
      exact ih _ _ _
    · rw [Dispatcher.windows_flushAck seq slot rfl]
      exact List.forall_mem_cons.mpr ⟨⟨n, rfl⟩, ih _ _ _⟩

theorem answer_err_iff {a : Account FlushReport Fault} {m : Nat}
    (own : a.window.own = Fault.of m a.window.report.flush) :
    (∃ e, (answer a).2 = .err e) ↔
      a.carried.isSome = true ∨ a.window.failed ≠ [] ∨ ∃ e, a.window.report.flush = .err e := by
  by_cases none : a.early = []
  · obtain ⟨carried, failed⟩ := List.append_eq_nil_iff.mp none
    rw [answer, Account.reported_of_none none, own]
    have told : a.window.report.told (Fault.of m a.window.report.flush) = a.window.report.flush :=
      FlushReport.told_own a.window.report.slot _ m
    rw [told]
    have uncarried : a.carried = Option.none := Option.toList_eq_nil_iff.mp carried
    simp [uncarried, failed]
  · obtain ⟨f, rest, early⟩ := List.exists_cons_of_ne_nil none
    have first : a.reported = some f := by
      rw [Account.reported_of_early none, early, List.head?_cons]
    refine iff_of_true ⟨f.error, by rw [answer, first]; rfl⟩ ?_
    by_contra nothing
    simp only [not_or, not_not, Bool.not_eq_true, Option.isSome_eq_false_iff, Option.isNone_iff_eq_none]
      at nothing
    exact none (by rw [Account.early, nothing.1, nothing.2.1]; rfl)

theorem window_mem {carried : Option Fault} {ws : List (Window FlushReport Fault)}
    {a : Account FlushReport Fault} (h : a ∈ accounts carried ws) : a.window ∈ ws := by
  induction ws generalizing carried with
  | nil => cases h
  | cons w ws ih =>
    rcases List.mem_cons.mp h with rfl | later
    · exact List.mem_cons_self ..
    · exact List.mem_cons_of_mem _ (ih later)

open Dispatcher in
/-- Every waiter is told the first fault due to it: one carried over, then those of the commands since
the waiter before, then its own flush's. It is told an error exactly if there is one due. No fault is
told twice, and that of a flush whose waiter was told another one is told the next waiter. -/
theorem flush_acks_report_first (session : HidSession) (cmds : List HidCommand) :
    let d := idleDispatcher session
    let told := accounts none (windows (processed cmds d) 0 session [])
    ((dispatcherLoop cmds).run d).2.notified = told.map answer ∧
      (∀ a ∈ told, (∃ e, (answer a).2 = .err e) ↔
        a.carried.isSome = true ∨ a.window.failed ≠ [] ∨ ∃ e, a.window.report.flush = .err e) ∧
      (told.filterMap Account.reported).Nodup ∧
      ∀ i a b f, told[i]? = some a → told[i + 1]? = some b → a.early ≠ [] → a.window.own = some f →
        b.reported = some f := by
  intro d told
  refine ⟨?_, ?_, ?_, ?_⟩
  · exact notified_loop cmds 0 none [] (d := d) rfl
  · intro a mem
    obtain ⟨m, own⟩ := windows_own _ _ _ _ a.window (window_mem mem)
    exact answer_err_iff own
  · obtain ⟨_, -, numbered⟩ :=
      Numbered.windows (processed cmds d) session (Nat.le_refl 0) (Numbered.nil 0 0)
    exact (reported_sublist none _).nodup numbered.nodup
  · intro i a b f here next some own
    refine Account.reported_of_carried ?_
    rw [carried_next here next, Account.left, if_neg some, own]

end HidConnect
