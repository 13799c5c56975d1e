import HidConnect.Kernel.Landed
import HidConnect.Coalesce.Taken
import HidConnect.Session.Chord

/-! A text with a character that has no key. The bridge refuses it where it comes to that character, with
the characters in front of it typed. -/
namespace HidConnect
open Fallible
open Kernel (Action)

namespace HidSession

theorem onlyTransport_pressMessage (k : KeyboardHid) (p : KeyPress) :
    CoalescingWriter.OnlyTransport (CoalescingWriter.push (pressMessage k p)) := by
  have small : (8 : UInt16).toNat ≤ hidMaxSize := by decide
  refine CoalescingWriter.onlyTransport_pushInput ⟨small, ?_⟩
  rw [Vector.length_toList]
  exact small

/-- A key event never takes anything back. If it returns `Ok` it has added a report, and for a scancode
of the keyboard it fails only if the keyboard is not open, or with the transport. -/
theorem key_taken {p : KeyPress} (valid : KeyboardHid.accepts p.scancode = true) (s : HidSession) :
    s.transport.taken.length ≤ ((keyPress p).run s).2.transport.taken.length ∧
      (((keyPress p).run s).1.isOk = true →
        s.transport.taken.length < ((keyPress p).run s).2.transport.taken.length) ∧
      (s.transport.OfWrite → ∀ e, ((keyPress p).run s).1 = .err e →
        e = keyboardNotOpen ∨ e.IsTransport) := by
  cases opened : s.kbd with
  | none =>
    have run : (keyPress p).run s = (.err keyboardNotOpen, s) := by
      rw [keyPress, key, Method.run_read_bind, opened]
      rfl
    rw [run]
    refine ⟨Nat.le_refl _, fun ok => absurd ok Bool.false_ne_true, fun _ e same => ?_⟩
    cases same
    exact .inl rfl
  | some k =>
    have run : (keyPress p).run s = (send (pressMessage k p)).run { s with kbd := some (k.after p) } := by
      rw [keyPress, key_run opened, KeyboardHid.keyEvent_after k valid, pressMessage]
      exact Method.run_lift_ok_bind ..
    have ok := pressMessage_serializes k p
    obtain ⟨kept, added⟩ := CoalescingWriter.push_taken ok s.transport
    rw [run, send, onWriter, Method.run_zoom, Method.run_discard]
    dsimp only
    rw [Outcome.isOk_map]
    refine ⟨kept, fun done => ?_, fun good e failed => ?_⟩
    · have some_ : 0 < (pressMessage k p).bytes.length :=
        List.length_pos_iff.mpr (CoalescingWriter.bytes_ne_nil ok)
      have := added done
      omega
    · have only := Method.FailsWithin.discard (onlyTransport_pressMessage k p)
      exact .inr ((only s.transport good).1 e failed)

end HidSession

namespace ActionInjector

theorem rejecting_run {α : Type} (id : ActionId) (m : Session α) (s : HidSession) :
    (rejecting id m).run s = ((m.run s).1.mapErr (rejectSession id), (m.run s).2) := by
  unfold rejecting
  rcases hr : m.run s with ⟨r, t⟩
  cases r <;> simp [hr, Outcome.mapErr]

def Denies (rejection : BridgeOutcome) : Prop := rejection.code = some .permissionDenied

theorem not_denies_session {e : Error} (id : ActionId)
    (known : e = keyboardNotOpen ∨ e.IsTransport) : ¬Denies (rejectSession id e) := by
  intro same
  rcases known with rfl | ⟨message, rfl⟩
  · cases same
  · cases same

def load (s : HidSession) : Nat := s.transport.taken.length

def Kept (s s' : HidSession) : Prop := load s ≤ load s'

instance : IsPreorder HidSession Kept where
  refl _ := Nat.le_refl _
  trans _ _ _ := Nat.le_trans

/-- A call that takes nothing back, and has taken something in if it comes back with `Ok`, or with an
outcome that sends the caller to the clipboard. -/
structure Loads (s : HidSession) (r : Outcome BridgeOutcome Unit) (s' : HidSession) : Prop where
  kept : load s ≤ load s'
  ok : r.isOk = true → load s < load s'
  denied : s.transport.OfWrite → ∀ rejection, r = .err rejection → Denies rejection → load s < load s'

theorem loads_press (id : ActionId) {p : KeyPress} (valid : KeyboardHid.accepts p.scancode = true)
    (s : HidSession) : Loads s ((rejecting id (HidSession.keyPress p)).run s).1
      ((rejecting id (HidSession.keyPress p)).run s).2 := by
  obtain ⟨kept, ok, errors⟩ := HidSession.key_taken valid s
  rw [rejecting_run]
  rcases hr : (HidSession.keyPress p).run s with ⟨r, t⟩
  rw [hr] at kept ok errors
  constructor
  case kept => exact kept
  case ok =>
    intro done
    cases r with
    | ok a => exact ok rfl
    | err e => cases done
    | panic => cases done
  case denied =>
    intro good rejection same denies
    cases r with
    | ok a => cases same
    | err e =>
      cases same
      exact absurd denies (not_denies_session id (errors good e rfl))
    | panic => cases same

theorem Loads.then {m m' : Bridging Unit} {s : HidSession} (first : Loads s (m.run s).1 (m.run s).2)
    (rest : Method.Keeps Kept m') :
    Loads s ((m >>= fun _ => m').run s).1 ((m >>= fun _ => m').run s).2 := by
  rcases hr : m.run s with ⟨r, t⟩
  rw [hr] at first
  cases r with
  | ok a =>
    have grown := Nat.lt_of_lt_of_le (first.ok rfl) (rest t)
    rw [Method.run_bind_ok hr]
    exact ⟨grown.le, fun _ => grown, fun _ _ _ _ => grown⟩
  | err e =>
    rw [Method.run_bind_err hr]
    exact first
  | panic =>
    rw [Method.run_bind_panic hr]
    exact first

section
variable (showChar : Char → String)

theorem loads_typeChar (id : ActionId) {ch : Char} (known : HidSession.supported ch = true)
    (s : HidSession) :
    Loads s ((typeChar showChar id ch).run s).1 ((typeChar showChar id ch).run s).2 := by
  obtain ⟨sc, mods, hc⟩ := HidSession.tryFromChar_supported known
  have valid : KeyboardHid.accepts sc.toU8 = true := by
    have inside := HidSession.inside_of_char hc
    simp only [KeyboardHid.accepts, Bool.or_eq_true, decide_eq_true_eq]
    omega
  rw [typeChar, hc]
  exact (loads_press id (p := ⟨sc.toU8, true, mods⟩) valid s).then
    fun s => (loads_press id (p := ⟨sc.toU8, false, mods⟩) valid s).kept

theorem typeChar_kept (id : ActionId) (ch : Char) :
    Method.Keeps Kept (typeChar showChar id ch) := by
  intro s
  cases known : HidSession.supported ch with
  | true => exact (loads_typeChar showChar id known s).kept
  | false =>
    obtain ⟨mods, hc⟩ := HidSession.tryFromChar_unsupported known
    rw [typeChar, hc]
    exact Nat.le_refl _

theorem neverPanics_rejecting {α : Type} (id : ActionId) {m : Session α} (h : Method.NeverPanics m) :
    Method.NeverPanics (rejecting id m) := by
  intro s
  have calm := h s
  rw [rejecting_run]
  rcases hr : m.run s with ⟨r, t⟩
  rw [hr] at calm
  cases r with
  | ok a => rfl
  | err e => rfl
  | panic => cases calm

theorem neverPanics_typeChar (id : ActionId) (ch : Char) :
    Method.NeverPanics (typeChar showChar id ch) := by
  unfold typeChar
  split
  · exact Method.neverPanics_fail _
  · exact (neverPanics_rejecting id (HidSession.neverPanics_key _ _ _)).bind fun _ =>
      neverPanics_rejecting id (HidSession.neverPanics_key _ _ _)

theorem typeChars_kept (id : ActionId) (chars : List Char) :
    Method.Keeps Kept (Method.forEach chars (typeChar showChar id)) :=
  Method.keeps_forEach chars fun ch _ => typeChar_kept showChar id ch

theorem typeChars_stop (id : ActionId) {chars : List Char}
    (refusable : ∃ ch ∈ chars, HidSession.supported ch = false) (s : HidSession) :
    ((Method.forEach chars (typeChar showChar id)).run s).1.isOk = false := by
  induction chars generalizing s with
  | nil =>
    obtain ⟨ch, known, -⟩ := refusable
    cases known
  | cons ch rest ih =>
    rw [Method.forEach_cons]
    cases known : HidSession.supported ch with
    | false =>
      obtain ⟨mods, hc⟩ := HidSession.tryFromChar_unsupported known
      rw [typeChar, hc]
      rfl
    | true =>
      have later : ∃ ch ∈ rest, HidSession.supported ch = false := by
        obtain ⟨ch', listed, refused⟩ := refusable
        rcases List.mem_cons.mp listed with rfl | listed
        · rw [known] at refused
          cases refused
        · exact ⟨ch', listed, refused⟩
      refine Bool.eq_false_iff.mpr fun ends => ?_
      rw [Method.isOk_run_bind, ih later] at ends
      cases ends.2

def BeginsRefused (text : String) : Prop := ∃ ch ∈ text.toList.head?, HidSession.supported ch = false

theorem typeChars_reject (id : ActionId) {chars : List Char}
    (refusable : ∃ ch ∈ chars, HidSession.supported ch = false) (s : HidSession) :
    ∃ rejection t, (Method.forEach chars (typeChar showChar id)).run s = (.err rejection, t) := by
  have stops := typeChars_stop showChar id refusable s
  have calm := Method.neverPanics_forEach (neverPanics_typeChar showChar id) chars s
  rcases hr : (Method.forEach chars (typeChar showChar id)).run s with ⟨r, t⟩
  rw [hr] at stops calm
  cases r with
  | ok a => cases stops
  | err rejection => exact ⟨rejection, t, rfl⟩
  | panic => cases calm

/-- With a first character that has a key, a press of it goes out before anything can be denied. -/
theorem typeChars_denied (id : ActionId) {ch : Char} (known : HidSession.supported ch = true)
    (rest : List Char) {s t : HidSession} (good : s.transport.OfWrite) {rejection : BridgeOutcome}
    (run : (Method.forEach (ch :: rest) (typeChar showChar id)).run s = (.err rejection, t))
    (denies : Denies rejection) : load s < load t := by
  have loads := (loads_typeChar showChar id known s).then (typeChars_kept showChar id rest)
  rw [← Method.forEach_cons, run] at loads
  exact loads.denied good rejection rfl denies

/-- The action is rejected. It sends the caller to the clipboard with nothing taken in exactly if the
first character is one that has no key. -/
theorem typeText_refused (id : ActionId) (batchDepth : UInt32) {text : String}
    (refusable : ∃ ch ∈ text.toList, HidSession.supported ch = false) {s : HidSession}
    (good : s.transport.OfWrite) :
    ∃ rejection t, (typeText showChar id batchDepth text).run s = (.err rejection, t) ∧
      rejection.landed = false ∧
      (Denies rejection ∧ t.transport.taken = s.transport.taken ↔ BeginsRefused text) := by
  obtain ⟨rejection, t, hr⟩ := typeChars_reject showChar id refusable s
  have run : (typeText showChar id batchDepth text).run s = (.err rejection, t) :=
    Method.run_bind_err hr
  refine ⟨rejection, t, run, rejects_typeText showChar id batchDepth text s rejection t run, ?_⟩
  unfold BeginsRefused
  cases whole : text.toList with
  | nil =>
    rw [whole] at hr
    cases hr
  | cons ch rest =>
    rw [whole] at hr
    cases known : HidSession.supported ch with
    | false =>
      obtain ⟨mods, hc⟩ := HidSession.tryFromChar_unsupported known
      rw [Method.forEach_cons, typeChar, hc] at hr
      cases hr
      exact iff_of_true ⟨rfl, rfl⟩ ⟨ch, rfl, known⟩
    | true =>
      apply iff_of_false
      · rintro ⟨denies, same⟩
        have grown := typeChars_denied showChar id known rest good hr denies
        rw [load, load, same] at grown
        exact Nat.lt_irrefl _ grown
      · rintro ⟨ch', head, refused⟩
        cases head
        rw [known] at refused
        cases refused

variable (text : String) (deadlineMs : UInt32)

/-- The outcome sends the caller to the clipboard, and no byte of the text has been written or is left
staged. -/
def TypesNothing (i : ActionInjector) : Prop :=
  let (answer, i') := (apply showChar (.typeText text deadlineMs)).run i
  (∃ outcome, answer = .ok outcome ∧ Denies outcome) ∧ i'.writer.taken = i.writer.taken

/-- In a batch that comes to the text in the state `reached`: the last outcome sends the caller to the
clipboard, no byte of the text is staged, and the flush behind the batch adds nothing. -/
def BatchTypesNothing (start : ActionInjector) (before rest : List Action)
    (outcomes : List BridgeOutcome) (reached : ActionInjector) : Prop :=
  let actions := before ++ .typeText text deadlineMs :: rest
  ∃ outcome staged final,
    (stageMany showChar actions).run start =
      (.ok (outcomes ++ [outcome], some outcomes.length), staged) ∧
    (applyMany showChar actions).run start =
      (.ok (outcomes ++ [outcome], some outcomes.length), final) ∧
    Denies outcome ∧ staged.writer.taken = reached.writer.taken ∧ staged.writer.Unloads final.writer

/-- The actions in front have landed, and left the batch in this state. -/
def Reaches (start : ActionInjector) (before : List Action) (outcomes : List BridgeOutcome)
    (reached : ActionInjector) : Prop :=
  (applyEach showChar before []).run { start with batchDepth := deeper start.batchDepth } =
    (.ok (outcomes, none), reached)

theorem applyEach_append {before : List Action} {outcomes landed : List BridgeOutcome}
    {i reached : ActionInjector}
    (front : (applyEach showChar before outcomes).run i = (.ok (landed, none), reached))
    (rest : List Action) :
    (applyEach showChar (before ++ rest) outcomes).run i =
      (applyEach showChar rest landed).run reached := by
  induction before generalizing outcomes i with
  | nil =>
    cases front
    rfl
  | cons action more ih =>
    obtain ⟨outcome, i₁, one, others⟩ := Method.of_run_bind_ok front
    rw [List.cons_append, applyEach, Method.run_bind_ok one]
    split at others
    · rename_i lands
      rw [if_pos lands]
      exact ih others
    · cases others

variable {text}

theorem apply_refused (refusable : ∃ ch ∈ text.toList, HidSession.supported ch = false)
    {i : ActionInjector} (good : i.writer.OfWrite) :
    ∃ rejection i', (apply showChar (.typeText text deadlineMs)).run i = (.ok rejection, i') ∧
      rejection.landed = false ∧
      (Denies rejection ∧ i'.writer.taken = i.writer.taken ↔ BeginsRefused text) := by
  obtain ⟨rejection, t, run, landed, exactly⟩ :=
    typeText_refused showChar i.nextId i.batchDepth refusable good
  refine ⟨rejection, { i with session := t, nextId := i.nextId + 1 }, ?_, landed, exactly⟩
  rw [apply_typeText, applyTypeText]
  simp only [run]

theorem stageMany_refused {start reached i' : ActionInjector} {before : List Action}
    {outcomes : List BridgeOutcome} (reaches : Reaches showChar start before outcomes reached)
    (rest : List Action) {rejection : BridgeOutcome}
    (run : (apply showChar (.typeText text deadlineMs)).run reached = (.ok rejection, i'))
    (failed : rejection.landed = false) :
    (stageMany showChar (before ++ .typeText text deadlineMs :: rest)).run start =
      (.ok (outcomes ++ [rejection], some outcomes.length),
        { i' with batchDepth := shallower i'.batchDepth }) := by
  have stops : (applyEach showChar (.typeText text deadlineMs :: rest) outcomes).run reached =
      (.ok (outcomes ++ [rejection], some outcomes.length), i') := by
    rw [applyEach, Method.run_bind_ok run, failed]
    rfl
  have each := (applyEach_append showChar reaches (.typeText text deadlineMs :: rest)).trans stops
  rw [stageMany, Method.run_update_bind, Method.run_bind_ok each]
  rfl

theorem terminalFlush_run (i : ActionInjector) :
    ∃ error, terminalFlush.run i = (.ok error, { i with session :=
      { i.session with transport := (CoalescingWriter.flushNow.run i.writer).2 } }) := by
  have calm := CoalescingWriter.neverPanics_flushNow i.writer
  rcases hr : CoalescingWriter.flushNow.run i.writer with ⟨r, w⟩
  rw [hr] at calm
  have flushed : HidSession.flushNow.run i.session = (r, { i.session with transport := w }) := by
    rw [HidSession.flushNow, HidSession.onWriter, Method.run_zoom]
    exact congrArg (fun ran => (ran.1, { i.session with transport := ran.2 })) hr
  cases r with
  | ok n => exact ⟨none, by simp only [terminalFlush, flushed]⟩
  | err e => exact ⟨some e, by simp only [terminalFlush, flushed]⟩
  | panic => cases calm

theorem applyMany_failed {start staged : ActionInjector} {actions : List Action}
    {outcomes : List BridgeOutcome} {index : Nat}
    (run : (stageMany showChar actions).run start = (.ok (outcomes, some index), staged)) :
    ∃ final, (applyMany showChar actions).run start = (.ok (outcomes, some index), final) ∧
      staged.writer.Unloads final.writer := by
  rw [applyMany, Method.run_bind_ok run]
  dsimp only
  rw [Method.run_read_bind]
  split
  · obtain ⟨error, flushed⟩ := staged.terminalFlush_run
    refine ⟨{ staged with session :=
      { staged.session with transport := (CoalescingWriter.flushNow.run staged.writer).2 } }, ?_,
      staged.writer.unloads_flushNow⟩
    rw [Method.run_bind_ok flushed]
    cases error <;> rfl
  · exact ⟨staged, rfl, staged.writer.unloads_same⟩

/-- A text with a character that has no key is refused without anything typed, alone and in a batch,
exactly if that is its first character. -/
theorem rejected_text_types_nothing_iff
    (refusable : ∃ ch ∈ text.toList, HidSession.supported ch = false) (i : ActionInjector)
    (good : i.writer.OfWrite) :
    (TypesNothing showChar text deadlineMs i ↔ BeginsRefused text) ∧
      ∀ start before rest outcomes, Reaches showChar start before outcomes i →
        (BatchTypesNothing showChar text deadlineMs start before rest outcomes i ↔
          BeginsRefused text) := by
  obtain ⟨rejection, i', run, failed, exactly⟩ := apply_refused showChar deadlineMs refusable good
  constructor
  · rw [TypesNothing, run, ← exactly]
    refine and_congr_left fun _ => ?_
    exact ⟨fun ⟨outcome, same, denies⟩ => Outcome.ok.inj same ▸ denies, fun denies => ⟨_, rfl, denies⟩⟩
  · intro start before rest outcomes reaches
    have staged := stageMany_refused showChar deadlineMs reaches rest run failed
    obtain ⟨final, many, unloads⟩ := applyMany_failed showChar staged
    rw [← exactly]
    constructor
    · rintro ⟨outcome, staged', final', staged'', -, denies, same, -⟩
      obtain ⟨answer, rfl⟩ := Prod.mk.inj (staged.symm.trans staged'')
      obtain rfl : rejection = outcome := by
        simpa using answer
      exact ⟨denies, same⟩
    · rintro ⟨denies, same⟩
      exact ⟨rejection, _, final, staged, many, denies, same, unloads⟩

end

/-- Nothing is typed of "éa". -/
theorem rejected_text_types_nothing_first :
    TypesNothing (fun _ => "") "éa" 0 (new (HidSession.afterOpen .steady id .kbdOnly)) := by
  refine (rejected_text_types_nothing_iff (fun _ => "") 0 ⟨'é', ?_, ?_⟩ _ ?_).1.mpr ⟨'é', ?_, ?_⟩
  · decide
  · decide
  · exact ⟨Transport.steady_ofWrite.write, Transport.steady_ofWrite.flush⟩
  · decide
  · decide

/-- Of "aé" the first letter is typed, alone and behind a key in a batch. -/
theorem first_letter_is_typed :
    let i := new (HidSession.afterOpen .steady id .kbdOnly)
    (∃ ch ∈ "aé".toList, HidSession.supported ch = false) ∧ i.writer.OfWrite ∧
      ¬TypesNothing (fun _ => "") "aé" 0 i ∧
      ∃ reached, Reaches (fun _ => "") i [.key 3 0] [.ok 0] reached ∧
        ¬BatchTypesNothing (fun _ => "") "aé" 0 i [.key 3 0] [] [.ok 0] reached := by
  intro i
  refine ⟨⟨'é', by decide, by decide⟩,
    ⟨Transport.steady_ofWrite.write, Transport.steady_ofWrite.flush⟩, ?_, ?_⟩
  · exact fun nothing => absurd nothing.2 (by decide +kernel)
  · refine ⟨((applyEach (fun _ => "") [.key 3 0] []).run { i with batchDepth := 1 }).2, ?_, ?_⟩
    · exact Prod.ext (by decide +kernel) rfl
    · rintro ⟨outcome, staged, final, run, -, -, same, -⟩
      obtain rfl := congrArg Prod.snd run
      exact absurd same (by decide +kernel)

end ActionInjector

end HidConnect
