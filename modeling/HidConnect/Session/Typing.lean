import HidConnect.Session.Retry
import Mathlib.Data.List.Nodup
import Mathlib.Data.List.TakeWhile

/-! Typed text as a host reads it: the keyboard reports of `type_text`, replayed on a US-QWERTY
layout. -/
namespace HidConnect
open Fallible

/- The host. -/

/-- The keys from usage 0x04 on, each without and with SHIFT. -/
def usQwerty : List (Char × Char) :=
  ((List.range 26).map fun i => (Char.ofNat (97 + i), Char.ofNat (65 + i))) ++
  [('1', '!'), ('2', '@'), ('3', '#'), ('4', '$'), ('5', '%'), ('6', '^'), ('7', '&'), ('8', '*'),
    ('9', '('), ('0', ')'), ('\n', '\n'), ('\x1b', '\x1b'), ('\x08', '\x08'), ('\t', '\t'),
    (' ', ' '), ('-', '_'), ('=', '+'), ('[', '\x7b'), (']', '\x7d'), ('\x5c', '|'), ('\x5c', '|'),
    (';', ':'), ('\x27', '\x22'), ('\x60', '~'), (',', '<'), ('.', '>'), ('/', '?')]

def keyChar (key : UInt8) (shift : Bool) : Option Char :=
  if key.toNat < 4 then none
  else (usQwerty[key.toNat - 4]?).map fun chars => if shift then chars.2 else chars.1

/-- A keyboard report: the modifiers, a reserved byte, and six key slots. -/
abbrev KeyReport := List UInt8

namespace KeyReport

def shift (report : KeyReport) : Bool := report.headD 0 &&& 0x22 ≠ 0

def keys (report : KeyReport) : List UInt8 := (report.drop 2).filter (· ≠ 0)

/-- The characters of the keys that were not down before, each with the state of SHIFT. -/
def strokes (down : List UInt8) (report : KeyReport) : List (Char × Bool) :=
  (report.keys.filter fun key => key ∉ down).filterMap fun key =>
    (keyChar key report.shift).map fun ch => (ch, report.shift)

end KeyReport

/-- What a host reads from the reports that follow a report with these keys down. -/
def hostReads : List UInt8 → List KeyReport → List (Char × Bool)
  | _, [] => []
  | down, report :: rest => report.strokes down ++ hostReads report.keys rest

/-- The characters of the layout that need SHIFT. -/
def needsShift (ch : Char) : Bool :=
  ('A' ≤ ch ∧ ch ≤ 'Z') ∨ ch ∈ ['!', '@', '#', '$', '%', '^', '&', '*', '(', ')', '_', '+', '\x7b',
    '\x7d', '|', ':', '\x22', '~', '<', '>', '?']

def keyReports (events : List DeviceEvent) : List KeyReport :=
  events.filterMap fun
    | .input id report => if id = hidIdKeyboard then some report else none
    | _ => none

/- The keys of a character. -/

def keyReport (mods : Modifiers) (down : List UInt8) : KeyReport :=
  [mods.bits, 0] ++ down ++ List.replicate (keyboardMaxKeys - down.length) 0

/-- A key goes down and comes up, with the modifiers held throughout. -/
def tapReports (scancode : UInt8) (mods : Modifiers) : List KeyReport :=
  [keyReport mods [scancode], keyReport mods []]

/-- The reports that type a character; none if it has no key. -/
def charReports (ch : Char) : List KeyReport :=
  match Scancode.tryFromChar ch with
  | (some sc, mods) => tapReports sc.toU8 mods
  | (none, _) => []

theorem ascii_of_supported {ch : Char} (h : HidSession.supported ch = true) : ch.toNat < 128 := by
  by_contra far
  have beyond (last : Char) (near : last.toNat < 128) : ¬ch ≤ last := fun low =>
    far (Nat.lt_of_le_of_lt low near)
  rw [HidSession.supported, Scancode.tryFromChar, if_neg fun inside => beyond 'z' (by decide) inside.2,
    if_neg fun inside => beyond 'Z' (by decide) inside.2,
    if_neg fun inside => beyond '9' (by decide) inside.2] at h
  · exact Bool.false_ne_true h
  -- the characters of the table are all below 128
  all_goals
    rintro rfl
    exact far (by decide)

def keysAfter : List UInt8 → List KeyReport → List UInt8
  | down, [] => down
  | _, report :: rest => keysAfter report.keys rest

theorem hostReads_append (down : List UInt8) (xs ys : List KeyReport) :
    hostReads down (xs ++ ys) = hostReads down xs ++ hostReads (keysAfter down xs) ys := by
  induction xs generalizing down with
  | nil => rfl
  | cons report rest ih => rw [List.cons_append, hostReads, hostReads, ih, List.append_assoc, keysAfter]

def supportedChars : List Char := ((List.range 128).map Char.ofNat).filter HidSession.supported

theorem mem_supportedChars {ch : Char} (h : HidSession.supported ch = true) : ch ∈ supportedChars :=
  List.mem_filter.mpr ⟨List.mem_map.mpr
    ⟨ch.toNat, List.mem_range.mpr (ascii_of_supported h), ch.ofNat_toNat⟩, h⟩

/-- A character is read as itself, with SHIFT where the layout wants it, and no key stays down. -/
theorem hostReads_char {ch : Char} (h : HidSession.supported ch = true) :
    hostReads [] (charReports ch) = [(ch, needsShift ch)] ∧ keysAfter [] (charReports ch) = [] := by
  have all : supportedChars.all (fun ch => hostReads [] (charReports ch) = [(ch, needsShift ch)] ∧
      keysAfter [] (charReports ch) = []) = true := by
    decide +kernel
  exact of_decide_eq_true (List.all_eq_true.mp all ch (mem_supportedChars h))

def textReports (chars : List Char) : List KeyReport := chars.flatMap charReports

theorem hostReads_text {chars : List Char} (all : ∀ ch ∈ chars, HidSession.supported ch = true) :
    hostReads [] (textReports chars) = chars.map fun ch => (ch, needsShift ch) := by
  induction chars with
  | nil => rfl
  | cons ch rest ih =>
    obtain ⟨first, up⟩ := hostReads_char (all ch (List.mem_cons_self ..))
    rw [textReports, List.flatMap_cons, hostReads_append, first, up, List.map_cons, ← textReports,
      ih fun ch hm => all ch (List.mem_cons_of_mem _ hm)]
    rfl

/- The keyboard driver, with no key held. -/

namespace KeyboardHid

def allUp : Vector Bool 0x66 := Vector.replicate 0x66 false

theorem keys_of_none_held {k : KeyboardHid} (none : k.heldScancodes = []) : k.keys = allUp := by
  apply Vector.ext
  intro i hi
  have free := List.filter_eq_nil_iff.mp none i (List.mem_range.mpr hi)
  have here : k.keys.toList.getD i false = k.keys[i] := by
    simp [hi]
  rw [here] at free
  simpa [allUp] using free

theorem held_up (mods : Modifiers) : heldScancodes ⟨allUp, mods⟩ = [] := by
  refine List.filter_eq_nil_iff.mpr fun sc hm => ?_
  have inside := List.mem_range.mp hm
  have read : allUp.toList.getD sc false = allUp[sc] := by simp [inside]
  rw [read, allUp, Vector.getElem_replicate]
  exact Bool.false_ne_true

theorem held_down (i : Fin 0x66) (mods : Modifiers) :
    heldScancodes ⟨allUp.set i true, mods⟩ = [i.val] := by
  have here : heldScancodes ⟨allUp.set i true, mods⟩ =
      (List.range 0x66).filter fun sc => decide (sc = i.val) := by
    refine List.filter_congr fun sc hm => ?_
    have inside := List.mem_range.mp hm
    have read : (allUp.set i true).toList.getD sc false = (allUp.set i true)[sc] := by simp [inside]
    rw [read, Vector.getElem_set]
    by_cases same : i.val = sc
    · simp [same]
    · simp [same, allUp, Ne.symm same]
  rw [here, List.filter_eq, List.count_eq_one_of_mem List.nodup_range (List.mem_range.mpr i.isLt)]
  rfl

theorem allUp_again (i : Fin 0x66) : (allUp.set i true).set i false = allUp := by
  apply Vector.ext
  intro j hj
  simp only [allUp, Vector.getElem_set, Vector.getElem_replicate]
  split
  · rfl
  · rfl

theorem toInputMessage_report (k : KeyboardHid) (mods : Modifiers) :
    toInputMessage hidIdKeyboard (k.buildReport mods) =
      .ok (uhidInputMessage hidIdKeyboard 8 (fillSlots mods.bits [] k.heldScancodes)) := by
  have eight := length_fillSlots mods.bits [] k.heldScancodes (by decide)
  have size : (k.buildReport mods).size = 8 := by
    rw [buildReport, HidReport.new, eight]
    rfl
  have data : (k.buildReport mods).data.toList.take 8 = fillSlots mods.bits [] k.heldScancodes := by
    have first : (padReport (fillSlots mods.bits [] k.heldScancodes)).toList.take 8 = _ :=
      padReport_take (by decide) (Nat.le_of_eq eight.symm)
    exact first.trans (List.take_of_length_le (Nat.le_of_eq eight))
  have own : (k.buildReport mods).hidId = hidIdKeyboard := rfl
  rw [toInputMessage, if_pos own, size]
  change Outcome.ok (ControlMessage.uhidInput
    { id := _, size := 8, data := padReport ((k.buildReport mods).data.toList.take 8) }) = _
  rw [data, own]
  rfl

theorem keyEvent_report {k : KeyboardHid} {i : Fin 0x66} {sc : UInt8} (same : sc.toNat = i)
    (pressed : Bool) (mods : Modifiers) :
    (keyEvent sc pressed mods).run k = (.ok (uhidInputMessage hidIdKeyboard 8
      (fillSlots mods.bits [] (heldScancodes ⟨k.keys.set i pressed, mods⟩))),
        ⟨k.keys.set i pressed, mods⟩) := by
  have accepted : accepts sc = true := by
    have small := i.isLt
    simp only [accepts, Bool.or_eq_true, decide_eq_true_eq]
    omega
  have inside : sc.toNat < 0x66 := same ▸ i.isLt
  have set : (setKey sc pressed).run k = (.ok (), { k with keys := k.keys.set i pressed }) := by
    rw [setKey, if_pos accepted, Method.run_update, dif_pos inside]
    simp only [same]
  have injected : (injectKey sc pressed mods).run k =
      (.ok ((⟨k.keys.set i pressed, mods⟩ : KeyboardHid).buildReport mods),
        ⟨k.keys.set i pressed, mods⟩) := by
    rw [injectKey, Method.run_bind_ok set]
    rfl
  rw [keyEvent, Method.run_bind_ok injected, Method.run_lift, toInputMessage_report]

theorem keyEvent_down {i : Fin 0x66} {sc : UInt8} (same : sc.toNat = i) (mods m : Modifiers) :
    (keyEvent sc true mods).run ⟨allUp, m⟩ =
      (.ok (uhidInputMessage hidIdKeyboard 8 (keyReport mods [sc])), ⟨allUp.set i true, mods⟩) := by
  have code : i.val.toUInt8 = sc := by
    rw [← same]
    exact UInt8.ofNat_toNat
  rw [keyEvent_report same, held_down]
  change (Outcome.ok (uhidInputMessage hidIdKeyboard 8 (keyReport mods [i.val.toUInt8])), _) = _
  rw [code]

theorem keyEvent_up {i : Fin 0x66} {sc : UInt8} (same : sc.toNat = i) (mods m : Modifiers) :
    (keyEvent sc false mods).run ⟨allUp.set i true, m⟩ =
      (.ok (uhidInputMessage hidIdKeyboard 8 (keyReport mods [])), ⟨allUp, mods⟩) := by
  rw [keyEvent_report same]
  simp only [allUp_again, held_up]
  rfl

end KeyboardHid

namespace HidSession

/-- The keyboard is open with no key held, over a transport that never fails. -/
structure Idle (d : Bool) (stream : List ControlMessage) (s : HidSession) : Prop where
  keyboard : ∃ m, s.kbd = some ⟨KeyboardHid.allUp, m⟩
  carries : ∃ sent held, CoalescingWriter.Carries d s.transport sent held ∧ sent ++ held = stream
  working : Working s

def keyMessages (reports : List KeyReport) : List ControlMessage :=
  reports.map (uhidInputMessage hidIdKeyboard 8)

theorem keyReport_serializes {report : KeyReport} (eight : report.length = 8) :
    (uhidInputMessage hidIdKeyboard 8 report).Serializes := by
  have fits : FitsInput (8 : UInt16).toNat report := ⟨by decide, Nat.le_of_eq eight.symm⟩
  rw [ControlMessage.Serializes, serialize_uhidInputMessage hidIdKeyboard 8 fits]
  rfl

theorem key_report {d : Bool} {s : HidSession} {k k' : KeyboardHid} {sent held : List ControlMessage}
    (hk : s.kbd = some k) (carries : CoalescingWriter.Carries d s.transport sent held)
    (working : Working s) {sc : UInt8} {pressed : Bool} {mods : Modifiers} {report : KeyReport}
    (eight : report.length = 8) (event : (KeyboardHid.keyEvent sc pressed mods).run k =
      (.ok (uhidInputMessage hidIdKeyboard 8 report), k')) :
    ∃ s' sent' held', (key sc pressed mods).run s = (.ok (), s') ∧ s'.kbd = some k' ∧
      CoalescingWriter.Carries d s'.transport sent' held' ∧
      sent' ++ held' = sent ++ held ++ keyMessages [report] ∧ Working s' := by
  have effect := (CoalescingWriter.emits_push d (uhidInputMessage hidIdKeyboard 8 report)).discard
    s.transport sent held carries
  obtain ⟨landed, sent', held', carries', joined, _, whole⟩ := effect.stream
  have ok := effect.total working fun msg hm => by
    obtain rfl := List.mem_singleton.mp hm
    exact keyReport_serializes eight
  have run : (key sc pressed mods).run s = (send (uhidInputMessage hidIdKeyboard 8 report)).run
      { s with kbd := some k' } := by
    rw [key_run hk, event]
    rfl
  obtain ⟨u, hu⟩ := Outcome.isOk_iff.mp ok
  refine ⟨_, sent', held', run.trans (Prod.ext hu rfl), rfl, carries', ?_,
    working_of_plans working effect.onWrite effect.onFlush⟩
  rw [joined, whole ok]
  rfl

namespace Idle
variable {d : Bool} {stream : List ControlMessage} {s : HidSession}

theorem keyTap (h : Idle d stream s) {sc : UInt8} (inside : sc.toNat < 0x66) (mods : Modifiers) :
    ∃ s', (HidSession.keyTap sc mods).run s = (.ok (), s') ∧
      Idle d (stream ++ keyMessages (tapReports sc mods)) s' := by
  obtain ⟨m, hk⟩ := h.keyboard
  obtain ⟨sent, held, carries, joined⟩ := h.carries
  have same : sc.toNat = (⟨sc.toNat, inside⟩ : Fin 0x66) := rfl
  obtain ⟨s₁, sent₁, held₁, run₁, hk₁, carries₁, joined₁, working₁⟩ :=
    key_report hk carries h.working rfl (KeyboardHid.keyEvent_down same mods m)
  obtain ⟨s₂, sent₂, held₂, run₂, hk₂, carries₂, joined₂, working₂⟩ :=
    key_report hk₁ carries₁ working₁ rfl (KeyboardHid.keyEvent_up same mods mods)
  refine ⟨s₂, ?_, ⟨mods, hk₂⟩, ⟨sent₂, held₂, carries₂, ?_⟩, working₂⟩
  · rw [HidSession.keyTap, Method.run_bind_ok run₁, run₂]
  · rw [joined₂, joined₁, joined, List.append_assoc]
    rfl

end Idle

theorem tryFromChar_supported {ch : Char} (h : supported ch = true) :
    ∃ sc mods, Scancode.tryFromChar ch = (some sc, mods) := by
  unfold supported at h
  rcases hc : Scancode.tryFromChar ch with ⟨o, mods⟩
  rw [hc] at h
  obtain ⟨sc, rfl⟩ := Option.isSome_iff_exists.mp h
  exact ⟨sc, mods, rfl⟩

theorem tryFromChar_unsupported {ch : Char} (h : supported ch = false) :
    ∃ mods, Scancode.tryFromChar ch = (none, mods) := by
  unfold supported at h
  rcases hc : Scancode.tryFromChar ch with ⟨o, mods⟩
  rw [hc] at h
  obtain rfl := Option.isNone_iff_eq_none.mp (Option.isSome_eq_false_iff.mp h)
  exact ⟨mods, rfl⟩

theorem inside_of_char {ch : Char} {sc : Scancode} {mods : Modifiers}
    (h : Scancode.tryFromChar ch = (some sc, mods)) : sc.toU8.toNat < 0x66 := by
  have all : supportedChars.all (fun ch =>
      (Scancode.tryFromChar ch).1.all fun sc => sc.toU8.toNat < 0x66) = true := by
    decide +kernel
  have here := List.all_eq_true.mp all ch (mem_supportedChars (by rw [supported, h]; rfl))
  rw [h] at here
  exact of_decide_eq_true here

/- The loops over the characters. -/

/-- What `type_text` does with a character. -/
def typeChar (ch : Char) : Session Unit :=
  match Scancode.tryFromChar ch with
  | (some sc, mods) => keyTap sc.toU8 mods
  | (none, _) => pure ()

def unsupportedChar : Error := .sessionLifecycle "unsupported char in type_text_strict"

theorem charReports_unsupported {ch : Char} (h : supported ch = false) : charReports ch = [] := by
  obtain ⟨mods, hc⟩ := tryFromChar_unsupported h
  simp only [charReports, hc]

theorem textReports_filter (chars : List Char) :
    textReports (chars.filter supported) = textReports chars := by
  induction chars with
  | nil => rfl
  | cons ch rest ih =>
    rw [List.filter_cons]
    split
    · rw [textReports, List.flatMap_cons, ← textReports, ih]
      rfl
    · rename_i unsupported
      rw [ih, textReports, textReports, List.flatMap_cons,
        charReports_unsupported (Bool.eq_false_iff.mpr unsupported), List.nil_append]

namespace Idle
variable {d : Bool} {stream : List ControlMessage} {s : HidSession}

theorem typeChar (h : Idle d stream s) (ch : Char) :
    ∃ s', (HidSession.typeChar ch).run s = (.ok (), s') ∧
      Idle d (stream ++ keyMessages (charReports ch)) s' := by
  unfold HidSession.typeChar charReports
  rcases hc : Scancode.tryFromChar ch with ⟨o, mods⟩
  cases o with
  | none => exact ⟨s, rfl, by simpa [keyMessages] using h⟩
  | some sc => exact h.keyTap (inside_of_char hc) mods

theorem typeText (h : Idle d stream s) (chars : List Char) :
    ∃ s', (Method.forEach chars HidSession.typeChar).run s = (.ok (), s') ∧
      Idle d (stream ++ keyMessages (textReports chars)) s' := by
  induction chars generalizing stream s with
  | nil => exact ⟨s, rfl, by simpa [keyMessages, textReports] using h⟩
  | cons ch rest ih =>
    obtain ⟨s₁, run₁, h₁⟩ := h.typeChar ch
    obtain ⟨s', run, h'⟩ := ih h₁
    refine ⟨s', ?_, ?_⟩
    · rw [Method.forEach_cons, Method.run_bind_ok run₁, run]
    · rw [textReports, List.flatMap_cons, keyMessages, List.map_append, ← List.append_assoc]
      exact h'

end Idle

def firstUnsupported (chars : List Char) : Option Char := chars.find? fun ch => !supported ch

/-- A loop that types like `type_text` and stops at an unsupported character. -/
theorem forEach_strict {ε : Type} {f : Char → Method ε HidSession Unit} (refusal : Char → ε)
    (types : ∀ {ch s s'}, supported ch = true → (typeChar ch).run s = (.ok (), s') →
      (f ch).run s = (.ok (), s'))
    (stops : ∀ {ch}, supported ch = false → f ch = .fail (refusal ch)) {chars : List Char}
    {s s' : HidSession}
    (typed : (Method.forEach (chars.takeWhile supported) typeChar).run s = (.ok (), s')) :
    (Method.forEach chars f).run s =
      (match firstUnsupported chars with
        | none => .ok ()
        | some ch => .err (refusal ch), s') := by
  induction chars generalizing s with
  | nil => rw [← show s = s' from congrArg Prod.snd typed]; rfl
  | cons ch rest ih =>
    rw [List.takeWhile_cons] at typed
    rw [Method.forEach_cons, firstUnsupported, List.find?_cons]
    cases hs : supported ch with
    | false =>
      rw [hs] at typed
      obtain rfl : s = s' := congrArg Prod.snd typed
      rw [stops hs]
      rfl
    | true =>
      rw [hs, if_pos rfl, Method.forEach_cons] at typed
      obtain ⟨_, s₁, first, others⟩ := Method.of_run_bind_ok typed
      rw [Method.run_bind_ok (types hs first), ih others]
      rfl

theorem typeTextStrict_run {text : String} {s s' : HidSession}
    (typed : (Method.forEach (text.toList.takeWhile supported) typeChar).run s = (.ok (), s')) :
    (typeTextStrict text).run s =
      (match firstUnsupported text.toList with
        | none => .ok ()
        | some _ => .err unsupportedChar, s') := by
  refine forEach_strict (fun _ => unsupportedChar) ?_ ?_ typed
  · intro ch s s' hs run
    obtain ⟨sc, mods, hc⟩ := tryFromChar_supported hs
    rw [typeChar, hc] at run
    simpa only [hc] using run
  · intro ch hs
    obtain ⟨mods, hc⟩ := tryFromChar_unsupported hs
    simp only [hc, unsupportedChar]

/- Sessions over a transport that never fails. -/

theorem working_step {s : HidSession} (whole : WholeMessages s) (working : Working s)
    (op : SessionOp) : Working (step s op) := by
  obtain ⟨d, sent, held, carries⟩ := whole
  obtain ⟨_, onWrite, onFlush⟩ := writer_step carries op
  exact working_of_plans working onWrite onFlush

theorem working_reached {t : Transport} (clock : Nat → Nat) (req : OpenRequest)
    (fresh : t.wire = []) (never : t.NeverFails) (ops : List SessionOp) :
    WholeMessages (Run.after step (afterOpen t clock req) ops) ∧
      Working (Run.after step (afterOpen t clock req) ops) := by
  obtain ⟨_, working, _⟩ := opened_working clock req fresh never
  exact Run.preserved (fun s => WholeMessages s ∧ Working s)
    (fun _ op h => ⟨wholeMessages_step h.1 op, working_step h.1 h.2 op⟩)
    ⟨wholeMessages_opened fresh never.allOrNothing never.2, working⟩ ops

theorem idle_reached {t : Transport} (clock : Nat → Nat) (req : OpenRequest)
    (fresh : t.wire = []) (never : t.NeverFails) (ops : List SessionOp) {k : KeyboardHid}
    (opened : (Run.after step (afterOpen t clock req) ops).kbd = some k)
    (up : k.heldScancodes = []) :
    ∃ d stream, Idle d stream (Run.after step (afterOpen t clock req) ops) := by
  obtain ⟨⟨d, sent, held, carries⟩, working⟩ := working_reached clock req fresh never ops
  refine ⟨d, _, ⟨k.deviceMod, ?_⟩, ⟨sent, held, carries, rfl⟩, working⟩
  rw [opened, ← KeyboardHid.keys_of_none_held up]

def newKeyReports (s s' : HidSession) : List KeyReport :=
  keyReports (s'.delivered.drop s.delivered.length)

theorem keyReports_messages {reports : List KeyReport} (eight : ∀ r ∈ reports, r.length = 8) :
    keyReports ((keyMessages reports).map eventOfMessage) = reports := by
  induction reports with
  | nil => rfl
  | cons report rest ih =>
    have size := eight report (List.mem_cons_self ..)
    have whole : (padReport report).toList.take 8 = report :=
      (padReport_take (by decide) (Nat.le_of_eq size.symm)).trans
        (List.take_of_length_le (Nat.le_of_eq size))
    have event : eventOfMessage (uhidInputMessage hidIdKeyboard 8 report) =
        .input hidIdKeyboard report := by
      change DeviceEvent.input _ ((padReport report).toList.take 8) = _
      rw [whole]
    have tail := ih fun r hr => eight r (List.mem_cons_of_mem _ hr)
    rw [keyMessages, List.map_cons, List.map_cons, event, keyReports, List.filterMap_cons]
    exact congrArg (report :: ·) tail

theorem length_textReports {chars : List Char} {report : KeyReport}
    (h : report ∈ textReports chars) : report.length = 8 := by
  obtain ⟨ch, _, here⟩ := List.mem_flatMap.mp h
  unfold charReports at here
  split at here
  · rcases List.mem_pair.mp here with rfl | rfl <;> rfl
  · contradiction

namespace Idle
variable {d : Bool} {stream : List ControlMessage} {s s' : HidSession}

theorem delivered (h : Idle d stream s) : s.delivered = stream.map eventOfMessage := by
  obtain ⟨sent, held, carries, rfl⟩ := h.carries
  exact delivered_of_carries carries h.working

theorem newKeyReports (h : Idle d stream s) {chars : List Char}
    (h' : Idle d (stream ++ keyMessages (textReports chars)) s') :
    HidSession.newKeyReports s s' = textReports chars := by
  rw [HidSession.newKeyReports, h.delivered, h'.delivered, drop_events,
    keyReports_messages fun _ hr => length_textReports hr]

end Idle

end HidSession

/-- Over a transport that never fails, a host that replays the reports of `type_text` reads the
supported characters, each with its state of SHIFT. The strict form returns `Ok` exactly if all are
supported, and then sends the same reports. -/
theorem typed_text_reads_back (t : Transport) (clock : Nat → Nat) (req : OpenRequest)
    (fresh : t.wire = []) (never : t.NeverFails) (ops : List SessionOp) (k : KeyboardHid)
    (opened : (Run.after HidSession.step (HidSession.afterOpen t clock req) ops).kbd = some k)
    (up : k.heldScancodes = []) (text : String) :
    let s := Run.after HidSession.step (HidSession.afterOpen t clock req) ops
    let typed := (HidSession.typeText text).run s
    let strict := (HidSession.typeTextStrict text).run s
    typed.1 = .ok () ∧
    hostReads [] (HidSession.newKeyReports s typed.2) =
      (text.toList.filter HidSession.supported).map (fun ch => (ch, needsShift ch)) ∧
    (strict.1 = .ok () ↔ ∀ ch ∈ text.toList, HidSession.supported ch = true) ∧
    (strict.1 = .ok () →
      HidSession.newKeyReports s strict.2 = HidSession.newKeyReports s typed.2) := by
  intro s typed strict
  obtain ⟨d, stream, idle⟩ := HidSession.idle_reached clock req fresh never ops opened up
  obtain ⟨s', run, after⟩ := idle.typeText text.toList
  obtain ⟨s'', run', after'⟩ := idle.typeText (text.toList.takeWhile HidSession.supported)
  have whole : typed = (.ok (), s') := run
  have stopped : strict = _ := HidSession.typeTextStrict_run run'
  have all : strict.1 = .ok () ↔ ∀ ch ∈ text.toList, HidSession.supported ch = true := by
    have none := List.find?_eq_none (p := fun ch => !HidSession.supported ch) (l := text.toList)
    simp only [Bool.not_eq_true', Bool.not_eq_false] at none
    rw [stopped, ← none, HidSession.firstUnsupported]
    cases text.toList.find? fun ch => !HidSession.supported ch <;> simp
  refine ⟨congrArg Prod.fst whole, ?_, all, fun ok => ?_⟩
  · rw [whole, idle.newKeyReports after, ← HidSession.textReports_filter]
    exact hostReads_text fun ch hm => (List.mem_filter.mp hm).2
  · rw [stopped, whole, idle.newKeyReports after, idle.newKeyReports after',
      List.takeWhile_eq_self_iff.mpr (all.mp ok)]

theorem typed_text_reads_back_shared :
    let s := Run.after HidSession.step (HidSession.afterOpen .steady id .kbdOnly) []
    hostReads [] (HidSession.newKeyReports s ((HidSession.typeText "aaAé1!").run s).2) =
      [('a', false), ('a', false), ('A', true), ('1', false), ('!', true)] := by
  obtain ⟨_, read, _⟩ := typed_text_reads_back .steady id .kbdOnly rfl Transport.steady_neverFails []
    .new rfl (by decide +kernel) "aaAé1!"
  have expected : ("aaAé1!".toList.filter HidSession.supported).map (fun ch => (ch, needsShift ch)) =
      [('a', false), ('a', false), ('A', true), ('1', false), ('!', true)] := by decide +kernel
  exact read.trans expected

end HidConnect
