import HidConnect.Session.Typing
import HidConnect.Session.Panics
import HidConnect.Coalesce.Direct
import HidConnect.Hid.Held

/-! A key chord that is interrupted: the guard's report is the last one, and it leaves the device and
the session with the same keyboard. -/
namespace HidConnect
open Fallible

/- A report as the host takes it. -/

/-- The keys that a report says are down. One that has the roll-over code in every slot names none. -/
def KeyReport.down (report : KeyReport) : List UInt8 :=
  if report.drop 2 = List.replicate keyboardMaxKeys scHidErrorRollOver then [] else report.keys

theorem not_mem_down {held : Finset Nat} {scancode : UInt8} (small : ∀ n ∈ held, n < 0x66)
    (free : scancode.toNat ∉ held) (mods : UInt8) :
    scancode ∉ KeyReport.down ([mods, 0] ++ keySlots held) := by
  have slots : ([mods, 0] ++ keySlots held).drop 2 = keySlots held := rfl
  rw [KeyReport.down, slots]
  split
  · exact List.not_mem_nil
  · rename_i named
    rw [KeyReport.keys, slots, List.mem_filter]
    rintro ⟨listed, nonzero⟩
    rw [keySlots] at listed named
    split at listed
    · rcases List.mem_append.mp listed with key | padding
      · obtain ⟨n, sorted, rfl⟩ := List.mem_map.mp key
        have inside := (Finset.mem_sort _).mp sorted
        have code : n.toUInt8.toNat = n := by
          have bound := small n inside
          simp
          omega
        rw [code] at free
        exact free inside
      · obtain rfl := List.eq_of_mem_replicate padding
        simp at nonzero
    · rename_i many
      rw [if_neg many] at named
      exact named rfl

/-- The report and the driver agree that the key is up and that no modifier is held. -/
structure KeyboardHid.Cleared (k : KeyboardHid) (scancode : UInt8) (report : KeyReport) : Prop where
  agrees : k.buildReport k.deviceMod = .new hidIdKeyboard report
  unmodified : k.deviceMod = .empty ∧ report.headD 0 = 0
  released : scancode.toNat ∉ k.held ∧ scancode ∉ report.down

namespace KeyboardHid

theorem not_mem_after (k : KeyboardHid) (scancode : UInt8) (mods : Modifiers) :
    scancode.toNat ∉ (k.after ⟨scancode, false, mods⟩).held := by
  rw [held_after, KeyPress.hold]
  split
  · simp
  · rename_i far
    rw [mem_held]
    exact fun inside => far inside.1

theorem cleared_after (k : KeyboardHid) (scancode : UInt8) :
    (k.after ⟨scancode, false, .empty⟩).Cleared scancode
      ([0, 0] ++ keySlots (k.after ⟨scancode, false, .empty⟩).held) := by
  have free := k.not_mem_after scancode .empty
  constructor
  · rw [buildReport_eq]
    rfl
  · exact ⟨rfl, rfl⟩
  · exact ⟨free, not_mem_down (fun n held => (mem_held.mp held).1) free 0⟩

theorem keyEvent_after (k : KeyboardHid) {p : KeyPress} (valid : accepts p.scancode = true) :
    (keyEvent p.scancode p.pressed p.modifiers).run k =
      (.ok (uhidInputMessage hidIdKeyboard 8 ([p.modifiers.bits, 0] ++ keySlots (k.after p).held)),
        k.after p) := by
  have injected := k.injectKey_run p
  rw [valid, if_pos rfl, ← held_after, ← buildReport_eq] at injected
  rw [keyEvent, Method.run_bind_ok injected, Method.run_lift, toInputMessage_report, fillSlots_held]

end KeyboardHid

namespace HidSession

def keyPress (p : KeyPress) : Session Unit := key p.scancode p.pressed p.modifiers

/-- The message that an accepted event of the keyboard sends. -/
def pressMessage (k : KeyboardHid) (p : KeyPress) : ControlMessage :=
  uhidInputMessage hidIdKeyboard 8 ([p.modifiers.bits, 0] ++ keySlots (k.after p).held)

theorem length_pressReport (k : KeyboardHid) (p : KeyPress) :
    ([p.modifiers.bits, 0] ++ keySlots (k.after p).held).length = 8 := by
  rw [← KeyboardHid.fillSlots_held]
  exact KeyboardHid.length_fillSlots _ [] _ (Nat.zero_le _)

theorem pressMessage_serializes (k : KeyboardHid) (p : KeyPress) : (pressMessage k p).Serializes :=
  keyReport_serializes (length_pressReport k p)

theorem keyPress_direct {s : HidSession} {k : KeyboardHid} (opened : s.kbd = some k)
    (mode : s.transport.direct = true) {p : KeyPress}
    (valid : KeyboardHid.accepts p.scancode = true) :
    ((keyPress p).run s).2.kbd = some (k.after p) ∧
      CoalescingWriter.Delivers (pressMessage k p).bytes s.transport ((keyPress p).run s).1.isOk
        ((keyPress p).run s).2.transport := by
  have pushed := CoalescingWriter.push_direct_delivers (pressMessage_serializes k p) mode
  have run : (keyPress p).run s = (send (pressMessage k p)).run { s with kbd := some (k.after p) } := by
    rw [keyPress, key_run opened, KeyboardHid.keyEvent_after k valid, pressMessage]
    exact Method.run_lift_ok_bind ..
  rw [run, send, onWriter, Method.run_zoom, Method.run_discard]
  dsimp only
  rw [Outcome.isOk_map]
  exact ⟨rfl, pushed⟩

/-- `n` writes later: the keyboard is open, and what was added to the wire is whole reports. -/
structure Typed (s : HidSession) (n : Nat) (s' : HidSession) : Prop where
  direct : s'.transport.direct = s.transport.direct
  opened : ∃ k, s'.kbd = some k
  onWrite : s'.transport.transport.onWrite = s.transport.transport.onWrite
  writes : s'.transport.transport.writes = s.transport.transport.writes + n
  landed : ∃ added events, s'.transport.transport.wire = s.transport.transport.wire ++ added ∧
    ∀ rest, readEvents (added ++ rest) = events ++ readEvents rest

namespace Typed
variable {s s₁ s₂ : HidSession} {m n : Nat}

theorem trans (first : Typed s m s₁) (second : Typed s₁ n s₂) : Typed s (m + n) s₂ := by
  obtain ⟨added, events, wire, reads⟩ := first.landed
  obtain ⟨added', events', wire', reads'⟩ := second.landed
  constructor
  case direct => exact second.direct.trans first.direct
  case opened => exact second.opened
  case onWrite => exact second.onWrite.trans first.onWrite
  case writes => rw [second.writes, first.writes, Nat.add_assoc]
  case landed =>
    refine ⟨added ++ added', events ++ events', by rw [wire', wire, List.append_assoc], ?_⟩
    intro rest
    rw [List.append_assoc, reads, reads', List.append_assoc]

theorem press {k : KeyboardHid} (opened : s.kbd = some k) (mode : s.transport.direct = true)
    (allOrNothing : s.transport.transport.AllOrNothing) {p : KeyPress}
    (valid : KeyboardHid.accepts p.scancode = true) : Typed s 1 ((keyPress p).run s).2 := by
  obtain ⟨kbd, sent⟩ := keyPress_direct opened mode valid
  obtain ⟨onWrite, writes⟩ := Transport.deliver_plan allOrNothing (pressMessage k p).bytes
  constructor
  case direct => exact sent.direct
  case opened => exact ⟨_, kbd⟩
  case onWrite => rw [sent.transport, onWrite]
  case writes => rw [sent.transport, writes]
  case landed =>
    rw [sent.transport]
    rcases Transport.deliver_fate allOrNothing (pressMessage k p).bytes with
      ⟨-, -, same⟩ | ⟨-, wrote⟩
    · rw [same]
      exact ⟨[], [], (List.append_nil _).symm, fun _ => rfl⟩
    · rw [wrote]
      exact ⟨_, [eventOfMessage (pressMessage k p)], rfl,
        readEvents_message (pressMessage_serializes k p)⟩

end Typed

theorem keyPresses_run (presses : List KeyPress) {s : HidSession} (opened : ∃ k, s.kbd = some k)
    (mode : s.transport.direct = true) (allOrNothing : s.transport.transport.AllOrNothing)
    (valid : ∀ p ∈ presses, KeyboardHid.accepts p.scancode = true) :
    ∃ r s', (Method.forEach presses keyPress).run s = (r, s') ∧
      (r = .ok () ∧ s.transport.transport.Accepts presses.length ∧ Typed s presses.length s' ∨
        (∃ e, r = .err e) ∧ ∃ j < presses.length, s.transport.transport.Accepts j ∧
          ¬s.transport.transport.Accepts (j + 1) ∧ Typed s (j + 1) s') := by
  induction presses generalizing s with
  | nil =>
    refine ⟨_, s, rfl, .inl ⟨rfl, Transport.accepts_zero _, rfl, opened, rfl, rfl, [], [], ?_⟩⟩
    exact ⟨(List.append_nil _).symm, fun _ => rfl⟩
  | cons p rest ih =>
    obtain ⟨k, opened⟩ := opened
    have here := valid p (List.mem_cons_self ..)
    have typed := Typed.press opened mode allOrNothing here
    obtain ⟨-, sent⟩ := keyPress_direct opened mode here
    have calm := neverPanics_key p.scancode p.pressed p.modifiers s
    rw [← keyPress] at calm
    rcases hr : (keyPress p).run s with ⟨r, s₁⟩
    rw [hr] at typed calm sent
    cases r with
    | panic => contradiction
    | err e =>
      have refused : ¬s.transport.transport.Accepts 1 := fun accepts =>
        Bool.false_ne_true (sent.ok.trans (Transport.deliver_isOk.mpr accepts))
      refine ⟨.err e, s₁, Method.run_bind_err hr, .inr ⟨⟨e, rfl⟩, 0, Nat.succ_pos _, ?_⟩⟩
      exact ⟨Transport.accepts_zero _, refused, typed⟩
    | ok _ =>
      have taken : s.transport.transport.Accepts 1 := Transport.deliver_isOk.mp sent.ok.symm
      have transport : s₁.transport.transport = s.transport.transport.wrote (pressMessage k p).bytes := by
        rw [sent.transport, Transport.deliver_accepted _ taken]
      have succ (n : Nat) : s.transport.transport.Accepts (n + 1) ↔ s₁.transport.transport.Accepts n := by
        rw [transport, Transport.accepts_succ (pressMessage k p).bytes, and_iff_right taken]
      have allOrNothing₁ : s₁.transport.transport.AllOrNothing := by
        rw [transport]
        exact allOrNothing
      obtain ⟨r, s', run, ends⟩ := ih typed.opened (typed.direct.trans mode) allOrNothing₁
        fun q hq => valid q (List.mem_cons_of_mem _ hq)
      refine ⟨r, s', (Method.run_bind_ok hr).trans run, ?_⟩
      rcases ends with ⟨ok, all, typed'⟩ | ⟨fails, j, inside, before, stop, typed'⟩
      · left
        refine ⟨ok, (succ _).mpr all, ?_⟩
        rw [List.length_cons, Nat.add_comm]
        exact typed.trans typed'
      · right
        refine ⟨fails, j + 1, Nat.succ_lt_succ inside, (succ _).mpr before, mt (succ _).mp stop, ?_⟩
        rw [Nat.add_comm (j + 1) 1]
        exact typed.trans typed'

theorem keyPresses_last {front : List KeyPress} {p : KeyPress} {s s₁ : HidSession}
    (opened : ∃ k, s.kbd = some k) (mode : s.transport.direct = true)
    (allOrNothing : s.transport.transport.AllOrNothing)
    (valid : ∀ q ∈ front, KeyboardHid.accepts q.scancode = true)
    (run : (Method.forEach (front ++ [p]) keyPress).run s = (.ok (), s₁)) :
    ∃ s₂, Typed s front.length s₂ ∧ (keyPress p).run s₂ = (.ok (), s₁) := by
  rw [Method.forEach_append] at run
  obtain ⟨_, s₂, run₂, last⟩ := Method.of_run_bind_ok run
  obtain ⟨r, s₃, run₃, ends⟩ := keyPresses_run front opened mode allOrNothing valid
  rw [run₂] at run₃
  obtain ⟨rfl, rfl⟩ := Prod.mk.inj run₃
  rcases ends with ⟨-, -, typed⟩ | ⟨⟨e, fails⟩, -⟩
  · rw [Method.forEach_cons, Method.forEach_nil, Method.bind_pure_unit] at last
    exact ⟨s₂, typed, last⟩
  · contradiction

/-- The last report that went out cleared the keyboard, for the device and for the session. -/
def LeavesCleared (s : HidSession) (scancode : UInt8) (s' : HidSession) : Prop :=
  ∃ added k report, s'.transport.transport.wire = s.transport.transport.wire ++ added ∧
    (keyReports (readEvents added)).getLast? = some report ∧ s'.kbd = some k ∧ k.Cleared scancode report

def release (scancode : UInt8) : KeyPress := ⟨scancode, false, .empty⟩

theorem Typed.released {s s₁ : HidSession} {n : Nat} (h : Typed s n s₁)
    (mode : s.transport.direct = true) (allOrNothing : s.transport.transport.AllOrNothing)
    {scancode : UInt8} (valid : KeyboardHid.accepts scancode = true)
    (taken : s.transport.transport.onWrite (s.transport.transport.writes + n) = .ok) :
    LeavesCleared s scancode ((keyPress (release scancode)).run s₁).2 := by
  obtain ⟨k, opened⟩ := h.opened
  obtain ⟨added, events, wire, reads⟩ := h.landed
  obtain ⟨kbd, sent⟩ := keyPress_direct opened (h.direct.trans mode) (p := release scancode) valid
  have allOrNothing₁ : s₁.transport.transport.AllOrNothing := by
    intro i landed e failed
    rw [h.onWrite] at failed
    exact allOrNothing i landed e failed
  rw [← h.writes, ← h.onWrite] at taken
  let msg := pressMessage k (release scancode)
  have fate := Transport.deliver_fate allOrNothing₁ msg.bytes
  rcases fate with ⟨refused, -⟩ | ⟨-, wrote⟩
  · exact absurd taken refused
  · have cleared := k.cleared_after scancode
    refine ⟨added ++ msg.bytes, _, _, ?_, ?_, kbd, cleared⟩
    · rw [sent.transport, wrote, Transport.wrote, wire, List.append_assoc]
    · have last := readEvents_message (pressMessage_serializes k (release scancode)) []
      have whole := reads msg.bytes
      rw [List.append_nil, readEvents_nil] at last
      have one : keyReports [eventOfMessage msg] =
          [[0, 0] ++ keySlots (k.after (release scancode)).held] :=
        keyReports_messages (List.forall_mem_singleton.mpr (length_pressReport k (release scancode)))
      rw [whole, last, keyReports, List.filterMap_append, ← keyReports, ← keyReports, one]
      exact List.getLast?_concat ..

/-- A chord is three key events, and the guard's event is the third one again. -/
theorem keyChord_eq (mods : Modifiers) (scancode : UInt8) :
    keyChord mods scancode = .rollback
      (.forEach ([⟨scancode, true, mods⟩, ⟨scancode, false, mods⟩] ++ [release scancode]) keyPress)
      (.ignore (keyPress (release scancode))) := by
  simp only [List.cons_append, List.nil_append, Method.forEach_cons, Method.forEach_nil,
    Method.bind_pure_unit]
  rfl

theorem keyPress_refused {s : HidSession} {p : KeyPress}
    (refused : s.kbd = none ∨ KeyboardHid.accepts p.scancode = false) :
    ∃ e, (keyPress p).run s = (.err e, s) := by
  rcases hk : s.kbd with _ | k
  · exact ⟨keyboardNotOpen, by rw [keyPress, key, Method.run_read_bind, hk]; rfl⟩
  · have bad : KeyboardHid.accepts p.scancode = false := by
      rcases refused with none | bad
      · rw [hk] at none
        contradiction
      · exact bad
    rcases k.keyEvent_run p.scancode p.pressed p.modifiers with ⟨valid, -⟩ | ⟨-, run⟩
    · exact absurd (bad.symm.trans valid) Bool.false_ne_true
    · refine ⟨.scancodeOutOfRange p.scancode.toUInt16, ?_⟩
      rw [keyPress, key_run hk, run, ← hk]
      rfl

end HidSession

open HidSession in
/-- Whichever write of a chord fails, if the guard's own write is taken the last report on the wire
has no modifier and not the chord's key, and the session's keyboard is the one it shows. -/
theorem key_chord_rolls_back (mods : Modifiers) (scancode : UInt8) (s : HidSession)
    (direct : s.transport.direct = true) (allOrNothing : s.transport.transport.AllOrNothing)
    (guarded : ∀ j < 3, s.transport.transport.Accepts j → ¬s.transport.transport.Accepts (j + 1) →
      s.transport.transport.onWrite (s.transport.transport.writes + (j + 1)) = .ok) :
    (s.kbd = none ∨ KeyboardHid.accepts scancode = false →
      ((keyChord mods scancode).run s).2 = s) ∧
    (s.kbd ≠ none → KeyboardHid.accepts scancode = true →
      LeavesCleared s scancode ((keyChord mods scancode).run s).2) := by
  rw [keyChord_eq]
  constructor
  · intro refused
    obtain ⟨e, first⟩ := keyPress_refused (p := ⟨scancode, true, mods⟩) refused
    obtain ⟨e', again⟩ := keyPress_refused (p := release scancode) refused
    simp [Method.rollback, Method.ignore, Method.run_bind, first, again]
  · intro opened valid
    obtain ⟨front, hf⟩ : ∃ front : List KeyPress,
      front = [⟨scancode, true, mods⟩, ⟨scancode, false, mods⟩] := ⟨_, rfl⟩
    have length : front.length = 2 := by rw [hf]; rfl
    rw [← hf]
    have own : ∀ p ∈ front ++ [release scancode], KeyboardHid.accepts p.scancode = true := by
      simp [hf, release, valid]
    obtain ⟨k, opened⟩ := Option.ne_none_iff_exists'.mp opened
    obtain ⟨r, s₁, run, ends⟩ := keyPresses_run (front ++ [release scancode]) ⟨k, opened⟩ direct
      allOrNothing own
    rcases ends with ⟨rfl, all, -⟩ | ⟨⟨e, rfl⟩, j, inside, before, stop, typed⟩
    · obtain ⟨s₂, typed, last⟩ := keyPresses_last ⟨k, opened⟩ direct allOrNothing
        (fun p hp => own p (List.mem_append_left _ hp)) run
      have third : front.length < (front ++ [release scancode]).length := by
        rw [List.length_append]
        exact Nat.lt_succ_self _
      have cleared := typed.released direct allOrNothing valid (all _ third).1
      rw [last] at cleared
      rw [Method.run_rollback_ok run]
      exact cleared
    · have inside' : j < 3 := by
        rwa [List.length_append, length] at inside
      have cleared := typed.released direct allOrNothing valid (guarded j inside' before stop)
      have calm : ((keyPress (release scancode)).run s₁).1.isPanic = false := neverPanics_key _ _ _ s₁
      rw [Method.run_rollback_err run, Method.run_ignore calm]
      exact cleared

/-- The release of Ctrl+C is refused, and the guard's report clears the keyboard. -/
theorem key_chord_rolls_back_copy :
    HidSession.LeavesCleared
      (HidSession.afterOpen (.refuses 2) id (OpenRequest.kbdOnly.withCoalesce false)) 0x06
      ((HidSession.keyChord ⟨0x01⟩ 0x06).run
        (HidSession.afterOpen (.refuses 2) id (OpenRequest.kbdOnly.withCoalesce false))).2 := by
  refine (key_chord_rolls_back ⟨0x01⟩ 0x06 _ rfl (Transport.refuses_allOrNothing 2) ?_).2
    (Option.some_ne_none _) rfl
  intro j inside before stop
  match j with
  | 0 => exact absurd (Transport.accepts_one.mpr ⟨rfl, rfl⟩) stop
  | 1 => rfl
  | 2 => rfl

end HidConnect
