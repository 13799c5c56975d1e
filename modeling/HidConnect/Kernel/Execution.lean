import HidConnect.Kernel.Daemon

/-! What the daemon does for one action. -/
namespace HidConnect.Kernel
open Fallible

def answerLanded : Except String TimedOutcome → Bool
  | .ok outcome => outcome.landed
  | .error _ => false

namespace Daemon
variable {η : Type} (phone : Phone η)

@[simp] theorem run_ask_bind {α β : Type} (f : η → α × η) (g : α → Handling η β) (s : Daemon η) :
    (ask f >>= g).run s = (g (f s.phone).1).run { s with phone := (f s.phone).2 } := rfl

@[simp] theorem run_log_bind {β : Type} (event : DaemonEvent) (g : Unit → Handling η β) (s : Daemon η) :
    (log event >>= g).run s = (g ()).run { s with trace := s.trace ++ [event] } := rfl

@[simp] theorem run_nextObsSeq_bind {β : Type} (g : Nat → Handling η β) (s : Daemon η) :
    (nextObsSeq >>= g).run s = (g (s.obsSeq + 1)).run { s with obsSeq := s.obsSeq + 1 } := rfl

/-- What was done for the action, and with what result. -/
inductive Executed (phone : Phone η) (action : Action) (s : Daemon η) :
    ActionResult → Daemon η → Prop where
  | bridged {result : ActionResult} (e : η) (answer : Except String TimedOutcome)
      (uses : usesScrcpyBridge action = true) (id : result.id = (s.obsSeq + 1).toUInt64)
      (landed : result.landed = answerLanded answer) :
      Executed phone action s result { s with
        phone := e
        obsSeq := s.obsSeq + 1
        trace := s.trace ++ [.bridged action answer, .executed action result none] }
  | missed {result : ActionResult} (e : η) (shell : usesScrcpyBridge action = false)
      (id : result.id = (s.obsSeq + 1).toUInt64) (landed : result.landed = false) :
      Executed phone action s result { s with
        phone := e
        obsSeq := s.obsSeq + 1
        trace := s.trace ++ [.executed action result none] }
  | unfocused {result : ActionResult} (e : η) (shell : usesScrcpyBridge action = false)
      (id : result.id = (s.obsSeq + 1).toUInt64) (landed : result.landed = true) :
      Executed phone action s result { s with
        phone := e
        obsSeq := s.obsSeq + 1
        state := s.state.recordActionResult result.id result
        trace := s.trace ++ [.recorded result.id result, .executed action result none] }
  | focused {result : ActionResult} (e : η) (f : String) (persists : Bool)
      (shell : usesScrcpyBridge action = false) (id : result.id = (s.obsSeq + 1).toUInt64)
      (landed : result.landed = true) :
      Executed phone action s result { s with
        phone := e
        obsSeq := s.obsSeq + 1
        state := s.state.recordActionResult result.id result
        shared := s.shared.recordSuccess (phone.fromFocus f) action persists
        trace := s.trace ++ [.remembered (phone.fromFocus f) action, .recorded result.id result,
          .executed action result (some f)] }

/-- The arms that are reached only ask the device. -/
theorem run_perform {action : Action} (shell : usesScrcpyBridge action = false) (s : Daemon η) :
    ∃ landed truth e, (perform phone action).run s = (.ok (landed, truth), { s with phone := e }) := by
  cases action with
  | tap | swipe | typeText | key | launch | setClipboard | gamepadFrame | injectRaw => cases shell
  | _ => exact ⟨_, _, _, rfl⟩

theorem run_executeRawBridgeAction (action : Action) (id : ActionId) (s : Daemon η) :
    ∃ outcome e answer, (executeRawBridgeAction phone action id).run s =
        (.ok outcome, { s with phone := e, trace := s.trace ++ [.bridged action answer] }) ∧
      outcome.id = id ∧ outcome.landed = answerLanded answer := by
  unfold executeRawBridgeAction
  rw [run_ask_bind, run_log_bind]
  split
  case h_1 outcome answer => exact ⟨_, _, _, rfl, rfl, by rw [answer]; rfl⟩
  case h_2 reason answer => exact ⟨_, _, _, rfl, rfl, by rw [answer]; rfl⟩

theorem run_recordLanded (action : Action) (result : ActionResult) (s : Daemon η) :
    (∃ e, (recordLanded phone action result).run s = (.ok none, { s with
      phone := e
      state := s.state.recordActionResult result.id result
      trace := s.trace ++ [.recorded result.id result] })) ∨
    ∃ e f persists, (recordLanded phone action result).run s = (.ok (some f), { s with
      phone := e
      state := s.state.recordActionResult result.id result
      shared := s.shared.recordSuccess (phone.fromFocus f) action persists
      trace := s.trace ++ [.remembered (phone.fromFocus f) action, .recorded result.id result] }) := by
  unfold recordLanded
  rw [run_ask_bind]
  dsimp only
  cases parseFocusedApp (phone.dumpsys s.phone).1 with
  | none => exact .inl ⟨_, rfl⟩
  | some f =>
    let stored := phone.persists (phone.dumpsys s.phone).2
    refine .inr ⟨stored.2, f, stored.1, ?_⟩
    rw [List.append_cons]
    rfl

theorem run_executeAction (action : Action) (s : Daemon η) :
    ∃ result s', (executeAction phone action).run s = (.ok result, s') ∧
      Executed phone action s result s' := by
  unfold executeAction
  rw [run_ask_bind, run_nextObsSeq_bind]
  dsimp only
  split
  case isTrue uses =>
    obtain ⟨outcome, e, answer, ran, id, landed⟩ := run_executeRawBridgeAction phone action
      (s.obsSeq + 1).toUInt64 { s with phone := (phone.now s.phone).2, obsSeq := s.obsSeq + 1 }
    rw [Method.run_bind_ok ran, run_log_bind, List.append_assoc]
    exact ⟨_, _, rfl, .bridged _ answer uses id landed⟩
  case isFalse other =>
    have shell := Bool.eq_false_iff.mpr other
    obtain ⟨landed, truth, e, ran⟩ := run_perform phone shell
      { s with phone := (phone.now s.phone).2, obsSeq := s.obsSeq + 1 }
    rw [Method.run_bind_ok ran]
    dsimp only
    rw [run_ask_bind]
    cases landed with
    | false => exact ⟨_, _, rfl, .missed _ shell rfl rfl⟩
    | true =>
      rw [if_pos rfl]
      rcases run_recordLanded phone action _ _ with ⟨e, ran⟩ | ⟨e, f, persists, ran⟩
      · rw [Method.run_bind_ok ran, run_log_bind, List.append_assoc]
        exact ⟨_, _, rfl, .unfocused _ shell rfl rfl⟩
      · rw [Method.run_bind_ok ran, run_log_bind, List.append_assoc]
        exact ⟨_, _, rfl, .focused _ f persists shell rfl rfl⟩

theorem run_buildObservation (s : Daemon η) :
    ∃ obs e, (buildObservation phone).run s = (.ok obs, { s with
      phone := e
      obsSeq := s.obsSeq + 1
      stream := (s.stream.produce fun _ => obs).2
      state := s.state.recordObservation obs }) := by
  exact ⟨_, _, rfl⟩

theorem run_writeReply (reply : Reply) (isCheckpoint : Bool) (s : Daemon η) :
    ∃ r e sent, (writeReply phone reply isCheckpoint).run s =
        (r, { s with phone := e, trace := s.trace ++ sent }) ∧
      (r = .ok () ∧ sent = [.sent { reply, isCheckpoint }] ∨ (∃ error, r = .err error) ∧ sent = []) := by
  unfold writeReply
  rw [run_ask_bind]
  split
  case h_1 => exact ⟨_, _, _, rfl, .inl ⟨rfl, rfl⟩⟩
  case h_2 error _ => exact ⟨.err error, _, [], by rw [List.append_nil]; rfl, .inr ⟨⟨error, rfl⟩, rfl⟩⟩

theorem handle_action (s : Daemon η) (id : ActionId) (action : Action) :
    ∃ result s' e sent, Executed phone action s result s' ∧
      s.handle phone (.action id action) = { s' with phone := e, trace := s'.trace ++ sent } ∧
      (sent = [] ∨ sent = [.sent { reply := .action result, isCheckpoint := false }]) := by
  obtain ⟨result, s', ran, executed⟩ := run_executeAction phone action s
  have written : ∀ t : Daemon η, t.trace = s'.trace →
      ∃ e sent, ((writeReply phone (.action result) false).run t).2 =
          { t with phone := e, trace := s'.trace ++ sent } ∧
        (sent = [] ∨ sent = [.sent { reply := .action result, isCheckpoint := false }]) := by
    intro t same
    obtain ⟨r, e, sent, ran, ends⟩ := run_writeReply phone (.action result) false t
    refine ⟨e, sent, by rw [ran, same], ?_⟩
    rcases ends with ⟨-, all⟩ | ⟨-, none⟩
    · exact .inr all
    · exact .inl none
  unfold handle handleConnection handleAction
  rw [Method.run_bind_ok ran]
  split
  case h_1 =>
    rw [run_ask_bind]
    obtain ⟨e, sent, same, ends⟩ := written { s' with phone := (phone.dumpsys s'.phone).2 } rfl
    exact ⟨result, s', e, sent, executed, same, ends⟩
  case h_2 =>
    obtain ⟨e, sent, same, ends⟩ := written s' rfl
    exact ⟨result, s', e, sent, executed, same, ends⟩

end Daemon

/-- A device that answers every command with nothing, with a clock that only sleeping moves. -/
def silentPhone : Phone Nat where
  adbShell _ e := (.ok "", e)
  adbScreencap e := (.ok [], e)
  applyRaw _ e := (.error "raw UHID injection is disabled in --no-adb mode", e)
  fromFocus _ := { digest := Vector.replicate 16 0 }
  persists e := (true, e)
  send _ e := (.ok (), e)
  uptimeMs e := (e.toUInt64, e)
  time := id
  now e := (e, e)
  sleep ms e := e + ms
  now_reads _ := ⟨Nat.le_refl _, Nat.le_refl _⟩
  shell_takes _ _ := Nat.le_refl _
  sleep_takes _ _ := Nat.le_refl _

end HidConnect.Kernel
