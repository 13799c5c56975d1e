import HidConnect.Library.Method

/-! Errors, and the byte sink every control message is written to. -/
namespace HidConnect
open Fallible

inductive Error where
  | scancodeOutOfRange (scancode : UInt16)
  | controlMessageTooLarge (size max : Nat)
  | nameTooLong (size : Nat)
  | reportDescTooLong (size : Nat)
  | unknownGamepad (id : UInt32)
  | noGamepadSlot
  | transport (message : String)
  | bufferFullCritical
  | sessionLifecycle (reason : String)
  | pointerIdOutOfRange (id max : UInt64)
  | pointerNotActive (id : UInt64)
  | pointerAlreadyDown (id : UInt64)
  | dispatcherDown (reason : String)
  | agentTimeout (reason : String)
  deriving DecidableEq, Repr

abbrev Result (α : Type) := Outcome Error α

inductive WriteOutcome where
  | ok
  | failed (landed : Nat) (error : Error)

/-- A transport with the answers it will give. `onWrite` and `onFlush` are indexed by how
many calls came before, and `wire` is what reached the other side. -/
structure Transport where
  wire : List UInt8
  writes : Nat
  flushes : Nat
  onWrite : Nat → WriteOutcome
  onFlush : Nat → Option Error

namespace Transport

def fresh (onWrite : Nat → WriteOutcome) (onFlush : Nat → Option Error) : Transport :=
  { wire := [], writes := 0, flushes := 0, onWrite, onFlush }

def writeAll (buf : List UInt8) : Method Error Transport Unit := ⟨fun t =>
  match t.onWrite t.writes with
  | .ok => (.ok (), { t with wire := t.wire ++ buf, writes := t.writes + 1 })
  | .failed landed e =>
    (.err e, { t with wire := t.wire ++ buf.take landed, writes := t.writes + 1 })⟩

def flush : Method Error Transport Unit := ⟨fun t =>
  match t.onFlush t.flushes with
  | none => (.ok (), { t with flushes := t.flushes + 1 })
  | some e => (.err e, { t with flushes := t.flushes + 1 })⟩

/-- One `write_all` and one `flush`, the way every buffer goes out. -/
def deliver (buf : List UInt8) : Method Error Transport Unit := do
  writeAll buf
  flush

/- What a transport may be promised to do. -/

/-- "Write all bytes; partial writes are not allowed." -/
def AllOrNothing (t : Transport) : Prop :=
  ∀ i landed e, t.onWrite i = .failed landed e → landed = 0

def FlushOk (t : Transport) : Prop := ∀ i, t.onFlush i = none

def NeverFails (t : Transport) : Prop := (∀ i, t.onWrite i = .ok) ∧ t.FlushOk

/-- The next `n` writes and the next `n` flushes succeed. -/
def Accepts (t : Transport) (n : Nat) : Prop :=
  ∀ i, i < n → t.onWrite (t.writes + i) = .ok ∧ t.onFlush (t.flushes + i) = none

/-- A transport on which everything succeeds. -/
def steady : Transport := fresh (fun _ => .ok) fun _ => none

theorem steady_neverFails : steady.NeverFails := ⟨fun _ => rfl, fun _ => rfl⟩

/-- A transport that refuses one write and takes every other. -/
def refuses (n : Nat) : Transport :=
  fresh (fun i => if i = n then .failed 0 (.transport "gone") else .ok) fun _ => none

theorem refuses_allOrNothing (n : Nat) : (refuses n).AllOrNothing := by
  intro i landed e h
  simp only [refuses, fresh] at h
  split at h
  · exact (WriteOutcome.failed.inj h).1.symm
  · contradiction

theorem refuses_flushOk (n : Nat) : (refuses n).FlushOk := fun _ => rfl

theorem NeverFails.allOrNothing {t : Transport} (h : t.NeverFails) : t.AllOrNothing := by
  intro i landed e hf
  rw [h.1 i] at hf
  contradiction

theorem NeverFails.accepts {t : Transport} (h : t.NeverFails) (n : Nat) : t.Accepts n :=
  fun _ _ => ⟨h.1 _, h.2 _⟩

def wrote (t : Transport) (buf : List UInt8) : Transport :=
  { t with wire := t.wire ++ buf, writes := t.writes + 1, flushes := t.flushes + 1 }

theorem accepts_zero (t : Transport) : t.Accepts 0 := fun i hi => absurd hi (Nat.not_lt_zero i)

theorem accepts_one {t : Transport} :
    t.Accepts 1 ↔ t.onWrite t.writes = .ok ∧ t.onFlush t.flushes = none := by
  constructor
  · exact fun h => h 0 Nat.one_pos
  · intro h i hi
    obtain rfl : i = 0 := by omega
    exact h

theorem Accepts.le {t : Transport} {m n : Nat} (h : t.Accepts n) (fewer : m ≤ n) : t.Accepts m :=
  fun i hi => h i (by omega)

theorem accepts_add {t u : Transport} {m : Nat} (writes : u.writes = t.writes + m)
    (flushes : u.flushes = t.flushes + m) (onWrite : u.onWrite = t.onWrite)
    (onFlush : u.onFlush = t.onFlush) (n : Nat) :
    t.Accepts (m + n) ↔ t.Accepts m ∧ u.Accepts n := by
  constructor
  · intro h
    refine ⟨h.le (by omega), fun i hi => ?_⟩
    rw [writes, flushes, onWrite, onFlush, Nat.add_assoc, Nat.add_assoc]
    exact h (m + i) (by omega)
  · rintro ⟨first, rest⟩ i hi
    by_cases early : i < m
    · exact first i early
    · have next := rest (i - m) (by omega)
      rw [writes, flushes, onWrite, onFlush, Nat.add_assoc, Nat.add_assoc,
        Nat.add_sub_of_le (by omega)] at next
      exact next

theorem accepts_succ {t : Transport} (buf : List UInt8) (n : Nat) :
    t.Accepts (n + 1) ↔ t.Accepts 1 ∧ (t.wrote buf).Accepts n := by
  rw [Nat.add_comm n 1]
  exact accepts_add (t := t) (u := t.wrote buf) rfl rfl rfl rfl n

theorem deliver_accepted {t : Transport} (buf : List UInt8) (h : t.Accepts 1) :
    (deliver buf).run t = (.ok (), t.wrote buf) := by
  obtain ⟨write, flushed⟩ := accepts_one.mp h
  simp [deliver, Method.run_bind, writeAll, flush, write, flushed, wrote]

/-- A delivery that is not accepted is an error. Of an all-or-nothing write that failed nothing is
on the wire. -/
theorem deliver_refused {t : Transport} (buf : List UInt8) (h : ¬t.Accepts 1) :
    ∃ e t', (deliver buf).run t = (.err e, t') ∧ t'.onWrite = t.onWrite ∧ t'.onFlush = t.onFlush ∧
      (t.AllOrNothing → t.FlushOk → t' = { t with writes := t.writes + 1 }) := by
  cases hw : t.onWrite t.writes with
  | ok =>
    cases hf : t.onFlush t.flushes with
    | none => exact (h (accepts_one.mpr ⟨hw, hf⟩)).elim
    | some e =>
      refine ⟨e, t.wrote buf, ?_, rfl, rfl, fun _ flushOk => ?_⟩
      · simp [deliver, Method.run_bind, writeAll, flush, hw, hf, wrote]
      · rw [flushOk] at hf
        contradiction
  | failed landed e =>
    refine ⟨e, { t with wire := t.wire ++ buf.take landed, writes := t.writes + 1 }, ?_, rfl, rfl,
      fun allOrNothing _ => ?_⟩
    · simp [deliver, Method.run_bind, writeAll, hw]
    · simp [allOrNothing _ _ _ hw]

end Transport

end HidConnect
