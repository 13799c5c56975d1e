import HidConnect.Library.Reader

/-! Streams that stall: reads that time out on the way, and a caller who then simply calls again. -/
namespace Fallible
namespace Reader
variable {ε α β ι : Type}

/- Readers that never look ahead. -/

/-- Either the bytes run out, or whatever follows them makes no difference. -/
def Steady (m : Reading ε α) : Prop :=
  ∀ bs closing, m.run ⟨bs, closing⟩ = (.err closing, ⟨[], closing⟩) ∨
    ∃ result rest, ∀ more closing', m.run ⟨bs ++ more, closing'⟩ = (result, ⟨rest ++ more, closing'⟩)

theorem steady_lift (result : Outcome ε α) : Steady (.lift result) :=
  fun bs _ => .inr ⟨result, bs, fun _ _ => rfl⟩

theorem steady_pure (a : α) : Steady (pure a : Reading ε α) := steady_lift (.ok a)

theorem steady_fail (e : ε) : Steady (.fail e : Reading ε α) := steady_lift (.err e)

theorem steady_readExact (n : Nat) : Steady (readExact n : Reading ε _) := by
  intro bs closing
  by_cases enough : n ≤ bs.length
  · refine .inr ⟨.ok (bs.take n), bs.drop n, fun more closing' => ?_⟩
    have longer : n ≤ (bs ++ more).length := by
      rw [List.length_append]
      exact Nat.le_add_right_of_le enough
    unfold readExact
    dsimp only
    rw [if_pos longer, List.take_append_of_le_length enough, List.drop_append_of_le_length enough]
  · exact .inl (readExact_short (Nat.lt_of_not_le enough) closing)

theorem Steady.bind {m : Reading ε α} {f : α → Reading ε β} (h : Steady m) (h' : ∀ a, Steady (f a)) :
    Steady (m >>= f) := by
  intro bs closing
  rcases h bs closing with starved | ⟨result, rest, same⟩
  · left
    rw [Method.run_bind, starved]
  · have here := same [] closing
    rw [List.append_nil, List.append_nil] at here
    cases result with
    | ok a =>
      rcases h' a rest closing with starved | ⟨result, rest', same'⟩
      · left
        rw [Method.run_bind_ok here, starved]
      · refine .inr ⟨result, rest', fun more closing' => ?_⟩
        rw [Method.run_bind_ok (same more closing'), same']
    | err e =>
      refine .inr ⟨.err e, rest, fun more closing' => ?_⟩
      rw [Method.run_bind, same]
    | panic =>
      refine .inr ⟨.panic, rest, fun more closing' => ?_⟩
      rw [Method.run_bind, same]

theorem Steady.map {m : Reading ε α} (h : Steady m) (f : α → β) :
    Steady (m >>= fun a => pure (f a)) := h.bind fun _ => steady_pure _

theorem steady_readUint (w : Nat) : Steady (readUint w : Reading ε _) := (steady_readExact w).map _

theorem Steady.starved {m : Reading ε α} (h : Steady m) {bs more : List UInt8} {result : Outcome ε α}
    (takes : Takes m (bs ++ more) result) (short : more ≠ []) (closing : ε) :
    m.run ⟨bs, closing⟩ = (.err closing, ⟨[], closing⟩) := by
  rcases h bs closing with starved | ⟨result', rest, same⟩
  · exact starved
  · have whole := takes [] closing
    rw [List.append_nil, same] at whole
    have none : rest ++ more = [] := congrArg (fun r => r.2.bytes) whole
    exact absurd (List.append_eq_nil_iff.mp none).2 short

/- A stream that stalls, and its caller. -/

/-- The bytes up to the next stall, and each stall with the bytes that follow it. -/
structure Stalled (retry : ε → Bool) where
  bytes : List UInt8
  stalls : List ({e : ε // retry e = true} × List UInt8)

variable {retry : ε → Bool}

namespace Stalled

/-- What a call finds: the bytes before the next stall, and the error of the stall behind them. -/
def reader (closing : ε) (s : Stalled retry) : Reader ε where
  bytes := s.bytes
  closing :=
    match s.stalls with
    | [] => closing
    | (e, _) :: _ => e

def pass (s : Stalled retry) : Stalled retry :=
  match s.stalls with
  | [] => { s with bytes := [] }
  | (_, next) :: stalls => { bytes := next, stalls }

def content (s : Stalled retry) : List UInt8 := s.bytes ++ s.stalls.flatMap Prod.snd

end Stalled

/-- What a call comes back with, and how many bytes it took. -/
structure Call (ε α : Type) where
  outcome : Outcome ε α
  taken : Nat

def Call.value : Call ε α → Option α
  | { outcome := .ok a, .. } => some a
  | _ => none

/-- A caller who calls again after each value and after each stall, for so many calls at most. -/
def session (m : Reading ε α) (closing : ε) : Nat → Stalled retry → List (Call ε α)
  | 0, _ => []
  | n + 1, s =>
    let r := m.run (s.reader closing)
    let call := { outcome := r.1, taken := s.bytes.length - r.2.bytes.length }
    match r.1 with
    | .ok _ => call :: session m closing n { s with bytes := r.2.bytes }
    | .err e => call :: if retry e then session m closing n s.pass else []
    | .panic => [call]

/-- The caller obtains these values, and no call that stalls takes any bytes. -/
structure Unharmed (m : Reading ε α) (closing : ε) (values : List α) (s : Stalled retry) : Prop where
  obtained : ∃ enough, ∀ n ≥ enough, (session m closing n s).filterMap Call.value = values
  unlost : ∀ n, ∀ call ∈ session m closing n s, ∀ e, call.outcome = .err e → retry e = true →
    call.taken = 0

/-- Every stall is between two items. -/
def Between (bytes : ι → List UInt8) :
    List ι → List UInt8 → List ({e : ε // retry e = true} × List UInt8) → Prop
  | items, bs, [] => bs = items.flatMap bytes
  | items, bs, (_, next) :: stalls =>
    ∃ head tail, items = head ++ tail ∧ bs = head.flatMap bytes ∧ Between bytes tail next stalls

section Session
variable {m : Reading ε α} {closing : ε}

theorem session_take {bs : List UInt8} {a : α} (takes : Takes m bs (.ok a)) (rest : List UInt8)
    (stalls : List ({e : ε // retry e = true} × List UInt8)) (n : Nat) :
    session m closing (n + 1) ⟨bs ++ rest, stalls⟩ =
      { outcome := .ok a, taken := bs.length } :: session m closing n ⟨rest, stalls⟩ := by
  have run : m.run (Stalled.reader closing ⟨bs ++ rest, stalls⟩) =
      (.ok a, Stalled.reader closing ⟨rest, stalls⟩) := takes rest _
  have length : (bs ++ rest).length - rest.length = bs.length := by
    rw [List.length_append, Nat.add_sub_cancel]
  rw [session, run]
  dsimp only [Stalled.reader]
  rw [length]

theorem session_stall {bs : List UInt8} {e : {e : ε // retry e = true}}
    (starved : m.run ⟨bs, e⟩ = (.err e.1, ⟨[], e⟩)) (next : List UInt8)
    (stalls : List ({e : ε // retry e = true} × List UInt8)) (n : Nat) :
    session m closing (n + 1) ⟨bs, (e, next) :: stalls⟩ =
      { outcome := .err e.1, taken := bs.length } :: session m closing n ⟨next, stalls⟩ := by
  have run : m.run (Stalled.reader closing ⟨bs, (e, next) :: stalls⟩) = (.err e.1, ⟨[], e⟩) := starved
  rw [session, run]
  dsimp only
  rw [if_pos e.2]
  rfl

theorem session_end (final : retry closing = false)
    (starved : m.run ⟨[], closing⟩ = (.err closing, ⟨[], closing⟩)) (n : Nat) :
    session m closing (n + 1) (⟨[], []⟩ : Stalled retry) = [{ outcome := .err closing, taken := 0 }] := by
  have run : m.run (Stalled.reader closing (⟨[], []⟩ : Stalled retry)) =
      (.err closing, ⟨[], closing⟩) := starved
  rw [session, run]
  dsimp only
  rw [if_neg (by rw [final]; exact Bool.false_ne_true)]
  rfl

theorem unharmed_end (final : retry closing = false)
    (starved : m.run ⟨[], closing⟩ = (.err closing, ⟨[], closing⟩)) :
    Unharmed m closing [] (⟨[], []⟩ : Stalled retry) := by
  constructor
  · refine ⟨0, fun n _ => ?_⟩
    cases n with
    | zero => rfl
    | succ n =>
      rw [session_end final starved]
      rfl
  · intro n call member e failed again
    cases n with
    | zero => contradiction
    | succ n =>
      rw [session_end final starved] at member
      rw [List.mem_singleton.mp member]

theorem unharmed_take {bs : List UInt8} {a : α} (takes : Takes m bs (.ok a)) (values : List α)
    (rest : List UInt8) (stalls : List ({e : ε // retry e = true} × List UInt8)) :
    Unharmed m closing (a :: values) ⟨bs ++ rest, stalls⟩ ↔ Unharmed m closing values ⟨rest, stalls⟩ := by
  constructor
  · rintro ⟨⟨enough, obtained⟩, unlost⟩
    refine ⟨⟨enough, fun n more => ?_⟩, fun n call member => ?_⟩
    · have whole := obtained (n + 1) (Nat.le_succ_of_le more)
      rw [session_take takes] at whole
      exact (List.cons.inj whole).2
    · refine unlost (n + 1) call ?_
      rw [session_take takes]
      exact List.mem_cons_of_mem _ member
  · rintro ⟨⟨enough, obtained⟩, unlost⟩
    refine ⟨⟨enough + 1, fun n more => ?_⟩, fun n call member e failed => ?_⟩
    · obtain ⟨n, rfl⟩ := Nat.exists_eq_add_of_le' (Nat.le_trans (Nat.le_add_left 1 enough) more)
      rw [session_take takes]
      exact congrArg (a :: ·) (obtained n (Nat.le_of_succ_le_succ more))
    · cases n with
      | zero => contradiction
      | succ n =>
        rw [session_take takes] at member
        rcases List.mem_cons.mp member with rfl | member
        · cases failed
        · exact unlost n call member e failed

theorem unharmed_stall {bs : List UInt8} {e : {e : ε // retry e = true}}
    (starved : m.run ⟨bs, e⟩ = (.err e.1, ⟨[], e⟩)) (values : List α) (next : List UInt8)
    (stalls : List ({e : ε // retry e = true} × List UInt8)) :
    Unharmed m closing values ⟨bs, (e, next) :: stalls⟩ ↔
      bs = [] ∧ Unharmed m closing values ⟨next, stalls⟩ := by
  constructor
  · rintro ⟨⟨enough, obtained⟩, unlost⟩
    refine ⟨?_, ⟨enough, fun n more => ?_⟩, fun n call member => ?_⟩
    · have first : (⟨.err e.1, bs.length⟩ : Call ε α) ∈
          session m closing 1 ⟨bs, (e, next) :: stalls⟩ := by
        rw [session_stall starved]
        exact List.mem_cons_self
      exact List.length_eq_zero_iff.mp (unlost 1 _ first e.1 rfl e.2)
    · have whole := obtained (n + 1) (Nat.le_succ_of_le more)
      rw [session_stall starved] at whole
      exact whole
    · refine unlost (n + 1) call ?_
      rw [session_stall starved]
      exact List.mem_cons_of_mem _ member
  · rintro ⟨rfl, ⟨enough, obtained⟩, unlost⟩
    refine ⟨⟨enough + 1, fun n more => ?_⟩, fun n call member e' failed again => ?_⟩
    · obtain ⟨n, rfl⟩ := Nat.exists_eq_add_of_le' (Nat.le_trans (Nat.le_add_left 1 enough) more)
      rw [session_stall starved]
      exact obtained n (Nat.le_of_succ_le_succ more)
    · cases n with
      | zero => contradiction
      | succ n =>
        rw [session_stall starved] at member
        rcases List.mem_cons.mp member with rfl | member
        · rfl
        · exact unlost n call member e' failed again

section Items
variable {bytes : ι → List UInt8} {e : {e : ε // retry e = true}} {next : List UInt8}
  {stalls : List ({e : ε // retry e = true} × List UInt8)}

theorem between_take {i : ι} (some : bytes i ≠ []) (items : List ι) (bs : List UInt8) :
    Between bytes (i :: items) (bytes i ++ bs) ((e, next) :: stalls) ↔
      Between bytes items bs ((e, next) :: stalls) := by
  constructor
  · rintro ⟨head, tail, split, same, rest⟩
    cases head with
    | nil => exact absurd (List.append_eq_nil_iff.mp same).1 some
    | cons j head =>
      cases split
      rw [List.flatMap_cons] at same
      exact ⟨head, tail, rfl, List.append_cancel_left same, rest⟩
  · rintro ⟨head, tail, rfl, rfl, rest⟩
    exact ⟨i :: head, tail, rfl, List.flatMap_cons.symm, rest⟩

theorem between_stall {i : ι} {bs more : List UInt8} (split : bs ++ more = bytes i) (short : more ≠ [])
    (items : List ι) :
    Between bytes (i :: items) bs ((e, next) :: stalls) ↔
      bs = [] ∧ Between bytes (i :: items) next stalls := by
  constructor
  · rintro ⟨head, tail, same, rfl, rest⟩
    cases head with
    | nil =>
      cases same
      exact ⟨rfl, rest⟩
    | cons j head =>
      cases same
      -- the bytes before the stall hold the whole item, so nothing more of it can come
      rw [List.flatMap_cons, List.append_assoc] at split
      have none := List.append_right_eq_self.mp split
      exact absurd (List.append_eq_nil_iff.mp none).2 short
  · rintro ⟨rfl, rest⟩
    exact ⟨[], i :: items, rfl, rfl, rest⟩

theorem whole_or_part {bs us first vs : List UInt8} (h : bs ++ us = first ++ vs) :
    (∃ rest, bs = first ++ rest ∧ rest ++ us = vs) ∨ ∃ more, bs ++ more = first ∧ more ≠ [] := by
  rcases List.append_eq_append_iff.mp h with ⟨more, split, follow⟩ | ⟨rest, split, follow⟩
  · by_cases none : more = []
    · subst none
      rw [List.append_nil] at split
      exact .inl ⟨[], by rw [List.append_nil, split], follow⟩
    · exact .inr ⟨more, split.symm, none⟩
  · exact .inl ⟨rest, split, follow.symm⟩

/-- A caller who calls again after each stall is unharmed by the stalls if and only if every one of them
is between two items. -/
theorem unharmed_iff (steady : Steady m) (final : retry closing = false)
    (hungry : ∀ e, m.run ⟨[], e⟩ = (.err e, ⟨[], e⟩)) {items : List ι} {values : List α}
    (sound : List.Forall₂ (fun i a => Takes m (bytes i) (.ok a) ∧ bytes i ≠ []) items values)
    (s : Stalled retry) (carries : s.content = items.flatMap bytes) :
    Unharmed m closing values s ↔ Between bytes items s.bytes s.stalls := by
  obtain ⟨bs, stalls⟩ := s
  induction stalls generalizing bs items values with
  | nil =>
    have whole : bs = items.flatMap bytes := (List.append_nil bs).symm.trans carries
    subst whole
    refine iff_of_true ?_ rfl
    clear carries
    induction sound with
    | nil => exact unharmed_end final (hungry closing)
    | cons first _ ih => exact (unharmed_take first.1 _ _ _).mpr ih
  | cons stall stalls outer =>
    obtain ⟨e, next⟩ := stall
    induction sound generalizing bs with
    | nil =>
      obtain ⟨rfl, rest⟩ := List.append_eq_nil_iff.mp carries
      rw [unharmed_stall (hungry e), outer .nil next rest]
      constructor
      · rintro ⟨-, between⟩
        exact ⟨[], [], rfl, rfl, between⟩
      · rintro ⟨head, tail, split, -, between⟩
        rw [(List.append_eq_nil_iff.mp split.symm).2] at between
        exact ⟨rfl, between⟩
    | @cons i a items values first sound inner =>
      rcases whole_or_part carries with ⟨rest, rfl, follow⟩ | ⟨more, split, short⟩
      · rw [between_take first.2, unharmed_take first.1]
        exact inner rest follow
      · rw [between_stall split short]
        rw [unharmed_stall (steady.starved (split ▸ first.1) short e)]
        refine and_congr_right fun none => ?_
        subst none
        exact outer (.cons first sound) next carries

end Items

end Session

end Reader
end Fallible
