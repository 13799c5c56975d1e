import HidConnect.Library.Bytes
import HidConnect.Library.Method

/-! Readers over a stream of bytes: what a call takes off the front of the stream. -/
namespace Fallible

inductive ErrorKind where
  | unexpectedEof | invalidData | timedOut | wouldBlock | connectionReset | brokenPipe | other
  deriving DecidableEq, Repr

structure IoError where
  kind : ErrorKind
  message : String
  deriving DecidableEq, Repr

def IoError.invalidData (message : String) : IoError := { kind := .invalidData, message }

/-- The bytes that are still to come, and the error that a read gets once they have run out. -/
structure Reader (ε : Type) where
  bytes : List UInt8
  closing : ε

abbrev Reading (ε α : Type) := Method ε (Reader ε) α

namespace Reader
variable {ε α β : Type}

/-- A read that finds too little takes what there is. -/
def readExact (n : Nat) : Reading ε (List UInt8) := ⟨fun r =>
  if n ≤ r.bytes.length then (.ok (r.bytes.take n), { r with bytes := r.bytes.drop n })
  else (.err r.closing, { r with bytes := [] })⟩

def readUint (w : Nat) : Reading ε Nat := do
  let bs ← readExact w
  pure (Bytes.ofBe bs)

/-- The values of `n` calls; the first error ends them. -/
def repeated : Nat → Reading ε α → Reading ε (List α)
  | 0, _ => pure []
  | n + 1, m => do
    let a ← m
    let rest ← repeated n m
    pure (a :: rest)

/-- One call after the other, whatever each comes back with. -/
def calls (m : Reading ε α) : Nat → Reader ε → List (Outcome ε α) × Reader ε
  | 0, r => ([], r)
  | n + 1, r => ((m.run r).1 :: (calls m n (m.run r).2).1, (calls m n (m.run r).2).2)

/-- The call takes exactly these bytes and comes back with this outcome, whatever follows them. -/
def Takes (m : Reading ε α) (bs : List UInt8) (result : Outcome ε α) : Prop :=
  ∀ rest closing, m.run ⟨bs ++ rest, closing⟩ = (result, ⟨rest, closing⟩)

theorem readExact_append (bs rest : List UInt8) (closing : ε) :
    (readExact bs.length).run ⟨bs ++ rest, closing⟩ = (.ok bs, ⟨rest, closing⟩) := by
  simp [readExact]

theorem readExact_short {n : Nat} {bs : List UInt8} (short : bs.length < n) (closing : ε) :
    (readExact n).run ⟨bs, closing⟩ = (.err closing, ⟨[], closing⟩) := by
  simp [readExact, Nat.not_le_of_lt short]

theorem neverPanics_readExact (n : Nat) : Method.NeverPanics (readExact n : Reading ε _) := by
  intro r
  unfold readExact
  dsimp only
  split <;> rfl

theorem neverPanics_repeated {m : Reading ε α} (h : Method.NeverPanics m) (n : Nat) :
    Method.NeverPanics (repeated n m) := by
  induction n with
  | zero => exact Method.neverPanics_pure []
  | succ n ih => exact h.bind fun _ => ih.bind fun _ => Method.neverPanics_pure _

theorem takes_pure (a : α) : Takes (pure a : Reading ε α) [] (.ok a) := fun _ _ => rfl

theorem takes_lift (result : Outcome ε α) : Takes (.lift result) [] result := fun _ _ => rfl

theorem takes_readExact (bs : List UInt8) : Takes (readExact bs.length : Reading ε _) bs (.ok bs) :=
  readExact_append bs

theorem Takes.bind {m : Reading ε α} {f : α → Reading ε β} {bs cs : List UInt8} {a : α}
    {result : Outcome ε β} (h : Takes m bs (.ok a)) (h' : Takes (f a) cs result) :
    Takes (m >>= f) (bs ++ cs) result := by
  intro rest closing
  rw [List.append_assoc, Method.run_bind_ok (h _ closing)]
  exact h' rest closing

theorem Takes.last {m : Reading ε α} {f : α → Reading ε β} {bs : List UInt8} {a : α}
    {result : Outcome ε β} (h : Takes m bs (.ok a)) (h' : Takes (f a) [] result) :
    Takes (m >>= f) bs result := by
  rw [← List.append_nil bs]
  exact h.bind h'

theorem Takes.map {m : Reading ε α} {bs : List UInt8} {result : Outcome ε α} (f : α → β)
    (h : Takes m bs result) : Takes (m >>= fun a => pure (f a)) bs (result.map f) := by
  intro rest closing
  rw [Method.run_bind, h rest closing]
  cases result <;> rfl

theorem takes_repeated {m : Reading ε α} {encode : α → List UInt8} (xs : List α)
    (h : ∀ x ∈ xs, Takes m (encode x) (.ok x)) :
    Takes (repeated xs.length m) (xs.flatMap encode) (.ok xs) := by
  induction xs with
  | nil => exact takes_pure []
  | cons x xs ih =>
    rw [List.flatMap_cons, List.length_cons]
    exact (h x (List.mem_cons_self ..)).bind
      ((ih fun y hy => h y (List.mem_cons_of_mem _ hy)).last (takes_pure _))

/- Readers of a format: what the encoding of a value is. -/

/-- The reader takes the encoding of any valid value, and gives no value for anything else. -/
structure Reads (m : Reading ε α) (valid : α → Prop) (encode : α → List UInt8) : Prop where
  calm : Method.NeverPanics m
  takes : ∀ a, valid a → Takes m (encode a) (.ok a)
  took : ∀ {r r' a}, m.run r = (.ok a, r') → valid a ∧ r = ⟨encode a ++ r'.bytes, r'.closing⟩

theorem readExact_took {n : Nat} {r r' : Reader ε} {bs : List UInt8}
    (run : (readExact n).run r = (.ok bs, r')) :
    bs.length = n ∧ r = ⟨bs ++ r'.bytes, r'.closing⟩ := by
  unfold readExact at run
  dsimp only at run
  split at run
  case isTrue enough =>
    cases run
    exact ⟨List.length_take_of_le enough, by rw [List.take_append_drop]⟩
  case isFalse => cases congrArg Prod.fst run

theorem reads_readExact (n : Nat) :
    Reads (readExact n : Reading ε _) (fun bs => bs.length = n) id where
  calm := neverPanics_readExact n
  takes := by
    rintro bs rfl
    exact takes_readExact bs
  took := readExact_took

/-- The field `get` of a value, read before the rest of it. -/
theorem Reads.bind {m : Reading ε α} {f : α → Reading ε β} {fits : α → Prop} {valid : β → Prop}
    {encode : α → List UInt8} {encode' : β → List UInt8} (h : Reads m fits encode) (get : β → α)
    (field : ∀ b, valid b → fits (get b))
    (h' : ∀ a, fits a → Reads (f a) (fun b => valid b ∧ get b = a) encode') :
    Reads (m >>= f) valid (fun b => encode (get b) ++ encode' b) where
  calm := h.calm.bind_run fun _ a _ run => (h' a (h.took run).1).calm
  takes b hb :=
    (h.takes _ (field b hb)).bind ((h' _ (field b hb)).takes b ⟨hb, rfl⟩)
  took := by
    intro r r' b run
    obtain ⟨a, t, first, last⟩ := Method.of_run_bind_ok run
    obtain ⟨ha, rfl⟩ := h.took first
    obtain ⟨⟨hb, rfl⟩, rfl⟩ := (h' a ha).took last
    exact ⟨hb, by rw [List.append_assoc]⟩

theorem Reads.field {m : Reading ε α} {f : α → Reading ε β} {valid : β → Prop}
    {encode : α → List UInt8} {encode' : β → List UInt8} (h : Reads m (fun _ => True) encode)
    (get : β → α) (h' : ∀ a, Reads (f a) (fun b => valid b ∧ get b = a) encode') :
    Reads (m >>= f) valid (fun b => encode (get b) ++ encode' b) :=
  h.bind get (fun _ _ => trivial) fun a _ => h' a

theorem reads_pure {b : β} {valid : β → Prop} (h : ∀ b', valid b' ↔ b' = b) :
    Reads (pure b : Reading ε β) valid (fun _ => []) where
  calm := Method.neverPanics_pure b
  takes b' hb := by
    rw [(h b').mp hb]
    exact takes_pure b
  took := by
    intro r r' b' run
    cases run
    exact ⟨(h b).mpr rfl, rfl⟩

theorem Reads.map {m : Reading ε α} {fits : α → Prop} {valid : β → Prop} {encode : α → List UInt8}
    (f : α → β) (get : β → α) (h : Reads m fits encode)
    (onto : ∀ b, valid b → fits (get b) ∧ f (get b) = b)
    (back : ∀ a, fits a → valid (f a) ∧ get (f a) = a) :
    Reads (m >>= fun a => pure (f a)) valid (fun b => encode (get b)) where
  calm := h.calm.bind fun _ => Method.neverPanics_pure _
  takes b hb := by
    obtain ⟨fits, same⟩ := onto b hb
    have whole := (h.takes _ fits).map f
    rwa [Outcome.map, same] at whole
  took := by
    intro r r' b run
    obtain ⟨a, t, first, last⟩ := Method.of_run_bind_ok run
    cases last
    obtain ⟨ha, rfl⟩ := h.took first
    obtain ⟨hb, same⟩ := back a ha
    exact ⟨hb, by rw [same]⟩

theorem reads_readUint (w : Nat) :
    Reads (readUint w : Reading ε _) (fun n => n < 256 ^ w) (Bytes.toBe w) :=
  (reads_readExact w).map Bytes.ofBe (Bytes.toBe w)
    (fun n h => ⟨Bytes.length_toBe w n, Bytes.ofBe_toBe_of_lt h⟩) (by
      rintro bs rfl
      exact ⟨Bytes.ofBe_lt bs, Bytes.toBe_ofBe bs⟩)

theorem reads_repeated {m : Reading ε α} {encode : α → List UInt8}
    (h : Reads m (fun _ => True) encode) (n : Nat) :
    Reads (repeated n m) (fun xs => xs.length = n) (fun xs => xs.flatMap encode) where
  calm := neverPanics_repeated h.calm n
  takes := by
    rintro xs rfl
    exact takes_repeated xs fun x _ => h.takes x trivial
  took := by
    intro r r' xs run
    induction n generalizing r xs with
    | zero =>
      cases run
      exact ⟨rfl, rfl⟩
    | succ n ih =>
      obtain ⟨a, t, first, run⟩ := Method.of_run_bind_ok run
      obtain ⟨ys, t', rest, last⟩ := Method.of_run_bind_ok run
      cases last
      obtain ⟨-, rfl⟩ := h.took first
      obtain ⟨rfl, rfl⟩ := ih rest
      exact ⟨rfl, by rw [List.flatMap_cons, List.append_assoc]⟩

theorem Reads.list {γ : Type} {count : Reading ε γ} {num : γ → Nat} {limit w : Nat}
    {m : Reading ε α} {encode : α → List UInt8} {f : List α → Reading ε β} {valid : β → Prop}
    {encode' : β → List UInt8} (get : β → List α)
    (hc : Reads count (fun _ => True) (fun c => Bytes.toBe w (num c)))
    (below : ∀ c, num c < limit) (onto : ∀ n < limit, ∃ c, num c = n)
    (hm : Reads m (fun _ => True) encode) (fits : ∀ b, valid b → (get b).length < limit)
    (h' : ∀ xs, xs.length < limit → Reads (f xs) (fun b => valid b ∧ get b = xs) encode') :
    Reads (count >>= fun c => repeated (num c) m >>= f) valid (fun b =>
      Bytes.toBe w (get b).length ++ ((get b).flatMap encode ++ encode' b)) where
  calm := hc.calm.bind fun c => (reads_repeated hm _).calm.bind_run fun _ xs _ run =>
    (h' xs (((reads_repeated hm _).took run).1 ▸ below c)).calm
  takes b hb := by
    obtain ⟨c, hn⟩ := onto _ (fits b hb)
    have counted := hc.takes c trivial
    rw [hn] at counted
    refine counted.bind ?_
    rw [hn]
    exact ((reads_repeated hm _).takes _ rfl).bind ((h' _ (fits b hb)).takes b ⟨hb, rfl⟩)
  took := by
    intro r r' b run
    obtain ⟨c, t, counted, run⟩ := Method.of_run_bind_ok run
    obtain ⟨xs, t', elements, last⟩ := Method.of_run_bind_ok run
    obtain ⟨-, rfl⟩ := hc.took counted
    obtain ⟨length, rfl⟩ := (reads_repeated hm _).took elements
    obtain ⟨⟨hb, rfl⟩, rfl⟩ := (h' xs (length ▸ below c)).took last
    exact ⟨hb, by simp only [length, List.append_assoc]⟩

/-- Over a slice: exactly what starts with the encoding of a valid value gives that value. -/
theorem Reads.ok_iff {m : Reading ε α} {valid : α → Prop} {encode : α → List UInt8}
    (h : Reads m valid encode) (bs : List UInt8) (closing : ε) (a : α) :
    (m.run ⟨bs, closing⟩).1 = .ok a ↔ valid a ∧ encode a <+: bs := by
  constructor
  · intro run
    obtain ⟨ha, same⟩ := h.took (Prod.ext run rfl)
    exact ⟨ha, _, (congrArg Reader.bytes same).symm⟩
  · rintro ⟨ha, rest, rfl⟩
    rw [h.takes a ha rest closing]

theorem Reads.err {m : Reading ε α} {valid : α → Prop} {encode : α → List UInt8}
    (h : Reads m valid encode) {bs : List UInt8} (other : ∀ a, valid a → ¬encode a <+: bs)
    (closing : ε) : ∃ e, (m.run ⟨bs, closing⟩).1 = .err e := by
  have calm := h.calm ⟨bs, closing⟩
  cases result : (m.run ⟨bs, closing⟩).1 with
  | ok a =>
    obtain ⟨ha, starts⟩ := (h.ok_iff bs closing a).mp result
    exact absurd starts (other a ha)
  | err e => exact ⟨e, rfl⟩
  | panic =>
    rw [result] at calm
    contradiction

theorem calls_succ (m : Reading ε α) (n : Nat) (r : Reader ε) :
    calls m (n + 1) r = ((calls m n r).1 ++ [(m.run (calls m n r).2).1], (m.run (calls m n r).2).2) := by
  induction n generalizing r with
  | zero => rfl
  | succ n ih => rw [calls, ih, calls, List.cons_append]

/-- Items that are each taken whole are answered in order, and nothing else is taken. -/
theorem calls_flatMap {ι : Type} {m : Reading ε α} {bytes : ι → List UInt8}
    {answers : ι → Outcome ε α → Prop} (items : List ι)
    (h : ∀ i ∈ items, ∃ result, Takes m (bytes i) result ∧ answers i result)
    (rest : List UInt8) (closing : ε) :
    ∃ results, calls m items.length ⟨items.flatMap bytes ++ rest, closing⟩ =
      (results, ⟨rest, closing⟩) ∧ List.Forall₂ answers items results := by
  induction items with
  | nil => exact ⟨[], rfl, .nil⟩
  | cons i items ih =>
    obtain ⟨result, whole, answer⟩ := h i (List.mem_cons_self ..)
    obtain ⟨results, run, answered⟩ := ih fun j hj => h j (List.mem_cons_of_mem _ hj)
    refine ⟨result :: results, ?_, .cons answer answered⟩
    rw [List.flatMap_cons, List.append_assoc, List.length_cons, calls, whole _ closing, run]

/- Calls that put nothing back. -/

/-- What a value was read from is in front of what is left. -/
def Forward (m : Reading ε α) : Prop :=
  ∀ r r' a, m.run r = (.ok a, r') → r'.bytes.length ≤ r.bytes.length

theorem forward_pure (a : α) : Forward (pure a : Reading ε α) := by
  rintro r r' b ⟨⟩
  exact Nat.le_refl _

theorem forward_fail (e : ε) : Forward (.fail e : Reading ε α) := by
  rintro r r' a ⟨⟩

theorem forward_lift (result : Outcome ε α) : Forward (.lift result : Reading ε α) := by
  rintro r r' a ⟨⟩
  exact Nat.le_refl _

theorem Reads.forward {m : Reading ε α} {valid : α → Prop} {encode : α → List UInt8}
    (h : Reads m valid encode) : Forward m := by
  intro r r' a run
  rw [(h.took run).2, List.length_append]
  exact Nat.le_add_left ..

theorem Forward.bind {m : Reading ε α} {f : α → Reading ε β} (h : Forward m)
    (h' : ∀ a, Forward (f a)) : Forward (m >>= f) := by
  intro r r' b run
  obtain ⟨a, t, first, last⟩ := Method.of_run_bind_ok run
  exact Nat.le_trans (h' a t r' b last) (h r t a first)

end Reader

end Fallible
