import HidConnect.Library.Reader

/-! Which bytes a reader accepts, told from their number and from the counts among them. -/
namespace Fallible
namespace Reader
variable {ε α β : Type}

/-- The reader takes this many bytes, whatever they are, and fails for want of them only. -/
structure Wants (m : Reading ε α) (n : Nat) : Prop where
  enough : ∀ bs closing, n ≤ bs.length → ∃ a, m.run ⟨bs, closing⟩ = (.ok a, ⟨bs.drop n, closing⟩)
  short : ∀ bs closing, bs.length < n → (m.run ⟨bs, closing⟩).1 = .err closing

theorem wants_pure (a : α) : Wants (pure a : Reading ε α) 0 where
  enough _ _ _ := ⟨a, rfl⟩
  short _ _ none := absurd none (Nat.not_lt_zero _)

theorem wants_readExact (n : Nat) : Wants (readExact n : Reading ε _) n where
  enough bs closing enough := ⟨bs.take n, by simp [readExact, enough]⟩
  short bs closing short := by rw [readExact_short short]

theorem run_bind_fst_err {m : Reading ε α} {f : α → Reading ε β} {r : Reader ε} {e : ε}
    (failed : (m.run r).1 = .err e) : ((m >>= f).run r).1 = .err e := by
  rw [Method.run_bind_err (Prod.ext failed rfl : m.run r = (.err e, (m.run r).2))]

theorem Wants.bind {m : Reading ε α} {f : α → Reading ε β} {n k : Nat} (h : Wants m n)
    (h' : ∀ a, Wants (f a) k) : Wants (m >>= f) (n + k) where
  enough bs closing enough := by
    obtain ⟨a, run⟩ := h.enough bs closing (Nat.le_of_add_right_le enough)
    obtain ⟨b, last⟩ := (h' a).enough (bs.drop n) closing (by rw [List.length_drop]; omega)
    exact ⟨b, by rw [Method.run_bind_ok run, last, List.drop_drop]⟩
  short bs closing short := by
    by_cases enough : n ≤ bs.length
    · obtain ⟨a, run⟩ := h.enough bs closing enough
      rw [Method.run_bind_ok run]
      exact (h' a).short _ closing (by rw [List.length_drop]; omega)
    · exact run_bind_fst_err (h.short bs closing (Nat.lt_of_not_le enough))

theorem Wants.map {m : Reading ε α} {n : Nat} (h : Wants m n) (f : α → β) :
    Wants (m >>= fun a => pure (f a)) n :=
  h.bind fun _ => wants_pure _

theorem wants_readUint (w : Nat) : Wants (readUint w : Reading ε _) w := (wants_readExact w).map _

theorem wants_repeated {m : Reading ε α} {n : Nat} (h : Wants m n) (count : Nat) :
    Wants (repeated count m) (count * n) := by
  induction count with
  | zero =>
    rw [Nat.zero_mul]
    exact wants_pure []
  | succ count ih =>
    rw [Nat.succ_mul, Nat.add_comm (count * n)]
    exact h.bind fun _ => ih.map _

/-- The reader gives a value on exactly these bytes, and runs out of bytes on all others. -/
def Accepts (m : Reading ε α) (good : List UInt8 → Prop) : Prop :=
  ∀ bs closing, (good bs → ∃ a, (m.run ⟨bs, closing⟩).1 = .ok a) ∧
    (¬good bs → (m.run ⟨bs, closing⟩).1 = .err closing)

theorem accepts_pure (a : α) : Accepts (pure a : Reading ε α) fun _ => True :=
  fun _ _ => ⟨fun _ => ⟨a, rfl⟩, fun bad => absurd trivial bad⟩

theorem Accepts.field {m : Reading ε α} {f : α → Reading ε β} {n : Nat} {good : List UInt8 → Prop}
    (h : Wants m n) (h' : ∀ a, Accepts (f a) good) :
    Accepts (m >>= f) fun bs => n ≤ bs.length ∧ good (bs.drop n) := by
  intro bs closing
  by_cases enough : n ≤ bs.length
  · obtain ⟨a, run⟩ := h.enough bs closing enough
    dsimp only
    rw [Method.run_bind_ok run, and_iff_right enough]
    exact h' a _ closing
  · refine ⟨fun good => absurd good.1 enough, fun _ => ?_⟩
    exact run_bind_fst_err (h.short bs closing (Nat.lt_of_not_le enough))

theorem Accepts.congr {m : Reading ε α} {good good' : List UInt8 → Prop} (h : Accepts m good)
    (same : ∀ bs, good bs ↔ good' bs) : Accepts m good' := by
  rw [← funext fun bs => propext (same bs)]
  exact h

/-- Lists of elements of these sizes, each behind a count of this width, with anything after them. -/
def Counted : List (Nat × Nat) → List UInt8 → Prop
  | [], _ => True
  | (w, size) :: lists, bs =>
    w ≤ bs.length ∧ Bytes.ofBe (bs.take w) * size ≤ (bs.drop w).length ∧
      Counted lists ((bs.drop w).drop (Bytes.ofBe (bs.take w) * size))

instance decidableCounted : ∀ lists bs, Decidable (Counted lists bs)
  | [], _ => .isTrue trivial
  | (w, size) :: lists, bs =>
    have : Decidable (Counted lists ((bs.drop w).drop (Bytes.ofBe (bs.take w) * size))) :=
      decidableCounted lists _
    inferInstanceAs (Decidable (_ ∧ _ ∧ _))

theorem Accepts.list {γ : Type} {count : Reading ε γ} {num : γ → Nat} {w size : Nat}
    {lists : List (Nat × Nat)} {m : Reading ε α} {f : List α → Reading ε β}
    (hc : Reads count (fun _ => True) (fun c => Bytes.toBe w (num c))) (hw : Wants count w)
    (below : ∀ c, num c < 256 ^ w) (hm : Wants m size) (h' : ∀ xs, Accepts (f xs) (Counted lists)) :
    Accepts (count >>= fun c => repeated (num c) m >>= f) (Counted ((w, size) :: lists)) := by
  intro bs closing
  by_cases enough : w ≤ bs.length
  · obtain ⟨c, run⟩ := hw.enough bs closing enough
    -- the count that is read is the one that stands there
    have counted : num c = Bytes.ofBe (bs.take w) := by
      have whole : bs = Bytes.toBe w (num c) ++ bs.drop w := congrArg Reader.bytes (hc.took run).2
      have front : bs.take w = Bytes.toBe w (num c) := by
        rw [whole]
        exact List.take_left' (Bytes.length_toBe w _)
      rw [front, Bytes.ofBe_toBe_of_lt (below c)]
    have rest := Accepts.field (wants_repeated hm (num c)) h' (bs.drop w) closing
    rw [Method.run_bind_ok run, Counted, and_iff_right enough, ← counted]
    exact rest
  · refine ⟨fun good => absurd good.1 enough, fun _ => ?_⟩
    exact run_bind_fst_err (hw.short bs closing (Nat.lt_of_not_le enough))

end Reader
end Fallible
