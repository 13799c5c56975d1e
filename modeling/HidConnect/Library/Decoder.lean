import HidConnect.Library.Bytes

/-! Decoders that read a value off the front of a byte sequence, and what they read back. -/

structure Decoder (α : Type) where
  run : List UInt8 → Option (α × List UInt8)

namespace Decoder
variable {α β : Type}

instance : Monad Decoder where
  pure a := ⟨fun bs => some (a, bs)⟩
  bind d f := ⟨fun bs =>
    match d.run bs with
    | some (a, rest) => (f a).run rest
    | none => none⟩

def fail : Decoder α := ⟨fun _ => none⟩

def take (n : Nat) : Decoder (List UInt8) :=
  ⟨fun bs => if n ≤ bs.length then some (bs.take n, bs.drop n) else none⟩

def uint (w : Nat) : Decoder Nat := do
  let bs ← take w
  pure (Bytes.ofBe bs)

def utf8 (n : Nat) : Decoder String := do
  let bs ← take n
  match String.fromUTF8? bs.toByteArray with
  | some s => pure s
  | none => fail

/-- Read values until nothing is left. -/
def allFuel (d : Decoder α) : Nat → List UInt8 → Option (List α)
  | _, [] => some []
  | 0, _ :: _ => none
  | fuel + 1, b :: bs =>
    match d.run (b :: bs) with
    | some (a, rest) => (allFuel d fuel rest).map (a :: ·)
    | none => none

def all (d : Decoder α) (bs : List UInt8) : Option (List α) := allFuel d bs.length bs

/-- The decoder reads the value from these bytes, whatever comes after them. -/
def Reads (d : Decoder α) (bs : List UInt8) (a : α) : Prop :=
  ∀ rest, d.run (bs ++ rest) = some (a, rest)

theorem reads_pure (a : α) : Reads (pure a) [] a := fun _ => rfl

theorem Reads.bind {d : Decoder α} {f : α → Decoder β} {bs cs : List UInt8} {a : α} {b : β}
    (h : Reads d bs a) (h' : Reads (f a) cs b) : Reads (d >>= f) (bs ++ cs) b := by
  intro rest
  change (match d.run (bs ++ cs ++ rest) with
    | some (a, rest) => (f a).run rest
    | none => none) = _
  rw [List.append_assoc, h]
  exact h' rest

theorem Reads.last {d : Decoder α} {f : α → Decoder β} {bs : List UInt8} {a : α} {b : β}
    (h : Reads d bs a) (h' : f a = pure b) : Reads (d >>= f) bs b := by
  rw [← List.append_nil bs]
  exact h.bind (by rw [h']; exact reads_pure b)

theorem reads_take (bs : List UInt8) : Reads (take bs.length) bs bs := by
  intro rest
  simp [take]

theorem reads_uint {w n : Nat} (h : n < 256 ^ w) : Reads (uint w) (Bytes.toBe w n) n := by
  have whole := reads_take (Bytes.toBe w n)
  rw [Bytes.length_toBe] at whole
  exact whole.last (congrArg pure (Bytes.ofBe_toBe_of_lt h))

theorem reads_utf8 (s : String) :
    Reads (utf8 s.toUTF8.data.toList.length) s.toUTF8.data.toList s := by
  refine (reads_take _).last ?_
  have same : s.toUTF8.data.toList.toByteArray = s.toByteArray := by
    refine ByteArray.ext ?_
    rw [List.data_toByteArray, Array.toArray_toList]
    rfl
  have back : String.fromUTF8? s.toByteArray = some s := dif_pos s.isValidUTF8
  rw [same, back]

theorem allFuel_flatMap {d : Decoder α} {encode : β → List UInt8} {value : β → α} (xs : List β)
    (nonempty : ∀ x ∈ xs, encode x ≠ []) (reads : ∀ x ∈ xs, Reads d (encode x) (value x))
    (fuel : Nat) (enough : (xs.flatMap encode).length ≤ fuel) :
    allFuel d fuel (xs.flatMap encode) = some (xs.map value) := by
  induction xs generalizing fuel with
  | nil => cases fuel <;> rfl
  | cons x xs ih =>
    obtain ⟨b, bs, encoded⟩ := List.exists_cons_of_ne_nil (nonempty x (List.mem_cons_self ..))
    have first := reads x (List.mem_cons_self ..) (xs.flatMap encode)
    rw [encoded, List.cons_append] at first
    rw [List.flatMap_cons, encoded, List.cons_append] at enough ⊢
    cases fuel with
    | zero => simp at enough
    | succ fuel =>
      have rest := ih (fun y hy => nonempty y (List.mem_cons_of_mem _ hy))
        (fun y hy => reads y (List.mem_cons_of_mem _ hy)) fuel (by
          simp only [List.length_cons, List.length_append] at enough
          omega)
      simp only [allFuel, first, rest, List.map_cons, Option.map_some]

/-- A stream of values, each behind its own bytes, is read back whole. -/
theorem all_flatMap {d : Decoder α} {encode : β → List UInt8} {value : β → α} (xs : List β)
    (nonempty : ∀ x ∈ xs, encode x ≠ []) (reads : ∀ x ∈ xs, Reads d (encode x) (value x)) :
    all d (xs.flatMap encode) = some (xs.map value) :=
  allFuel_flatMap xs nonempty reads _ (Nat.le_refl _)

end Decoder
