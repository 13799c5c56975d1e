import HidConnect.Client.Command
import HidConnect.Hid.Held

/-! Keyboard chords: the keys go down in order and come up in reverse, and the last release drops the
modifiers. -/
namespace HidConnect
open Fallible

def keyboardChordKeys : Nat := 6
def keyboardChordEdges : Nat := keyboardChordKeys * 2

/-- `HidClient::key_chord` expands a chord into edges. -/
structure KeyboardChordFrame where
  len : UInt8
  keys : Vector UInt8 keyboardChordKeys
  mods : Modifiers

namespace KeyboardFrame

def empty : KeyboardFrame := { scancode := 0, pressed := false, mods := .empty }
def down (scancode : UInt8) (mods : Modifiers) : KeyboardFrame := { scancode, pressed := true, mods }

def press (f : KeyboardFrame) : KeyPress :=
  { scancode := f.scancode, pressed := f.pressed, modifiers := f.mods }

end KeyboardFrame

def Scancode.isModifier (s : Scancode) : Bool := 0xE0 ≤ s.code.toNat && s.code.toNat ≤ 0xE7

namespace KeyboardChordFrame

def tooLarge : Error := .sessionLifecycle "keyboard chord too large"
def notPlain : Error := .sessionLifecycle "keyboard chord keys must be non-modifier scancodes"
def overflow : Error := .sessionLifecycle "keyboard chord length overflow"

/-- The loop of both constructors: a key that is refused ends it. -/
def fillKeys {α : Type} (refused : α → Bool) (byte : α → UInt8) :
    List α → Nat → Vector UInt8 keyboardChordKeys → Result (Vector UInt8 keyboardChordKeys)
  | [], _, keys => .ok keys
  | scancode :: rest, idx, keys =>
    if refused scancode then .err notPlain
    else fillKeys refused byte rest (idx + 1) (keys.setIfInBounds idx (byte scancode))

def tryFill {α : Type} (refused : α → Bool) (byte : α → UInt8) (scancodes : List α)
    (mods : Modifiers) : Result KeyboardChordFrame :=
  if scancodes.length > keyboardChordKeys then .err tooLarge
  else (fillKeys refused byte scancodes 0 (Vector.replicate keyboardChordKeys 0)).map fun keys =>
    { len := scancodes.length.toUInt8, keys, mods }

def tryNew (scancodes : List UInt8) (mods : Modifiers) : Result KeyboardChordFrame :=
  tryFill (fun scancode => scancode.toNat > 0x65) (fun scancode => scancode) scancodes mods

def tryScancodes (scancodes : List Scancode) (mods : Modifiers) : Result KeyboardChordFrame :=
  tryFill Scancode.isModifier Scancode.toU8 scancodes mods

/-- The edges in an array, and how many of them there are. -/
def edgeFrames (c : KeyboardChordFrame) : Result (Vector KeyboardFrame keyboardChordEdges × Nat) :=
  let len := c.len.toNat
  if len > keyboardChordKeys then .err overflow
  else
    let frames := Vector.replicate keyboardChordEdges KeyboardFrame.empty
    let frames := (List.range len).foldl (fun frames idx =>
      frames.setIfInBounds idx (.down (c.keys.toList.getD idx 0) c.mods)) frames
    let frames := (List.range len).foldl (fun frames releaseIdx =>
      let key := c.keys.toList.getD (len - 1 - releaseIdx) 0
      let mods := if releaseIdx + 1 = len then .empty else c.mods
      frames.setIfInBounds (len + releaseIdx) { scancode := key, pressed := false, mods }) frames
    .ok (frames, len * 2)

def Accepts (scancodes : List UInt8) (mods : Modifiers) (c : KeyboardChordFrame) : Prop :=
  tryNew scancodes mods = .ok c ∨
    ∃ typed : List Scancode, typed.map Scancode.toU8 = scancodes ∧ tryScancodes typed mods = .ok c

structure Holds (c : KeyboardChordFrame) (scancodes : List UInt8) (mods : Modifiers) : Prop where
  few : scancodes.length ≤ keyboardChordKeys
  plain : ∀ scancode ∈ scancodes, scancode.toNat < 0x66
  len : c.len.toNat = scancodes.length
  keys : ∀ i (h : i < scancodes.length), c.keys.toList.getD i 0 = scancodes[i]
  mods : c.mods = mods

theorem fillKeys_ok {α : Type} {refused : α → Bool} {byte : α → UInt8} {scancodes : List α} {idx : Nat}
    {keys out : Vector UInt8 keyboardChordKeys}
    (ok : fillKeys refused byte scancodes idx keys = .ok out)
    (few : idx + scancodes.length ≤ keyboardChordKeys) :
    (∀ scancode ∈ scancodes, refused scancode = false) ∧
      (∀ i, i < idx → out.toList.getD i 0 = keys.toList.getD i 0) ∧
      ∀ i (h : i < scancodes.length), out.toList.getD (idx + i) 0 = byte scancodes[i] := by
  induction scancodes generalizing idx keys with
  | nil =>
    obtain rfl := Outcome.ok.inj ok
    simp
  | cons scancode rest ih =>
    rw [fillKeys] at ok
    split at ok
    · contradiction
    · rename_i plain
      rw [List.length_cons] at few
      obtain ⟨others, before, after⟩ := ih ok (by omega)
      refine ⟨?_, ?_, ?_⟩
      · intro sc hs
        rcases List.mem_cons.mp hs with rfl | hs
        · exact Bool.not_eq_true _ ▸ plain
        · exact others sc hs
      · intro i hi
        have apart : idx ≠ i := by omega
        rw [before i (by omega)]
        simp [apart]
      · intro i hi
        cases i with
        | zero =>
          have inside : idx < keyboardChordKeys := by omega
          rw [Nat.add_zero, before idx (Nat.lt_succ_self idx)]
          simp [inside]
        | succ i =>
          have next := after i (by simpa using hi)
          rw [Nat.add_assoc, Nat.add_comm 1 i] at next
          exact next

theorem tryFill_ok {α : Type} {refused : α → Bool} {byte : α → UInt8} {scancodes : List α}
    {mods : Modifiers} {c : KeyboardChordFrame} (ok : tryFill refused byte scancodes mods = .ok c)
    (plain : ∀ scancode ∈ scancodes, refused scancode = false → (byte scancode).toNat < 0x66) :
    Holds c (scancodes.map byte) mods := by
  unfold tryFill at ok
  split at ok
  · contradiction
  · rename_i few
    rcases filled : fillKeys refused byte scancodes 0 (Vector.replicate keyboardChordKeys 0) with
      keys | e | _ <;> rw [filled] at ok
    · obtain rfl := Outcome.ok.inj ok
      have room : scancodes.length ≤ keyboardChordKeys := Nat.le_of_not_lt few
      obtain ⟨accepted, _, each⟩ := fillKeys_ok filled (by simpa using room)
      refine ⟨by simpa using room, ?_, ?_, ?_, rfl⟩
      · intro sc hs
        obtain ⟨a, ha, rfl⟩ := List.mem_map.mp hs
        exact plain a ha (accepted a ha)
      · rw [List.length_map]
        have small : scancodes.length < 256 := Nat.lt_of_le_of_lt room (by decide)
        exact Nat.mod_eq_of_lt small
      · intro i hi
        have at_i := each i (by simpa using hi)
        rw [Nat.zero_add] at at_i
        simpa using at_i
    · contradiction
    · contradiction

theorem Accepts.holds {scancodes : List UInt8} {mods : Modifiers} {c : KeyboardChordFrame}
    (h : Accepts scancodes mods c) : Holds c scancodes mods := by
  rcases h with ok | ⟨typed, rfl, ok⟩
  · have holds := tryFill_ok ok fun sc _ plain => by
      have low : ¬sc.toNat > 0x65 := of_decide_eq_false plain
      omega
    rwa [List.map_id'] at holds
  · refine tryFill_ok ok fun sc _ plain => ?_
    have legal := sc.legal
    simp only [Scancode.isModifier, Bool.and_eq_false_iff, decide_eq_false_iff_not] at plain
    have small : sc.toU8.toNat = sc.code.toNat % 256 := rfl
    omega

/- The edges as a list. -/

def downs (scancodes : List UInt8) (mods : Modifiers) : List KeyboardFrame :=
  scancodes.map fun scancode => .down scancode mods

def ups (scancodes : List UInt8) (mods : Modifiers) : List KeyboardFrame :=
  (List.range scancodes.length).map fun releaseIdx =>
    { scancode := scancodes.getD (scancodes.length - 1 - releaseIdx) 0, pressed := false
      mods := if releaseIdx + 1 = scancodes.length then .empty else mods }

def edges (scancodes : List UInt8) (mods : Modifiers) : List KeyboardFrame :=
  downs scancodes mods ++ ups scancodes mods

@[simp] theorem length_downs (scancodes : List UInt8) (mods : Modifiers) :
    (downs scancodes mods).length = scancodes.length := by
  simp [downs]

@[simp] theorem length_ups (scancodes : List UInt8) (mods : Modifiers) :
    (ups scancodes mods).length = scancodes.length := by
  simp [ups]

theorem length_edges (scancodes : List UInt8) (mods : Modifiers) :
    (edges scancodes mods).length = 2 * scancodes.length := by
  simp [edges, Nat.two_mul]

theorem foldl_set {α : Type} {m : Nat} (f : Nat → α) (base n : Nat) (v : Vector α m) {j : Nat}
    (inside : j < m) :
    ((List.range n).foldl (fun v r => v.setIfInBounds (base + r) (f r)) v)[j] =
      if base ≤ j ∧ j < base + n then f (j - base) else v[j] := by
  induction n with
  | zero =>
    have empty : ¬(base ≤ j ∧ j < base + 0) := by omega
    rw [if_neg empty]
    rfl
  | succ n ih =>
    rw [List.range_succ, List.foldl_append, List.foldl_cons, List.foldl_nil,
      Vector.getElem_setIfInBounds, ih]
    by_cases last : base + n = j
    · have written : base ≤ j ∧ j < base + (n + 1) := by omega
      have place : j - base = n := by omega
      rw [if_pos last, if_pos written, place]
    · rw [if_neg last]
      by_cases earlier : base ≤ j ∧ j < base + n
      · have written : base ≤ j ∧ j < base + (n + 1) := by omega
        rw [if_pos earlier, if_pos written]
      · have outside : ¬(base ≤ j ∧ j < base + (n + 1)) := by omega
        rw [if_neg earlier, if_neg outside]

theorem Holds.edgeFrames {c : KeyboardChordFrame} {scancodes : List UInt8} {mods : Modifiers}
    (h : Holds c scancodes mods) : ∃ frames, c.edgeFrames = .ok (frames, scancodes.length * 2) ∧
      frames.toList.take (scancodes.length * 2) = edges scancodes mods := by
  have few : ¬scancodes.length > keyboardChordKeys := Nat.not_lt.mpr h.few
  have six : scancodes.length ≤ 6 := h.few
  have key (i : Nat) (hi : i < scancodes.length) : c.keys.toList.getD i 0 = scancodes.getD i 0 := by
    rw [h.keys i hi]
    simp [hi]
  unfold KeyboardChordFrame.edgeFrames
  simp only [h.len, if_neg few]
  refine ⟨_, rfl, ?_⟩
  apply List.ext_getElem
  · rw [length_edges, List.length_take, Vector.length_toList]
    simp only [keyboardChordEdges, keyboardChordKeys]
    omega
  · intro j hj hj'
    rw [length_edges] at hj'
    have inside : j < keyboardChordEdges := by
      simp only [keyboardChordEdges, keyboardChordKeys]
      omega
    have first := foldl_set (fun idx => KeyboardFrame.down (c.keys.toList.getD idx 0) c.mods) 0
      scancodes.length (Vector.replicate keyboardChordEdges KeyboardFrame.empty) inside
    simp only [Nat.zero_add] at first
    rw [List.getElem_take, Vector.getElem_toList, foldl_set _ _ _ _ inside, first]
    by_cases release : scancodes.length ≤ j
    · have within : scancodes.length ≤ j ∧ j < scancodes.length + scancodes.length := by omega
      rw [if_pos within]
      simp only [edges, List.getElem_append, length_downs, Nat.not_lt.mpr release, dite_false]
      simp only [ups, List.getElem_map, List.getElem_range, h.mods]
      rw [key _ (by omega)]
    · have press : j < scancodes.length := Nat.lt_of_not_le release
      have within : ¬(scancodes.length ≤ j ∧ j < scancodes.length + scancodes.length) := by omega
      have low : 0 ≤ j ∧ j < scancodes.length := ⟨Nat.zero_le j, press⟩
      rw [if_neg within, if_pos low]
      simp only [edges, List.getElem_append, length_downs, press, dite_true]
      simp only [downs, List.getElem_map, Nat.sub_zero, h.mods, h.keys j press]

/- The edges on the keyboard. -/

def codes (scancodes : List UInt8) : Finset Nat := (scancodes.map UInt8.toNat).toFinset

theorem mem_codes {scancodes : List UInt8} {n : Nat} :
    n ∈ codes scancodes ↔ ∃ scancode ∈ scancodes, scancode.toNat = n := by
  simp [codes]

def heldBy (held : Finset Nat) (frames : List KeyboardFrame) : Finset Nat :=
  frames.foldl (fun held f => f.press.hold held) held

theorem codes_append (xs ys : List UInt8) : codes (xs ++ ys) = codes xs ∪ codes ys := by
  simp [codes]

theorem codes_reverse (scancodes : List UInt8) : codes scancodes.reverse = codes scancodes := by
  simp [codes]

theorem codes_subset {xs ys : List UInt8} (h : xs ⊆ ys) : codes xs ⊆ codes ys := by
  intro n hn
  obtain ⟨sc, hs, rfl⟩ := mem_codes.mp hn
  exact mem_codes.mpr ⟨sc, h hs, rfl⟩

theorem disjoint_codes {held : Finset Nat} {scancodes : List UInt8}
    (free : ∀ scancode ∈ scancodes, scancode.toNat ∉ held) : Disjoint held (codes scancodes) := by
  rw [Finset.disjoint_right]
  intro n hn
  obtain ⟨sc, hs, rfl⟩ := mem_codes.mp hn
  exact free sc hs

theorem disjoint_of_nodup {xs ys : List UInt8} (distinct : (xs ++ ys).Nodup) :
    Disjoint (codes xs) (codes ys) := by
  refine disjoint_codes fun sc hs held => ?_
  obtain ⟨other, ho, same⟩ := mem_codes.mp held
  have apart := (List.nodup_append.mp distinct).2.2 other ho sc hs
  exact apart (UInt8.toNat_inj.mp same)

theorem heldBy_append (held : Finset Nat) (xs ys : List KeyboardFrame) :
    heldBy held (xs ++ ys) = heldBy (heldBy held xs) ys := List.foldl_append

theorem heldBy_presses (held : Finset Nat) {frames : List KeyboardFrame}
    (plain : ∀ f ∈ frames, f.scancode.toNat < 0x66) (pressed : ∀ f ∈ frames, f.pressed = true) :
    heldBy held frames = held ∪ codes (frames.map KeyboardFrame.scancode) := by
  induction frames generalizing held with
  | nil => simp [heldBy, codes]
  | cons f rest ih =>
    have first : f.press.hold held = insert f.scancode.toNat held := by
      have key := plain f (List.mem_cons_self ..)
      have down := pressed f (List.mem_cons_self ..)
      simp [KeyPress.hold, KeyboardFrame.press, key, down]
    have others := ih (f.press.hold held) (fun g hg => plain g (List.mem_cons_of_mem _ hg))
      fun g hg => pressed g (List.mem_cons_of_mem _ hg)
    rw [heldBy, List.foldl_cons, ← heldBy, others, first]
    ext n
    simp only [Finset.mem_union, Finset.mem_insert, mem_codes, List.map_cons, List.mem_cons,
      exists_eq_or_imp, eq_comm (a := n)]
    tauto

theorem heldBy_releases (held : Finset Nat) {frames : List KeyboardFrame}
    (plain : ∀ f ∈ frames, f.scancode.toNat < 0x66) (released : ∀ f ∈ frames, f.pressed = false) :
    heldBy held frames = held \ codes (frames.map KeyboardFrame.scancode) := by
  induction frames generalizing held with
  | nil => simp [heldBy, codes]
  | cons f rest ih =>
    have first : f.press.hold held = held.erase f.scancode.toNat := by
      have key := plain f (List.mem_cons_self ..)
      have up := released f (List.mem_cons_self ..)
      simp [KeyPress.hold, KeyboardFrame.press, key, up]
    have others := ih (f.press.hold held) (fun g hg => plain g (List.mem_cons_of_mem _ hg))
      fun g hg => released g (List.mem_cons_of_mem _ hg)
    rw [heldBy, List.foldl_cons, ← heldBy, others, first]
    ext n
    simp only [Finset.mem_sdiff, Finset.mem_erase, mem_codes, List.map_cons, List.mem_cons,
      exists_eq_or_imp, ne_eq, eq_comm (a := n), not_or, and_assoc]
    exact and_left_comm

theorem scancodes_ups (scancodes : List UInt8) (mods : Modifiers) :
    (ups scancodes mods).map KeyboardFrame.scancode = scancodes.reverse := by
  apply List.ext_getElem
  · simp
  · intro i hi _
    have inside : scancodes.length - 1 - i < scancodes.length := by
      simp only [List.length_map, length_ups] at hi
      omega
    simp [ups, List.getElem_reverse, inside]

theorem scancodes_downs (scancodes : List UInt8) (mods : Modifiers) :
    (downs scancodes mods).map KeyboardFrame.scancode = scancodes := by
  simp [downs, KeyboardFrame.down, Function.comp_def]

section
variable {scancodes : List UInt8} (mods : Modifiers)
  (plain : ∀ scancode ∈ scancodes, scancode.toNat < 0x66)
include plain

theorem plain_downs : ∀ f ∈ downs scancodes mods, f.scancode.toNat < 0x66 := by
  intro f hf
  have key := List.mem_map_of_mem (f := KeyboardFrame.scancode) hf
  rw [scancodes_downs] at key
  exact plain _ key

theorem plain_ups : ∀ f ∈ ups scancodes mods, f.scancode.toNat < 0x66 := by
  intro f hf
  have key := List.mem_map_of_mem (f := KeyboardFrame.scancode) hf
  rw [scancodes_ups] at key
  exact plain _ (List.mem_reverse.mp key)

theorem plain_edges : ∀ f ∈ edges scancodes mods, f.scancode.toNat < 0x66 := by
  intro f hf
  rcases List.mem_append.mp hf with hf | hf
  · exact plain_downs mods plain f hf
  · exact plain_ups mods plain f hf

/-- What is held after the first edges: the keys pressed so far without those released since. -/
theorem heldBy_take (held : Finset Nat) (i : Nat) :
    heldBy held ((edges scancodes mods).take i) = (held ∪ codes (scancodes.take i)) \
      codes (scancodes.reverse.take (i - scancodes.length)) := by
  have down : heldBy held ((downs scancodes mods).take i) = held ∪ codes (scancodes.take i) := by
    rw [heldBy_presses held (fun f hf => plain_downs mods plain f (List.mem_of_mem_take hf)),
      List.map_take, scancodes_downs]
    intro f hf
    obtain ⟨_, _, rfl⟩ := List.mem_map.mp (List.mem_of_mem_take hf)
    rfl
  rw [edges, List.take_append, heldBy_append, down, length_downs,
    heldBy_releases _ (fun f hf => plain_ups mods plain f (List.mem_of_mem_take hf)), List.map_take,
    scancodes_ups]
  intro f hf
  obtain ⟨_, _, rfl⟩ := List.mem_map.mp (List.mem_of_mem_take hf)
  rfl

end

def replay : List KeyboardFrame → Method Error KeyboardHid (List HidReport)
  | [] => pure []
  | f :: rest => do
    let report ← KeyboardHid.injectKey f.scancode f.pressed f.mods
    let reports ← replay rest
    pure (report :: reports)

theorem replay_run (k : KeyboardHid) {frames : List KeyboardFrame}
    (plain : ∀ f ∈ frames, f.scancode.toNat < 0x66) :
    ∃ reports k', (replay frames).run k = (.ok reports, k') ∧ k'.held = heldBy k.held frames ∧
      reports.length = frames.length ∧ ∀ i (h : i < frames.length) (h' : i < reports.length),
        reports[i] = heldReport (heldBy k.held (frames.take (i + 1))) frames[i].mods := by
  induction frames generalizing k with
  | nil => exact ⟨[], k, rfl, rfl, rfl, fun i h => absurd h (Nat.not_lt_zero i)⟩
  | cons f rest ih =>
    have key := plain f (List.mem_cons_self ..)
    have accepted : KeyboardHid.accepts f.press.scancode = true := by
      simp only [KeyboardHid.accepts, KeyboardFrame.press, Bool.or_eq_true]
      exact .inl (decide_eq_true (Nat.le_of_lt_succ key))
    have first := KeyboardHid.injectKey_run k f.press
    rw [accepted, if_pos rfl] at first
    obtain ⟨reports, k', run, held, count, each⟩ :=
      ih (k.after f.press) fun g hg => plain g (List.mem_cons_of_mem _ hg)
    rw [KeyboardHid.held_after] at held each
    refine ⟨heldReport (f.press.hold k.held) f.mods :: reports, k', ?_, held,
      congrArg Nat.succ count, ?_⟩
    · exact (Method.run_bind_ok first).trans (Method.run_bind_ok run)
    · intro i h h'
      cases i with
      | zero => rfl
      | succ i => exact each i (Nat.lt_of_succ_lt_succ h) (Nat.lt_of_succ_lt_succ h')

structure Chorded (k : KeyboardHid) (scancodes : List UInt8) (mods : Modifiers)
    (frames : List KeyboardFrame) : Prop where
  reports : ∃ reports k', (replay frames).run k = (.ok reports, k') ∧ k'.held = k.held ∧
    reports.length = 2 * scancodes.length ∧ ∀ i (h : i < reports.length),
      reports[i] = heldReport (heldBy k.held (frames.take (i + 1)))
        (if i + 1 = 2 * scancodes.length then .empty else mods)
  pressed : codes scancodes ⊆ heldBy k.held (frames.take scancodes.length)
  within : ∀ i, heldBy k.held (frames.take i) ⊆ k.held ∪ codes scancodes
  nested : scancodes.Nodup → ∀ i ≤ 2 * scancodes.length, heldBy k.held (frames.take i) =
    k.held ∪ codes (scancodes.take (min i (2 * scancodes.length - i)))

theorem mods_edges (scancodes : List UInt8) (mods : Modifiers) {i : Nat}
    (h : i < (edges scancodes mods).length) : (edges scancodes mods)[i].mods =
      if i + 1 = 2 * scancodes.length then .empty else mods := by
  have bound := h
  rw [length_edges] at bound
  by_cases release : scancodes.length ≤ i
  · simp only [edges, List.getElem_append, length_downs, Nat.not_lt.mpr release, dite_false]
    simp only [ups, List.getElem_map, List.getElem_range]
    by_cases last : i + 1 = 2 * scancodes.length
    · have last' : i - scancodes.length + 1 = scancodes.length := by omega
      rw [if_pos last, if_pos last']
    · have before : ¬i - scancodes.length + 1 = scancodes.length := by omega
      rw [if_neg last, if_neg before]
  · have press : i < scancodes.length := Nat.lt_of_not_le release
    have before : ¬i + 1 = 2 * scancodes.length := by omega
    simp only [edges, List.getElem_append, length_downs, press, dite_true]
    simp only [downs, List.getElem_map, KeyboardFrame.down, if_neg before]

section Free
variable {scancodes : List UInt8} {held : Finset Nat} (mods : Modifiers)
  (plain : ∀ scancode ∈ scancodes, scancode.toNat < 0x66)
  (free : ∀ scancode ∈ scancodes, scancode.toNat ∉ held)
include plain free

theorem heldBy_edges : heldBy held (edges scancodes mods) = held := by
  have all : (edges scancodes mods).take (2 * scancodes.length) = edges scancodes mods := by
    rw [← length_edges scancodes mods, List.take_length]
  have last := heldBy_take mods plain held (2 * scancodes.length)
  have back : 2 * scancodes.length - scancodes.length = scancodes.reverse.length := by
    rw [List.length_reverse]
    omega
  rwa [all, back, List.take_length, codes_reverse, List.take_of_length_le (by omega),
    Finset.union_sdiff_right, Finset.sdiff_eq_self_of_disjoint (disjoint_codes free)] at last

/-- Between the edges the keys that went down last are up first. -/
theorem heldBy_nested (distinct : scancodes.Nodup) {i : Nat} (hi : i ≤ 2 * scancodes.length) :
    heldBy held ((edges scancodes mods).take i) =
      held ∪ codes (scancodes.take (min i (2 * scancodes.length - i))) := by
  rw [heldBy_take mods plain]
  by_cases pressing : i ≤ scancodes.length
  · have none : i - scancodes.length = 0 := Nat.sub_eq_zero_of_le pressing
    have first : min i (2 * scancodes.length - i) = i := by omega
    rw [none, first, List.take_zero]
    simp [codes]
  · have first : min i (2 * scancodes.length - i) = 2 * scancodes.length - i := by omega
    have left : scancodes.length - (i - scancodes.length) = 2 * scancodes.length - i := by omega
    rw [first, List.take_of_length_le (by omega), List.take_reverse, left, codes_reverse]
    -- The keys that are still down and those that are up again.
    have split := List.take_append_drop (2 * scancodes.length - i) scancodes
    have parts := codes_append (scancodes.take (2 * scancodes.length - i))
      (scancodes.drop (2 * scancodes.length - i))
    rw [split] at parts
    have up : Disjoint (held ∪ codes (scancodes.take (2 * scancodes.length - i)))
        (codes (scancodes.drop (2 * scancodes.length - i))) := by
      rw [Finset.disjoint_union_left]
      constructor
      · exact disjoint_codes fun sc hs => free sc (List.mem_of_mem_drop hs)
      · exact disjoint_of_nodup (by rwa [split])
    rw [parts, ← Finset.union_assoc, Finset.union_sdiff_right, Finset.sdiff_eq_self_of_disjoint up]

end Free

theorem Holds.chorded {c : KeyboardChordFrame} {scancodes : List UInt8} {mods : Modifiers}
    (h : Holds c scancodes mods) {k : KeyboardHid}
    (free : ∀ scancode ∈ scancodes, scancode.toNat ∉ k.held) :
    Chorded k scancodes mods (edges scancodes mods) := by
  constructor
  case reports =>
    obtain ⟨reports, k', run, held, count, each⟩ := replay_run k (plain_edges mods h.plain)
    refine ⟨reports, k', run, held.trans (heldBy_edges mods h.plain free),
      count.trans (length_edges scancodes mods), ?_⟩
    intro i hi
    have inside : i < (edges scancodes mods).length := count ▸ hi
    rw [each i inside hi, mods_edges scancodes mods inside]
  case pressed =>
    rw [heldBy_take mods h.plain, Nat.sub_self, List.take_length, List.take_zero]
    intro n hn
    simp [codes] at hn ⊢
    exact .inr hn
  case within =>
    intro i
    rw [heldBy_take mods h.plain]
    exact Finset.sdiff_subset.trans
      (Finset.union_subset_union_right (codes_subset (List.take_subset i scancodes)))
  case nested =>
    intro distinct i hi
    exact heldBy_nested mods h.plain free distinct hi

/-- The edges of any chord that a constructor accepts, on any keyboard that holds none of its keys. -/
theorem chord_replays {scancodes : List UInt8} {mods : Modifiers} {c : KeyboardChordFrame}
    (accepted : Accepts scancodes mods c) {k : KeyboardHid}
    (free : ∀ scancode ∈ scancodes, scancode.toNat ∉ k.held) :
    ∃ frames, c.edgeFrames = .ok (frames, scancodes.length * 2) ∧
      Chorded k scancodes mods (frames.toList.take (scancodes.length * 2)) := by
  obtain ⟨frames, expanded, listed⟩ := accepted.holds.edgeFrames
  refine ⟨frames, expanded, ?_⟩
  rw [listed]
  exact accepted.holds.chorded free

def copyChord : KeyboardChordFrame := { len := 2, keys := #v[4, 6, 0, 0, 0, 0], mods := .lshift }

theorem chord_replays_copy : ∃ frames, copyChord.edgeFrames = .ok (frames, 4) ∧
    Chorded .new [4, 6] .lshift (frames.toList.take 4) := by
  have none (n : Nat) : n ∉ KeyboardHid.new.held := by
    rw [KeyboardHid.held_new]
    exact Finset.notMem_empty n
  have accepted : Accepts [4, 6] .lshift copyChord := .inl rfl
  exact chord_replays accepted fun scancode _ => none scancode.toNat

end KeyboardChordFrame
end HidConnect
