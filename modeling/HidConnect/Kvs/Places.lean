import HidConnect.Kvs.RoundTrip
import Mathlib.Data.List.DropRight

/-! Where a reader of tokens is at the end of a text, and how it goes on from there. -/
namespace HidConnect
namespace Kvs

/-- Where a reader of tokens is at the end of a text. -/
inductive Place where
  | between | inside | afterEquals | quoted
  deriving DecidableEq

namespace Place

def next : Place → Char → Place
  | between, c =>
    if isWhitespace c then between else if c = '=' then afterEquals else inside
  | inside, c =>
    if isAsciiWhitespace c then between else if c = '=' then afterEquals else inside
  | afterEquals, c =>
    if c = '"' then quoted
    else if isAsciiWhitespace c then between else if c = '=' then afterEquals else inside
  | quoted, c => if c = '"' then between else quoted

end Place

def place (s : List Char) : Place := s.foldl Place.next .between

/-- How much of what follows still belongs to the token. -/
def restLen : Place → List Char → Nat
  | .between, _ => 0
  | .inside, s => tokenLen s
  | .afterEquals, s => if s.head? = some '"' then quotedLen s.tail + 1 else tokenLen s
  | .quoted, s => quotedLen s

/-- The parser, with as many turns as it can need. -/
def parse (s : List Char) : List (List Char × List Char) := tokens s.length s

/- One character. -/

theorem tokenLen_cons {c : Char} {s : List Char} (inside : isAsciiWhitespace c = false) :
    tokenLen (c :: s) =
      restLen (if c = '=' then .afterEquals else .inside) s + 1 := by
  rw [tokenLen, if_neg (by rw [inside]; exact Bool.false_ne_true)]
  by_cases equals : c = '='
  · rw [if_pos equals, restLen]
    by_cases quote : s.head? = some '"'
    · rw [if_pos ⟨equals, quote⟩, if_pos quote]
      omega
    · rw [if_neg fun both => quote both.2, if_neg quote]
  · rw [if_neg fun both => equals both.1, if_neg equals, restLen]

theorem whitespace_of_ascii {c : Char} (h : isAsciiWhitespace c = true) : isWhitespace c = true := by
  rw [← Bool.not_eq_false]
  intro outside
  rw [not_ascii_of_not_whitespace outside] at h
  contradiction

theorem next_between {c : Char} (blank : isWhitespace c = true) : Place.next .between c = .between :=
  if_pos blank

/-- The character ends the token, of which it is a part if it is a closing quote. -/
def Ends (p : Place) (c : Char) : Prop :=
  p.next c = .between ∧
    ∃ k, (∀ w, restLen p (c :: w) = k) ∧ (k = 1 ∨ k = 0 ∧ isAsciiWhitespace c = true)

theorem ends_of_whitespace {p : Place} {c : Char} (next : p.next c = .between)
    (blank : isAsciiWhitespace c = true) (bare : ∀ w, restLen p (c :: w) = tokenLen (c :: w)) :
    Ends p c := by
  refine ⟨next, 0, fun w => ?_, .inr ⟨rfl, blank⟩⟩
  rw [bare, tokenLen, if_pos blank]

theorem ends_or_grows {p : Place} (token : p ≠ .between) (c : Char) :
    Ends p c ∨ p.next c ≠ .between ∧ ∀ w, restLen p (c :: w) = restLen (p.next c) w + 1 := by
  cases p with
  | between => exact absurd rfl token
  | inside =>
    by_cases blank : isAsciiWhitespace c = true
    · exact .inl (ends_of_whitespace (if_pos blank) blank fun w => rfl)
    · have next : Place.next .inside c = if c = '=' then .afterEquals else .inside := if_neg blank
      refine .inr ⟨?_, fun w => ?_⟩
      · rw [next]
        split <;> exact Place.noConfusion
      · rw [next]
        exact tokenLen_cons (Bool.eq_false_iff.mpr blank)
  | afterEquals =>
    by_cases quote : c = '"'
    · have next : Place.next .afterEquals c = .quoted := if_pos quote
      refine .inr ⟨ne_of_eq_of_ne next Place.noConfusion, fun w => ?_⟩
      rw [next, restLen, List.head?_cons, if_pos (by rw [quote])]
      rfl
    · have bare (w : List Char) : restLen .afterEquals (c :: w) = tokenLen (c :: w) := by
        rw [restLen, if_neg]
        simpa using quote
      have same : Place.next .afterEquals c = Place.next .inside c := if_neg quote
      by_cases blank : isAsciiWhitespace c = true
      · exact .inl (ends_of_whitespace (same.trans (if_pos blank)) blank bare)
      · have next : Place.next .afterEquals c = if c = '=' then .afterEquals else .inside :=
          same.trans (if_neg blank)
        refine .inr ⟨?_, fun w => ?_⟩
        · rw [next]
          split <;> exact Place.noConfusion
        · rw [next, bare]
          exact tokenLen_cons (Bool.eq_false_iff.mpr blank)
  | quoted =>
    by_cases quote : c = '"'
    · refine .inl ⟨if_pos quote, 1, fun w => ?_, .inl rfl⟩
      rw [restLen, quotedLen, if_pos quote]
    · have next : Place.next .quoted c = .quoted := if_neg quote
      refine .inr ⟨ne_of_eq_of_ne next Place.noConfusion, fun w => ?_⟩
      rw [next, restLen, quotedLen, if_neg quote, restLen]

/-- A token either ends in the text or grows into what follows it. -/
theorem token_ends_or_grows {p : Place} (token : p ≠ .between) (s : List Char) :
    (restLen p s ≤ s.length ∧ (∀ w, restLen p (s ++ w) = restLen p s) ∧
        s.foldl Place.next p = (s.drop (restLen p s)).foldl Place.next .between) ∨
      s.foldl Place.next p ≠ .between ∧
        ∀ w, restLen p (s ++ w) = s.length + restLen (s.foldl Place.next p) w := by
  induction s generalizing p with
  | nil => exact .inr ⟨token, fun w => (Nat.zero_add _).symm⟩
  | cons c s ih =>
    rw [List.foldl_cons]
    rcases ends_or_grows token c with ⟨next, k, len, kind⟩ | ⟨stays, len⟩
    · refine .inl ⟨?_, fun w => ?_, ?_⟩
      · rw [len, List.length_cons]
        rcases kind with rfl | ⟨rfl, -⟩ <;> omega
      · rw [List.cons_append, len, len]
      · rw [next, len]
        rcases kind with rfl | ⟨rfl, blank⟩
        · rfl
        · rw [List.drop_zero, List.foldl_cons, next_between (whitespace_of_ascii blank)]
    · rcases ih stays with ⟨inside, same, rest⟩ | ⟨open_, grows⟩
      · refine .inl ⟨?_, fun w => ?_, ?_⟩
        · rw [len, List.length_cons]
          exact Nat.succ_le_succ inside
        · rw [List.cons_append, len, len, same]
        · rw [len, List.drop_succ_cons]
          exact rest
      · refine .inr ⟨open_, fun w => ?_⟩
        rw [List.cons_append, len, grows, List.length_cons]
        omega

/- The parser, one token at a time. -/

theorem tokens_of_le {turns : Nat} {s : List Char} (enough : s.length ≤ turns) :
    tokens turns s = parse s := by
  obtain ⟨more, rfl⟩ := Nat.exists_eq_add_of_le enough
  clear enough
  induction more with
  | zero => rfl
  | succ more ih => rw [← Nat.add_assoc, tokens_succ (Nat.le_add_right ..), ih]

theorem trimStart_trimStart (s : List Char) : trimStart (trimStart s) = trimStart s :=
  List.dropWhile_idempotent ..

theorem trimStart_append_blank {blank : List Char} (h : ∀ c ∈ blank, isWhitespace c = true)
    (s : List Char) : trimStart (blank ++ s) = trimStart s :=
  List.dropWhile_append_of_pos h

theorem trimStart_append (s t : List Char) :
    trimStart (s ++ t) = if trimStart s = [] then trimStart t else trimStart s ++ t := by
  unfold trimStart
  rw [List.dropWhile_append]
  simp only [List.isEmpty_iff]

theorem parse_congr {s t : List Char} (same : trimStart s = trimStart t) : parse s = parse t := by
  rw [← tokens_of_le (Nat.le_add_right s.length (t.length + 1)),
    ← tokens_of_le (Nat.le_add_right t.length (s.length + 1)),
    show t.length + (s.length + 1) = s.length + (t.length + 1) by omega, ← Nat.add_assoc, tokens,
    tokens, same]

theorem parse_trimStart (s : List Char) : parse (trimStart s) = parse s :=
  parse_congr (trimStart_trimStart s)

theorem parse_append_blank {blank : List Char} (h : ∀ c ∈ blank, isWhitespace c = true)
    (s : List Char) : parse (blank ++ s) = parse s :=
  parse_congr (trimStart_append_blank h s)

theorem parse_cons_space (s : List Char) : parse (' ' :: s) = parse s := by
  have blank : ∀ c ∈ [' '], isWhitespace c = true := by
    intro c member
    rw [List.mem_singleton.mp member]
    rfl
  exact parse_append_blank blank s

theorem parse_dropWhile (s : List Char) : parse (s.dropWhile isAsciiWhitespace) = parse s := by
  have blank : ∀ c ∈ s.takeWhile isAsciiWhitespace, isWhitespace c = true :=
    fun c member => whitespace_of_ascii (List.mem_takeWhile_imp member)
  have same := parse_append_blank blank (s.dropWhile isAsciiWhitespace)
  rw [List.takeWhile_append_dropWhile] at same
  exact same.symm

def Headed (s : List Char) : Prop := ∃ c rest, s = c :: rest ∧ isWhitespace c = false

theorem headed_trimStart (s : List Char) : trimStart s = [] ∨ Headed (trimStart s) := by
  cases shape : trimStart s with
  | nil => exact .inl rfl
  | cons c rest =>
    have first : isWhitespace ((trimStart s).head (by simp [shape])) = false :=
      List.head_dropWhile_not _ _
    exact .inr ⟨c, rest, rfl, by simpa only [shape, List.head_cons] using first⟩

theorem Headed.ne_nil {s : List Char} (h : Headed s) : s ≠ [] := by
  obtain ⟨c, rest, rfl, -⟩ := h
  exact List.cons_ne_nil c rest

theorem Headed.trimmed {s : List Char} (h : Headed s) : trimStart s = s := by
  obtain ⟨c, rest, rfl, solid⟩ := h
  exact List.dropWhile_cons_of_neg (by rw [solid]; exact Bool.false_ne_true)

theorem Headed.append {s : List Char} (h : Headed s) (t : List Char) : Headed (s ++ t) := by
  obtain ⟨c, rest, rfl, solid⟩ := h
  exact ⟨c, rest ++ t, rfl, solid⟩

theorem Headed.tokenLen_pos {s : List Char} (h : Headed s) : 0 < tokenLen s := by
  obtain ⟨c, rest, rfl, solid⟩ := h
  rw [tokenLen_cons (not_ascii_of_not_whitespace solid)]
  exact Nat.succ_pos _

theorem Headed.place {s : List Char} (h : Headed s) : place s = s.foldl Place.next .inside := by
  obtain ⟨c, rest, rfl, solid⟩ := h
  have first : Place.next .between c = Place.next .inside c := by
    unfold Place.next
    simp only [solid, not_ascii_of_not_whitespace solid]
  rw [Kvs.place, List.foldl_cons, List.foldl_cons, first]

theorem parse_token {s : List Char} (h : Headed s) :
    parse s = splitKv (splitOneToken s).1 :: parse (splitOneToken s).2 := by
  have long := h.tokenLen_pos
  have some : ¬s.isEmpty = true := by
    obtain ⟨c, rest, rfl, -⟩ := h
    exact Bool.false_ne_true
  have token : ¬(splitOneToken s).1.isEmpty = true := by
    obtain ⟨c, rest, rfl, -⟩ := h
    rw [splitOneToken, List.isEmpty_iff, List.take_eq_nil_iff]
    exact fun either => either.elim (Nat.ne_of_gt long) (List.cons_ne_nil _ _)
  rw [← tokens_of_le (Nat.le_succ s.length), tokens, h.trimmed, if_neg some, if_neg token]
  congr 1
  refine tokens_of_le (Nat.le_trans (List.dropWhile_sublist _).length_le ?_)
  rw [List.length_drop]
  exact Nat.sub_le ..

theorem parse_headed {s : List Char} (h : Headed s) :
    parse s = splitKv (s.take (tokenLen s)) :: parse (s.drop (tokenLen s)) := by
  rw [parse_token h, splitOneToken, parse_dropWhile]

theorem parse_blank {s : List Char} (blank : trimStart s = []) : parse s = [] := by
  rw [← parse_trimStart, blank]
  rfl

/-- Induction on the tokens of a text. -/
theorem parse_induction {motive : List Char → Prop}
    (blank : ∀ s, trimStart s = [] → motive s)
    (token : ∀ s, Headed (trimStart s) →
      motive ((trimStart s).drop (tokenLen (trimStart s))) → motive s) (s : List Char) : motive s := by
  induction size : s.length using Nat.strongRecOn generalizing s with
  | ind n ih =>
    rcases headed_trimStart s with empty | headed
    · exact blank s empty
    · refine token s headed (ih _ ?_ _ rfl)
      have long := headed.tokenLen_pos
      have kept : (trimStart s).length ≤ s.length := (List.dropWhile_sublist _).length_le
      have some : 0 < (trimStart s).length := by
        obtain ⟨c, rest, shape, -⟩ := headed
        rw [shape]
        exact Nat.succ_pos _
      rw [List.length_drop]
      omega

/- A text whose quotes are closed: its complete tokens, and the one that its end may cut off. -/

/-- A token that only the end of the text ends. -/
structure Open (s : List Char) (p : Place) : Prop where
  headed : Headed s
  token : p = .inside ∨ p = .afterEquals
  place : place s = p
  grows : ∀ w, tokenLen (s ++ w) = s.length + restLen p w

theorem Open.parse_append {s : List Char} {p : Place} (h : Open s p) (w : List Char) :
    parse (s ++ w) = splitKv (s ++ w.take (restLen p w)) :: parse (w.drop (restLen p w)) := by
  rw [parse_headed (h.headed.append w), h.grows, List.take_length_add_append,
    List.drop_length_add_append]

theorem Open.alone {s : List Char} {p : Place} (h : Open s p) : parse s = [splitKv s] := by
  have whole := h.parse_append []
  rw [List.append_nil, List.take_nil, List.append_nil, List.drop_nil] at whole
  exact whole

theorem place_trimStart (s : List Char) : place (trimStart s) = place s := by
  have blank : ∀ b : List Char, (∀ c ∈ b, isWhitespace c = true) →
      b.foldl Place.next .between = .between := by
    intro b
    induction b with
    | nil => exact fun _ => rfl
    | cons c b ih =>
      intro h
      rw [List.forall_mem_cons] at h
      rw [List.foldl_cons, next_between h.1, ih h.2]
  have split : s.takeWhile isWhitespace ++ trimStart s = s := List.takeWhile_append_dropWhile
  rw [place, place]
  conv_rhs => rw [← split, List.foldl_append, blank _ fun c member => List.mem_takeWhile_imp member]

/-- Behind a text whose quotes are closed the parser goes on from the token that is cut off. -/
theorem parse_split (e : List Char) : place e ≠ .quoted →
    ∃ done s, (s = [] ∧ place e = .between ∨ Open s (place e)) ∧
      ∀ w, parse (e ++ w) = done ++ parse (s ++ w) := by
  induction e using parse_induction with
  | blank e empty =>
    intro _
    refine ⟨[], [], .inl ⟨rfl, ?_⟩, fun w => ?_⟩
    · rw [← place_trimStart, empty]
      rfl
    · refine parse_congr ?_
      rw [trimStart_append, if_pos empty]
      rfl
  | token e headed ih =>
    intro closed
    have some : trimStart e ≠ [] := headed.ne_nil
    have front (w : List Char) : parse (e ++ w) = parse (trimStart e ++ w) := by
      refine parse_congr ?_
      rw [trimStart_append, if_neg some, (headed.append w).trimmed]
    have at_ : (trimStart e).foldl Place.next .inside = place e := by
      rw [← headed.place, place_trimStart]
    rcases token_ends_or_grows (p := .inside) Place.noConfusion (trimStart e) with
      ⟨within, same, rest⟩ | ⟨open_, grows⟩
    · have there : place ((trimStart e).drop (tokenLen (trimStart e))) = place e :=
        rest.symm.trans at_
      obtain ⟨done, s, kind, parts⟩ := ih (there.symm ▸ closed)
      rw [there] at kind
      refine ⟨splitKv ((trimStart e).take (tokenLen (trimStart e))) :: done, s, kind, fun w => ?_⟩
      have len : tokenLen (trimStart e ++ w) = tokenLen (trimStart e) := same w
      have inner : tokenLen (trimStart e) ≤ (trimStart e).length := within
      rw [front, parse_headed (headed.append w), len, List.take_append_of_le_length inner,
        List.drop_append_of_le_length inner, parts, List.cons_append]
    · rw [at_] at open_ grows
      refine ⟨[], trimStart e, .inr ⟨headed, ?_, place_trimStart e, grows⟩, front⟩
      cases ending : place e with
      | between => exact absurd ending open_
      | inside => exact .inl rfl
      | afterEquals => exact .inr rfl
      | quoted => exact absurd ending closed

end Kvs

end HidConnect
