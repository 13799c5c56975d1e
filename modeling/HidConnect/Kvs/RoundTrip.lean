import HidConnect.Kvs
import Mathlib.Data.List.TakeWhile

/-! What the parser reads of the pairs that the writer has written. -/
namespace HidConnect
namespace Kvs

/-- Keys that the parser can tell from what is around them. -/
structure Plain (key : List Char) : Prop where
  some : key ≠ []
  chars : ∀ c ∈ key, isWhitespace c = false ∧ c ≠ '=' ∧ c ≠ '"'

def isPlain (key : List Char) : Bool :=
  !key.isEmpty && key.all fun c => !isWhitespace c && c != '=' && c != '"'

theorem plain_of_isPlain {key : List Char} (h : isPlain key = true) : Plain key := by
  simp only [isPlain, Bool.and_eq_true, Bool.not_eq_true', List.isEmpty_eq_false_iff, List.all_eq_true,
    bne_iff_ne, and_assoc] at h
  exact ⟨h.1, h.2⟩

def pairText (key value : List Char) : List Char := key ++ '=' :: quoteValue value

/-- The text between the quotes up to the first quote in it. -/
def valueRead (value : List Char) : List Char :=
  if needsQuoting value then (escape value).takeWhile (· ≠ '"') else value

def Separated (tail : List Char) : Prop := ∀ c ∈ tail.head?, isAsciiWhitespace c = true

theorem not_ascii_of_not_whitespace {c : Char} (h : isWhitespace c = false) :
    isAsciiWhitespace c = false := by
  by_contra ascii
  rw [Bool.not_eq_false] at ascii
  simp only [isAsciiWhitespace, Bool.or_eq_true, beq_iff_eq] at ascii
  rcases ascii with (((rfl | rfl) | rfl) | rfl) | rfl <;> exact absurd h (by decide)

/-- Every turn takes something, so that the parser is done after as many as there are characters. -/
theorem tokens_succ {turns : Nat} {rest : List Char} (enough : rest.length ≤ turns) :
    tokens (turns + 1) rest = tokens turns rest := by
  induction turns generalizing rest with
  | zero =>
    rw [List.eq_nil_of_length_eq_zero (Nat.le_zero.mp enough)]
    rfl
  | succ turns ih =>
    rw [tokens.eq_2, tokens.eq_2 rest turns]
    cases shape : trimStart rest with
    | nil => rfl
    | cons c s =>
      have inside : isAsciiWhitespace c = false := by
        refine not_ascii_of_not_whitespace ?_
        have first : isWhitespace ((trimStart rest).head (by simp [shape])) = false :=
          List.head_dropWhile_not _ _
        simpa only [shape, List.head_cons] using first
      have taken : 0 < tokenLen (c :: s) := by
        rw [tokenLen, if_neg (by simp [inside])]
        split_ifs <;> omega
      have shorter : ((splitOneToken (c :: s)).2).length ≤ turns := by
        have kept : (c :: s).length ≤ rest.length := shape ▸ (List.dropWhile_sublist _).length_le
        have cut := (List.dropWhile_sublist isAsciiWhitespace
          (l := (c :: s).drop (tokenLen (c :: s)))).length_le
        rw [List.length_drop] at cut
        exact Nat.le_trans cut (by omega)
      rw [ih shorter]

/-- Nothing in the text ends a token or opens a quote. -/
def Flat (s : List Char) : Prop := ∀ c ∈ s, isAsciiWhitespace c = false ∧ c ≠ '='

theorem Flat.noEquals {s : List Char} (h : Flat s) : '=' ∉ s := fun member => (h _ member).2 rfl

theorem Plain.flat {key : List Char} (h : Plain key) : Flat key :=
  fun c hc => ⟨not_ascii_of_not_whitespace (h.chars c hc).1, (h.chars c hc).2.1⟩

theorem tokenLen_flat {s : List Char} (h : Flat s) (rest : List Char) :
    tokenLen (s ++ rest) = s.length + tokenLen rest := by
  induction s with
  | nil => simp
  | cons c s ih =>
    obtain ⟨⟨inside, other⟩, later⟩ := List.forall_mem_cons.mp h
    rw [List.cons_append, tokenLen, if_neg (by simp [inside]), if_neg (fun eq => other eq.1), ih later,
      List.length_cons]
    omega

theorem tokenLen_separated {tail : List Char} (h : Separated tail) : tokenLen tail = 0 := by
  cases tail with
  | nil => rfl
  | cons c tail => rw [tokenLen, if_pos (h c rfl)]

theorem quotedLen_eq (body tail : List Char) :
    quotedLen (body ++ '"' :: tail) = (body.takeWhile (· ≠ '"')).length + 1 := by
  induction body with
  | nil => rfl
  | cons c body ih =>
    rw [List.cons_append, quotedLen, List.takeWhile_cons]
    by_cases quote : c = '"'
    · simp [quote]
    · simp [quote, ih]

theorem take_quotedLen (body tail : List Char) :
    (body ++ '"' :: tail).take (quotedLen (body ++ '"' :: tail)) =
      body.takeWhile (· ≠ '"') ++ ['"'] := by
  rw [quotedLen_eq]
  induction body with
  | nil => rfl
  | cons c body ih =>
    rw [List.takeWhile_cons]
    by_cases quote : c = '"'
    · simp [quote]
    · simp [quote] at ih ⊢
      exact ih

theorem tokenLen_quoted (body tail : List Char) :
    tokenLen ('=' :: '"' :: (body ++ '"' :: tail)) = 2 + quotedLen (body ++ '"' :: tail) := by
  rw [tokenLen, if_neg (by decide), if_pos ⟨rfl, rfl⟩, List.tail_cons]

theorem splitKv_eq {key : List Char} (h : '=' ∉ key) (raw : List Char) :
    splitKv (key ++ '=' :: raw) = (key, (unquoted raw).getD raw) := by
  have other : ∀ c ∈ key, c ≠ '=' := fun c hc eq => h (eq ▸ hc)
  have front : (key ++ '=' :: raw).takeWhile (· ≠ '=') = key := by
    rw [List.takeWhile_append_of_pos (by simpa using other)]
    simp
  have back : (key ++ '=' :: raw).drop (key.length + 1) = raw := by
    rw [List.drop_length_add_append]
    rfl
  rw [splitKv, if_pos (by simp), front]
  dsimp only
  rw [back]

theorem unquoted_quoted (body : List Char) : unquoted ('"' :: (body ++ ['"'])) = some body := by
  rw [unquoted, if_pos]
  · simp
  · refine ⟨by simp, rfl, ?_⟩
    rw [← List.cons_append, List.getLast?_concat]

theorem unquoted_flat {raw : List Char} (h : '"' ∉ raw) : unquoted raw = none := by
  rw [unquoted, if_neg]
  rintro ⟨-, first, -⟩
  exact h (List.mem_of_mem_head? first)

theorem flat_of_unquoted {value : List Char} (h : needsQuoting value = false) :
    Flat value ∧ '"' ∉ value := by
  have each : ∀ c ∈ value, (isAsciiWhitespace c = false ∧ c ≠ '=') ∧ c ≠ '"' := by
    intro c hc
    have none := List.any_eq_false.mp h c hc
    simpa [and_assoc] using none
  exact ⟨fun c hc => (each c hc).1, fun quote => (each _ quote).2 rfl⟩

theorem escape_of_no_quote {value : List Char} (h : '"' ∉ value) : escape value = value := by
  induction value with
  | nil => rfl
  | cons c value ih =>
    obtain ⟨other, later⟩ := not_or.mp (mt List.mem_cons.mpr h)
    rw [escape, List.flatMap_cons, if_neg (Ne.symm other), List.singleton_append]
    exact congrArg (c :: ·) (ih later)

/-- What is read is what was written exactly if there is no quote in it: the reader takes the first
quote for the closing one, escaped or not. -/
theorem valueRead_eq_iff (value : List Char) : valueRead value = value ↔ '"' ∉ value := by
  constructor
  · intro same quote
    have quoted : needsQuoting value = true := List.any_eq_true.mpr ⟨_, quote, by simp⟩
    rw [valueRead, if_pos quoted] at same
    rw [← same] at quote
    have first := List.mem_takeWhile_imp quote
    simp at first
  · intro none
    rw [valueRead, escape_of_no_quote none]
    split_ifs
    · exact List.takeWhile_eq_self_iff.mpr fun c hc => by
        simpa using fun eq : c = '"' => none (eq ▸ hc)
    · rfl

section Pair
variable {key : List Char} {value tail : List Char}

theorem splitOneToken_bare (flatKey : Flat key) (separated : Separated tail)
    (bare : needsQuoting value = false) :
    splitOneToken (pairText key value ++ tail) =
      (key ++ '=' :: value, tail.dropWhile isAsciiWhitespace) := by
  obtain ⟨flat, none⟩ := flat_of_unquoted bare
  have noQuote : (value ++ tail).head? ≠ some '"' := by
    intro quote
    rcases value with _ | ⟨c, value⟩
    · exact absurd (separated _ quote) (by decide)
    · cases quote
      exact none (List.mem_cons_self ..)
  have text : pairText key value = key ++ '=' :: value := by
    rw [pairText, quoteValue, if_neg (by simp [bare])]
  have long : tokenLen (key ++ '=' :: value ++ tail) = (key ++ '=' :: value).length := by
    rw [List.append_assoc, tokenLen_flat flatKey, List.cons_append, tokenLen,
      if_neg (by decide), if_neg (fun both => noQuote both.2), tokenLen_flat flat,
      tokenLen_separated separated, List.length_append, List.length_cons, Nat.add_zero]
  rw [text, splitOneToken, long, List.take_left' rfl, List.drop_left' rfl]

theorem splitOneToken_quoted (flatKey : Flat key) (quoted : needsQuoting value = true) :
    splitOneToken (pairText key value ++ tail) =
      (key ++ '=' :: '"' :: ((escape value).takeWhile (· ≠ '"') ++ ['"']),
        ((escape value ++ '"' :: tail).drop (quotedLen (escape value ++ '"' :: tail))).dropWhile
          isAsciiWhitespace) := by
  have text : pairText key value ++ tail = key ++ '=' :: '"' :: (escape value ++ '"' :: tail) := by
    simp only [pairText, quoteValue, if_pos quoted, List.append_assoc, List.cons_append,
      List.nil_append]
  have long : tokenLen (key ++ '=' :: '"' :: (escape value ++ '"' :: tail)) =
      key.length + (quotedLen (escape value ++ '"' :: tail) + 2) := by
    rw [tokenLen_flat flatKey, tokenLen_quoted, Nat.add_comm 2]
  rw [text, splitOneToken, long, List.take_length_add_append, List.drop_length_add_append,
    List.take_succ_cons, List.take_succ_cons, take_quotedLen, List.drop_succ_cons,
    List.drop_succ_cons]

theorem splitOneToken_pair (flatKey : Flat key) (value : List Char) (separated : Separated tail) :
    ∃ raw after, splitOneToken (pairText key value ++ tail) =
        (key ++ '=' :: raw, after.dropWhile isAsciiWhitespace) ∧
      (unquoted raw).getD raw = valueRead value ∧ ('"' ∉ value → after = tail) := by
  cases quoted : needsQuoting value with
  | false =>
    refine ⟨value, tail, splitOneToken_bare flatKey separated quoted, ?_, fun _ => rfl⟩
    rw [unquoted_flat (flat_of_unquoted quoted).2, valueRead, if_neg (by simp [quoted])]
    rfl
  | true =>
    refine ⟨_, _, splitOneToken_quoted flatKey quoted, ?_, ?_⟩
    · rw [unquoted_quoted, valueRead, if_pos quoted]
      rfl
    · intro none
      have whole : (escape value).takeWhile (· ≠ '"') = value := by
        have read := (valueRead_eq_iff value).mpr none
        rwa [valueRead, if_pos quoted] at read
      rw [quotedLen_eq, whole, escape_of_no_quote none, List.drop_length_add_append]
      rfl

end Pair

theorem trimStart_pair {key : List Char} (plain : Plain key) (rest : List Char) :
    trimStart (key ++ rest) = key ++ rest := by
  rcases key with _ | ⟨c, key⟩
  · exact absurd rfl plain.some
  · rw [trimStart, List.cons_append, List.dropWhile_cons_of_neg]
    rw [(plain.chars c (List.mem_cons_self ..)).1]
    exact Bool.false_ne_true

theorem tokens_pair (turns : Nat) {key : List Char} (plain : Plain key) (value : List Char)
    {tail : List Char} (separated : Separated tail) :
    ∃ after, tokens (turns + 1) (pairText key value ++ tail) =
        (key, valueRead value) :: tokens turns (after.dropWhile isAsciiWhitespace) ∧
      ('"' ∉ value → after = tail) := by
  obtain ⟨raw, after, token, read, rest⟩ := splitOneToken_pair plain.flat value separated
  refine ⟨after, ?_, rest⟩
  have trimmed : trimStart (pairText key value ++ tail) = pairText key value ++ tail := by
    rw [pairText, List.append_assoc, trimStart_pair plain]
  have some : (pairText key value ++ tail).isEmpty = false := by simp [pairText]
  rw [tokens, trimmed, some, if_neg Bool.false_ne_true, token]
  dsimp only
  rw [if_neg (by simp), splitKv_eq plain.flat.noEquals, read]

def body (pairs : List (List Char × List Char)) : List Char :=
  pairs.flatMap fun p => ' ' :: pairText p.1 p.2

theorem separated_body (pairs : List (List Char × List Char)) : Separated (body pairs) := by
  intro c first
  rcases pairs with _ | ⟨p, pairs⟩
  · cases first
  · cases first
    rfl

theorem dropWhile_body {key : List Char} (plain : Plain key) (value : List Char)
    (pairs : List (List Char × List Char)) :
    (body ((key, value) :: pairs)).dropWhile isAsciiWhitespace = pairText key value ++ body pairs := by
  rw [body, List.flatMap_cons, List.cons_append, List.dropWhile_cons_of_pos (by decide)]
  rcases key with _ | ⟨c, key⟩
  · exact absurd rfl plain.some
  · rw [pairText, List.cons_append, List.cons_append, List.dropWhile_cons_of_neg]
    · rfl
    · rw [(plain.flat c (List.mem_cons_self ..)).1]
      exact Bool.false_ne_true

/-- Induction on the pairs: up to the first quote in a value the parser is at the pair the writer
was at. -/
theorem tokens_body {pairs : List (List Char × List Char)} (plain : ∀ p ∈ pairs, Plain p.1)
    {turns : Nat} (enough : pairs.length ≤ turns) :
    tokens turns ((body pairs).dropWhile isAsciiWhitespace) = pairs ↔ ∀ p ∈ pairs, '"' ∉ p.2 := by
  induction pairs generalizing turns with
  | nil =>
    refine ⟨fun _ _ hp => absurd hp (List.not_mem_nil), fun _ => ?_⟩
    cases turns <;> rfl
  | cons p pairs ih =>
    obtain ⟨turns, rfl⟩ : ∃ t, turns = t + 1 := ⟨turns - 1, by simp at enough; omega⟩
    obtain ⟨key, value⟩ := p
    obtain ⟨first, later⟩ := List.forall_mem_cons.mp plain
    obtain ⟨after, step, rest⟩ := tokens_pair turns first value (separated_body pairs)
    rw [dropWhile_body first, step, List.cons.injEq, Prod.mk.injEq, List.forall_mem_cons,
      and_iff_right rfl, valueRead_eq_iff]
    refine and_congr_right fun none => ?_
    rw [rest none]
    exact ih later (Nat.le_of_succ_le_succ enough)

theorem length_le_body {pairs : List (List Char × List Char)} :
    pairs.length ≤ (body pairs).tail.length := by
  have each : 2 * pairs.length ≤ (body pairs).length := by
    induction pairs with
    | nil => exact Nat.le_refl 0
    | cons p pairs ih =>
      rw [body, List.flatMap_cons, List.length_append, List.length_cons, List.length_cons, pairText,
        List.length_append, List.length_cons]
      change _ ≤ _ + (body pairs).length
      omega
  rw [List.length_tail]
  omega

def chars (p : String × String) : List Char × List Char := (p.1.toList, p.2.toList)

theorem ofList_chars (pairs : List (String × String)) :
    (pairs.map chars).map (fun p => (String.ofList p.1, String.ofList p.2)) = pairs := by
  rw [List.map_map]
  refine List.map_id'' (fun p => ?_) pairs
  simp [chars]

theorem parseKv_eq_iff (input : String) (pairs : List (String × String)) :
    parseKv input = pairs ↔ tokens input.length input.toList = pairs.map chars := by
  constructor
  · rintro rfl
    rw [parseKv, List.map_map]
    refine (List.map_id'' (fun p => ?_) _).symm
    simp [chars]
  · intro same
    rw [parseKv, same, ofList_chars]

end Kvs

namespace KvWriter
open Kvs

theorem value_out (w : KvWriter) (k v : String) :
    (w.value k v).out.toList =
      w.out.toList ++ (if w.needsSep then [' '] else []) ++ pairText k.toList v.toList := by
  cases sep : w.needsSep <;> simp [value, sep, pairText]

theorem foldl_out {w : KvWriter} (sep : w.needsSep = true) (pairs : List (String × String)) :
    (pairs.foldl (fun w p => w.value p.1 p.2) w).out.toList =
      w.out.toList ++ body (pairs.map chars) := by
  induction pairs generalizing w with
  | nil => exact (List.append_nil _).symm
  | cons p pairs ih =>
    rw [List.foldl_cons, ih (w := w.value p.1 p.2) rfl, value_out, if_pos sep, List.map_cons, body,
      body, List.flatMap_cons, List.append_assoc, List.append_assoc]
    rfl

theorem written_toList (pairs : List (String × String)) :
    (written pairs).toList = (body (pairs.map chars)).tail := by
  rcases pairs with _ | ⟨p, pairs⟩
  · rfl
  · rw [written, List.foldl_cons, foldl_out (w := (new "").value p.1 p.2) rfl, value_out]
    rfl

end KvWriter

open Kvs

/-- What the writer puts reads back exactly if no value has a quote in it. -/
theorem written_reads_back (pairs : List (String × String))
    (plain : ∀ p ∈ pairs, Plain p.1.toList) :
    parseKv (KvWriter.written pairs) = pairs ↔ ∀ p ∈ pairs, '"' ∉ p.2.toList := by
  have plainChars : ∀ p ∈ pairs.map chars, Plain p.1 := List.forall_mem_map.mpr plain
  have start : (body (pairs.map chars)).tail =
      (body (pairs.map chars)).dropWhile isAsciiWhitespace := by
    rcases pairs with _ | ⟨p, pairs⟩
    · rfl
    · rw [List.map_cons, chars, dropWhile_body (plain p (List.mem_cons_self ..)), body,
        List.flatMap_cons]
      rfl
  have enough : (pairs.map chars).length ≤ (KvWriter.written pairs).length := by
    rw [← String.length_toList, KvWriter.written_toList]
    exact length_le_body
  rw [parseKv_eq_iff, KvWriter.written_toList, start, tokens_body plainChars enough,
    List.forall_mem_map]
  rfl

theorem written_reads_back_spaces :
    parseKv (KvWriter.written [("text", "hello world"), ("eq", "a=b"), ("none", "")]) =
        [("text", "hello world"), ("eq", "a=b"), ("none", "")] ↔
      ∀ p ∈ [("text", "hello world"), ("eq", "a=b"), ("none", "")], '"' ∉ p.2.toList :=
  written_reads_back _ fun p hp => by
    have plain : [("text", "hello world"), ("eq", "a=b"), ("none", "")].all
        (fun p => isPlain p.1.toList) = true := by decide
    exact plain_of_isPlain (List.all_eq_true.mp plain p hp)

/-- The reader stops at the escaped quote and takes the rest for a key. -/
theorem quoted_reads_otherwise :
    Plain "text".toList ∧
      parseKv (KvWriter.written [("text", "a\"b")]) = [("text", "a\\"), ("b\"", "")] ∧
      parseKv (KvWriter.written [("text", "a\"b")]) ≠ [("text", "a\"b")] :=
  ⟨plain_of_isPlain (by decide), by decide, by decide⟩

end HidConnect
