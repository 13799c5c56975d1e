import HidConnect.Kvs.Places

/-! Pairs that are written behind a text. -/
namespace HidConnect
namespace Kvs

/-- Keys that are read as they are written: neither does anything end them early, nor is their start
taken for a space between tokens. -/
structure Legible (key : List Char) : Prop where
  flat : Flat key
  trimmed : trimStart key = key

/- What is written reads back. -/

section Written
variable {key value tail : List Char} {pairs : List (List Char × List Char)}

theorem trimStart_pairText (key value tail : List Char) :
    trimStart (pairText key value ++ tail) = pairText (trimStart key) value ++ tail := by
  unfold pairText
  rw [List.append_assoc, trimStart_append]
  split
  case isTrue empty =>
    rw [empty]
    rfl
  case isFalse => rw [List.append_assoc]

theorem headed_pairText (key value tail : List Char) :
    Headed (trimStart (pairText key value ++ tail)) := by
  rcases headed_trimStart (pairText key value ++ tail) with empty | headed
  · rw [trimStart_pairText, pairText] at empty
    simp at empty
  · exact headed

theorem flat_trimStart (flat : Flat key) : Flat (trimStart key) :=
  fun c member => flat c ((List.dropWhile_sublist _).subset member)

theorem parse_pair (flat : Flat key) (none : '"' ∉ value) (separated : Separated tail) :
    parse (pairText key value ++ tail) = (trimStart key, value) :: parse tail := by
  have headed := headed_pairText key value tail
  obtain ⟨raw, after, token, read, rest⟩ :=
    splitOneToken_pair (flat_trimStart flat) value separated
  rw [← parse_trimStart, parse_token headed, trimStart_pairText, token]
  dsimp only
  rw [splitKv_eq (flat_trimStart flat).noEquals, read, (valueRead_eq_iff value).mpr none, rest none,
    parse_dropWhile]

theorem parse_body (flat : ∀ p ∈ pairs, Flat p.1) (none : ∀ p ∈ pairs, '"' ∉ p.2) :
    parse (body pairs) = pairs.map fun p => (trimStart p.1, p.2) := by
  induction pairs with
  | nil => rfl
  | cons p pairs ih =>
    rw [List.forall_mem_cons] at flat none
    have front : body (p :: pairs) = ' ' :: (pairText p.1 p.2 ++ body pairs) := rfl
    rw [front, parse_cons_space, parse_pair flat.1 none.1 (separated_body pairs),
      ih flat.2 none.2, List.map_cons]

theorem map_trimStart_eq_iff :
    pairs.map (fun p => (trimStart p.1, p.2)) = pairs ↔ ∀ p ∈ pairs, trimStart p.1 = p.1 := by
  induction pairs with
  | nil => simp
  | cons p pairs ih =>
    rw [List.map_cons, List.cons.injEq, ih, List.forall_mem_cons]
    exact and_congr_left fun _ => ⟨congrArg Prod.fst, fun same => Prod.ext same rfl⟩

end Written

/- What the parser never returns, and what it never drops. -/

theorem flat_front (s : List Char) : Flat ((s.take (tokenLen s)).takeWhile (· ≠ '=')) := by
  induction s with
  | nil => exact fun c member => absurd member List.not_mem_nil
  | cons c s ih =>
    have cut (n : Nat) : Flat ((c :: s).take (n + 1) |>.takeWhile (· ≠ '=')) ↔
        c = '=' ∨ isAsciiWhitespace c = false ∧ Flat ((s.take n).takeWhile (· ≠ '=')) := by
      rw [List.take_succ_cons, List.takeWhile_cons]
      by_cases equals : c = '='
      · simp [equals, Flat]
      · simp [equals, Flat]
    rw [tokenLen]
    split
    case isTrue => exact fun c member => absurd member List.not_mem_nil
    case isFalse solid =>
      split
      case isTrue quoted =>
        rw [Nat.add_comm 2]
        exact (cut _).mpr (.inl quoted.1)
      case isFalse => exact (cut _).mpr (.inr ⟨Bool.eq_false_iff.mpr solid, ih⟩)

theorem unquoted_sublist {raw inner : List Char} (h : unquoted raw = some inner) :
    inner.Sublist raw := by
  unfold unquoted at h
  split at h
  · cases h
    exact (List.dropLast_sublist _).trans (List.tail_sublist _)
  · cases h

theorem splitKv_of_no_equals {token : List Char} (none : '=' ∉ token) :
    splitKv token = ((unquoted token).getD token, []) := by
  rw [splitKv, if_neg]
  simpa using none

theorem takeWhile_of_no_equals {token : List Char} (none : '=' ∉ token) :
    token.takeWhile (· ≠ '=') = token :=
  List.takeWhile_eq_self_iff.mpr fun c member => by
    simpa using fun eq : c = '=' => none (eq ▸ member)

theorem split_token {token : List Char} (some : '=' ∈ token) :
    ∃ key raw, token = key ++ '=' :: raw ∧ key = token.takeWhile (· ≠ '=') ∧
      ∀ more, splitKv (token ++ more) = (key, (unquoted (raw ++ more)).getD (raw ++ more)) := by
  obtain ⟨key, raw, rfl, none⟩ := List.eq_append_cons_of_mem some
  refine ⟨key, raw, rfl, ?_, fun more => ?_⟩
  · have other : ∀ c ∈ key, c ≠ '=' := fun c member eq => none (eq ▸ member)
    rw [List.takeWhile_append_of_pos (by simpa using other)]
    simp
  · rw [List.append_assoc, List.cons_append, splitKv_eq none]

theorem flat_key {token : List Char} (flat : Flat (token.takeWhile (· ≠ '='))) :
    Flat (splitKv token).1 := by
  by_cases some : '=' ∈ token
  · obtain ⟨key, raw, -, front, split⟩ := split_token some
    have whole := split []
    rw [List.append_nil] at whole
    rw [whole, front]
    exact flat
  · rw [takeWhile_of_no_equals some] at flat
    rw [splitKv_of_no_equals some]
    cases bare : unquoted token with
    | none => exact flat
    | some inner => exact fun c member => flat c ((unquoted_sublist bare).subset member)

theorem flat_of_mem_parse (s : List Char) : ∀ p ∈ parse s, Flat p.1 := by
  induction s using parse_induction with
  | blank s empty =>
    rw [parse_blank empty]
    exact fun p member => absurd member List.not_mem_nil
  | token s headed ih =>
    rw [← parse_trimStart, parse_headed headed, List.forall_mem_cons]
    exact ⟨flat_key (flat_front _), ih⟩

/-- Everything that the parser returns, in one text. -/
def content (pairs : List (List Char × List Char)) : List Char := pairs.flatMap fun p => p.1 ++ p.2

theorem count_unquoted {raw inner : List Char} (h : unquoted raw = some inner) :
    raw.count '\\' = inner.count '\\' := by
  unfold unquoted at h
  split at h
  case isFalse => cases h
  case isTrue quoted =>
    obtain ⟨long, first, last⟩ := quoted
    cases h
    cases raw with
    | nil => cases first
    | cons c raw =>
      cases first
      have some : raw ≠ [] := by
        rintro rfl
        exact absurd long (by decide)
      rw [List.getLast?_cons_of_ne_nil some] at last
      rw [List.count_cons_of_ne (by decide), List.tail_cons]
      have whole := List.dropLast_append_getLast? '"' last
      rw [← whole, List.count_append, List.dropLast_concat]
      rfl

theorem count_getD_unquoted (raw : List Char) :
    ((unquoted raw).getD raw).count '\\' = raw.count '\\' := by
  cases quoted : unquoted raw with
  | none => rfl
  | some inner => exact (count_unquoted quoted).symm

theorem count_splitKv (token : List Char) :
    ((splitKv token).1 ++ (splitKv token).2).count '\\' = token.count '\\' := by
  by_cases some : '=' ∈ token
  · obtain ⟨key, raw, shape, -, split⟩ := split_token some
    have whole := split []
    rw [List.append_nil, List.append_nil] at whole
    rw [whole, List.count_append, count_getD_unquoted]
    conv_rhs => rw [shape, List.count_append, List.count_cons_of_ne (by decide)]
  · rw [splitKv_of_no_equals some, List.append_nil, count_getD_unquoted]

theorem count_trimStart (s : List Char) : (trimStart s).count '\\' = s.count '\\' := by
  have split : s.takeWhile isWhitespace ++ trimStart s = s := List.takeWhile_append_dropWhile
  have none : (s.takeWhile isWhitespace).count '\\' = 0 := by
    refine List.count_eq_zero.mpr fun member => ?_
    exact absurd (List.mem_takeWhile_imp member) (by decide)
  conv_rhs => rw [← split, List.count_append, none, Nat.zero_add]

theorem count_parse (s : List Char) : (content (parse s)).count '\\' = s.count '\\' := by
  induction s using parse_induction with
  | blank s empty =>
    rw [parse_blank empty, ← count_trimStart s, empty]
    rfl
  | token s headed ih =>
    have whole := List.take_append_drop (tokenLen (trimStart s)) (trimStart s)
    rw [← parse_trimStart, parse_headed headed, content, List.flatMap_cons, List.count_append,
      count_splitKv]
    change _ + (content _).count _ = _
    rw [ih, ← List.count_append, whole, count_trimStart]

theorem count_quoteValue (value : List Char) :
    (quoteValue value).count '\\' = value.count '\\' + value.count '"' := by
  have escaped : (escape value).count '\\' = value.count '\\' + value.count '"' := by
    induction value with
    | nil => rfl
    | cons c value ih =>
      rw [escape, List.flatMap_cons, List.count_append]
      change _ + (escape value).count _ = _
      rw [ih, List.count_cons, List.count_cons]
      by_cases quote : c = '"'
      · subst quote
        simp
        omega
      · simp [quote, List.count_cons]
        omega
  rw [quoteValue]
  split
  case isTrue =>
    rw [List.count_cons_of_ne (by decide), List.count_append, escaped]
    rfl
  case isFalse bare =>
    have none : value.count '"' = 0 :=
      List.count_eq_zero.mpr (flat_of_unquoted (Bool.eq_false_iff.mpr bare)).2
    rw [none, Nat.add_zero]

theorem count_body (pairs : List (List Char × List Char)) :
    (body pairs).count '\\' =
      (content pairs).count '\\' + (pairs.flatMap Prod.snd).count '"' := by
  induction pairs with
  | nil => rfl
  | cons p pairs ih =>
    rw [body, List.flatMap_cons, List.cons_append, List.count_cons_of_ne (by decide), pairText]
    change List.count _ (_ ++ body pairs) = _
    rw [content, List.flatMap_cons, List.flatMap_cons]
    change _ = List.count _ (_ ++ content pairs) + _
    rw [List.count_append, List.count_append, List.count_append, List.count_append, List.count_append,
      List.count_cons_of_ne (by decide), count_quoteValue, ih]
    omega

/-- Each quote in a value is written behind a backslash, and no backslash gets lost. -/
theorem no_quote_of_parse {s t : List Char} {pairs : List (List Char × List Char)}
    (written : t.count '\\' = (body pairs).count '\\') (same : parse (s ++ t) = parse s ++ pairs) :
    ∀ p ∈ pairs, '"' ∉ p.2 := by
  have counts := congrArg (fun l => (content l).count '\\') same
  have joined (l l' : List (List Char × List Char)) :
      content (l ++ l') = content l ++ content l' := List.flatMap_append ..
  simp only [joined, List.count_append, count_parse] at counts
  rw [count_body] at written
  have zero : (pairs.flatMap Prod.snd).count '"' = 0 := by omega
  intro p member quote
  exact List.count_eq_zero.mp zero (List.mem_flatMap.mpr ⟨p, member, quote⟩)

/- A token that is cut off grows into the pair behind it. -/

theorem equals_of_afterEquals {s : List Char} {p : Place} (ends : s.foldl Place.next p = .afterEquals)
    (other : p ≠ .afterEquals) : '=' ∈ s := by
  induction s generalizing p with
  | nil => exact absurd ends other
  | cons c s ih =>
    by_cases equals : c = '='
    · rw [equals]
      exact List.mem_cons_self ..
    · have next : p.next c ≠ .afterEquals := by
        cases p <;> unfold Place.next <;> simp only [if_neg equals] <;> split_ifs <;>
          exact Place.noConfusion
      exact List.mem_cons_of_mem _ (ih ends next)

theorem length_getD_unquoted (raw : List Char) :
    ((unquoted raw).getD raw).length ≤ raw.length ∧
      raw.length ≤ ((unquoted raw).getD raw).length + 2 := by
  cases quoted : unquoted raw with
  | none => exact ⟨Nat.le_refl _, Nat.le_add_right ..⟩
  | some inner =>
    refine ⟨(unquoted_sublist quoted).length_le, ?_⟩
    unfold unquoted at quoted
    split at quoted
    · cases quoted
      rw [Option.getD_some, List.length_dropLast, List.length_tail]
      omega
    · cases quoted

theorem quotedLen_of_no_quote {t : List Char} (none : '"' ∉ t) : quotedLen t = t.length := by
  induction t with
  | nil => rfl
  | cons c t ih =>
    rw [List.mem_cons, not_or] at none
    rw [quotedLen, if_neg (Ne.symm none.1), ih none.2, List.length_cons]

/-- A quote that opens behind the `=` at the end of a token gives it another value, unless it closes
at once. -/
theorem splitKv_opened {s t : List Char} (some : '=' ∈ s) (more : t ≠ [])
    (next : t.head? ≠ Option.some '"') :
    splitKv (s ++ '"' :: t.take (quotedLen t)) ≠ splitKv s := by
  obtain ⟨key, raw, -, -, split⟩ := split_token some
  have before := split []
  rw [List.append_nil, List.append_nil] at before
  rw [split, before]
  intro same
  have lengths := congrArg (fun kv => kv.2.length) same
  have shorter := (length_getD_unquoted raw).1
  obtain ⟨c, rest, rfl⟩ := List.exists_cons_of_ne_nil more
  have other : c ≠ '"' := by simpa using next
  by_cases closes : '"' ∈ c :: rest
  · have longer := (length_getD_unquoted (raw ++ '"' :: (c :: rest).take (quotedLen (c :: rest)))).2
    have inner : '"' ∈ rest := (List.mem_cons.mp closes).resolve_left (Ne.symm other)
    have two : 2 ≤ ((c :: rest).take (quotedLen (c :: rest))).length := by
      obtain ⟨front, back, rfl⟩ := List.append_of_mem inner
      have enough := quotedLen_eq (c :: front) back
      rw [List.takeWhile_cons, if_pos (by simpa using other)] at enough
      rw [← List.cons_append, enough, List.length_take, List.length_append, List.length_cons,
        List.length_cons]
      simp only [List.length_cons]
      omega
    rw [List.length_append, List.length_cons] at longer
    dsimp only at lengths
    omega
  · have all : (c :: rest).take (quotedLen (c :: rest)) = c :: rest := by
      rw [quotedLen_of_no_quote closes, List.take_length]
    have last : (raw ++ '"' :: c :: rest).getLast? ≠ Option.some '"' := by
      rw [List.getLast?_append, List.getLast?_cons_cons]
      intro quote
      refine closes (List.mem_of_mem_getLast? (l := c :: rest) ?_)
      simpa using quote
    have bare : unquoted (raw ++ '"' :: c :: rest) = none := by
      rw [unquoted, if_neg]
      exact fun quoted => last quoted.2.2
    rw [all, bare] at lengths
    simp only [Option.getD_none, List.length_append, List.length_cons] at lengths
    omega

section Merges
variable {s key value tail : List Char} {p : Place} {pairs : List (List Char × List Char)}

theorem key_of_quote (quote : (pairText key value ++ tail).head? = some '"') :
    ∃ rest, key = '"' :: rest := by
  cases key with
  | nil => exact absurd (Option.some.inj (quote : some '=' = some '"')) (by decide)
  | cons c rest => exact ⟨rest, by cases quote; rfl⟩

theorem Open.merges_unquoted (h : Open s p) (flatKey : Flat key) (noQuote : '"' ∉ value)
    (flat : ∀ p ∈ pairs, Flat p.1) (none : ∀ p ∈ pairs, '"' ∉ p.2)
    (unopened : p = .afterEquals → (pairText key value ++ body pairs).head? ≠ some '"') :
    parse ((pairText key value ++ body pairs).drop (restLen p (pairText key value ++ body pairs))) ≠
      (key, value) :: pairs := by
  have len : restLen p (pairText key value ++ body pairs) =
      tokenLen (pairText key value ++ body pairs) := by
    rcases h.token with rfl | rfl
    · rfl
    · exact if_neg (unopened rfl)
  obtain ⟨raw, after, token, -, rest⟩ := splitOneToken_pair flatKey value (separated_body pairs)
  have left : parse ((pairText key value ++ body pairs).drop
      (tokenLen (pairText key value ++ body pairs))) = parse (body pairs) := by
    have second := congrArg Prod.snd token
    dsimp only at second
    rw [rest noQuote] at second
    rw [← parse_dropWhile (body pairs), ← second, splitOneToken, parse_dropWhile]
  rw [len, left, parse_body flat none]
  intro same
  have lengths := congrArg List.length same
  rw [List.length_map, List.length_cons] at lengths
  omega

theorem parse_cut_ne (flatKey : Flat ('"' :: '"' :: key)) (noQuote : '"' ∉ value)
    (separated : Separated tail) :
    let text := pairText ('"' :: key) value ++ tail
    parse (text.drop (quotedLen text)) ≠ ('"' :: '"' :: key, value) :: pairs := by
  intro text
  have one : quotedLen text = 1 := rfl
  have front : text.drop 1 = pairText key value ++ tail := rfl
  have later : Flat key := fun c member =>
    flatKey c (List.mem_cons_of_mem _ (List.mem_cons_of_mem _ member))
  rw [one, front, parse_pair later noQuote separated]
  intro same
  have lengths := congrArg (fun l => (l.head?.map fun p => p.1.length)) same
  have shorter : (trimStart key).length ≤ key.length := (List.dropWhile_sublist _).length_le
  simp only [List.head?_cons, Option.map_some, Option.some.injEq, List.length_cons] at lengths
  omega

theorem Open.merges (h : Open s p) {q : List Char × List Char} (flat : ∀ p ∈ q :: pairs, Flat p.1)
    (none : ∀ p ∈ q :: pairs, '"' ∉ p.2) :
    parse (s ++ (pairText q.1 q.2 ++ body pairs)) ≠ splitKv s :: q :: pairs := by
  obtain ⟨key, value⟩ := q
  rw [List.forall_mem_cons] at flat none
  obtain ⟨flatKey, flat⟩ := flat
  obtain ⟨noQuote, none⟩ := none
  change Flat key at flatKey
  change '"' ∉ value at noQuote
  rw [h.parse_append, ne_eq, List.cons.injEq, not_and]
  intro first
  by_cases opens : p = .afterEquals ∧ (pairText key value ++ body pairs).head? = some '"'
  · obtain ⟨rfl, quote⟩ := opens
    obtain ⟨key', rfl⟩ := key_of_quote quote
    have shape : pairText ('"' :: key') value ++ body pairs =
        '"' :: (pairText key' value ++ body pairs) := rfl
    have len : restLen .afterEquals ('"' :: (pairText key' value ++ body pairs)) =
        quotedLen (pairText key' value ++ body pairs) + 1 := by
      rw [restLen, List.head?_cons, if_pos rfl]
      rfl
    rw [shape, len, List.take_succ_cons] at first
    rw [shape, len, List.drop_succ_cons]
    by_cases closes : (pairText key' value ++ body pairs).head? = some '"'
    · obtain ⟨key'', rfl⟩ := key_of_quote closes
      exact parse_cut_ne flatKey noQuote (separated_body pairs)
    · have equals : '=' ∈ s := equals_of_afterEquals h.place Place.noConfusion
      have more : pairText key' value ++ body pairs ≠ [] := by simp [pairText]
      exact absurd first (splitKv_opened equals more closes)
  · exact h.merges_unquoted flatKey noQuote flat none fun after quote => opens ⟨after, quote⟩

end Merges

/-- Pairs behind a text are read as they were written exactly if the text ends between two tokens, the
keys are legible, and no value has a quote in it. -/
theorem parse_append_iff {e : List Char} (closed : place e ≠ .quoted)
    (pairs : List (List Char × List Char)) :
    parse (e ++ (body pairs).tail) = parse e ++ pairs ↔
      pairs = [] ∨ place e = .between ∧ ∀ p ∈ pairs, Legible p.1 ∧ '"' ∉ p.2 := by
  cases pairs with
  | nil => simp [body]
  | cons q pairs =>
    have text : (body (q :: pairs)).tail = pairText q.1 q.2 ++ body pairs := rfl
    have spaced : parse (body (q :: pairs)) = parse (pairText q.1 q.2 ++ body pairs) :=
      parse_cons_space _
    obtain ⟨done, s, kind, parts⟩ := parse_split e closed
    have before := parts []
    rw [List.append_nil, List.append_nil] at before
    rw [text, parts, before, List.append_assoc, List.append_cancel_left_eq,
      or_iff_right (List.cons_ne_nil q pairs)]
    constructor
    · intro same
      have flat : ∀ p ∈ q :: pairs, Flat p.1 := fun p member =>
        flat_of_mem_parse _ p (same ▸ List.mem_append_right _ member)
      have none : ∀ p ∈ q :: pairs, '"' ∉ p.2 :=
        no_quote_of_parse (List.count_cons_of_ne (by decide)).symm same
      rcases kind with ⟨rfl, between⟩ | open_
      · refine ⟨between, fun p member => ⟨⟨flat p member, ?_⟩, none p member⟩⟩
        rw [List.nil_append, ← spaced, parse_body flat none] at same
        exact map_trimStart_eq_iff.mp same p member
      · rw [open_.alone] at same
        exact absurd same (open_.merges flat none)
    · rintro ⟨between, legible⟩
      rcases kind with ⟨rfl, -⟩ | open_
      · rw [List.nil_append, ← spaced, parse_body (fun p member => (legible p member).1.flat)
          fun p member => (legible p member).2]
        exact map_trimStart_eq_iff.mpr fun p member => (legible p member).1.trimmed
      · rcases open_.token with inside | afterEquals
        · rw [between] at inside
          cases inside
        · rw [between] at afterEquals
          cases afterEquals

end Kvs

namespace KvWriter
open Kvs

/-- The pairs, written onto a buffer by one writer. -/
def writtenOnto (out : String) (pairs : List (String × String)) : String :=
  (pairs.foldl (fun w p => w.value p.1 p.2) (new out)).out

theorem writtenOnto_toList (out : String) (pairs : List (String × String)) :
    (writtenOnto out pairs).toList = out.toList ++ (body (pairs.map chars)).tail := by
  cases pairs with
  | nil => exact (List.append_nil _).symm
  | cons p pairs =>
    rw [writtenOnto, List.foldl_cons, foldl_out (w := (new out).value p.1 p.2) rfl, value_out,
      List.map_cons, List.append_assoc, List.append_assoc]
    rfl

end KvWriter

open Kvs

theorem parseKv_toList (input : String) :
    (parseKv input).map chars = parse input.toList := by
  have same := (parseKv_eq_iff input (parseKv input)).mp rfl
  rw [← same, parse, String.length_toList]

/-- On a buffer whose quotes are closed, the pairs that are written are read behind those that were there
if and only if there are none, or the buffer ends between two tokens, no key is broken or cut off by the
parser, and no value has a quote in it. -/
theorem appended_reads_back (out : String) (closed : place out.toList ≠ .quoted)
    (pairs : List (String × String)) :
    parseKv (KvWriter.writtenOnto out pairs) = parseKv out ++ pairs ↔
      pairs = [] ∨ place out.toList = .between ∧
        ∀ p ∈ pairs, Legible p.1.toList ∧ '"' ∉ p.2.toList := by
  have length : (KvWriter.writtenOnto out pairs).length =
      (out.toList ++ (body (pairs.map chars)).tail).length := by
    rw [← String.length_toList, KvWriter.writtenOnto_toList]
  rw [parseKv_eq_iff, KvWriter.writtenOnto_toList, length, List.map_append, parseKv_toList]
  change parse _ = _ ↔ _
  rw [parse_append_iff closed, List.map_eq_nil_iff, List.forall_mem_map]
  rfl

theorem appended_behind_quoted :
    parseKv (KvWriter.writtenOnto "text=\"hello world\"" [("x", "1")]) =
        parseKv "text=\"hello world\"" ++ [("x", "1")] ↔
      [("x", "1")] = [] ∨ place "text=\"hello world\"".toList = .between ∧
        ∀ p ∈ [("x", "1")], Legible p.1.toList ∧ '"' ∉ p.2.toList :=
  appended_reads_back _ (by decide) _

/-- Nothing is put between the last token of the buffer and the first pair. -/
theorem appended_merges :
    place "k=1".toList ≠ .quoted ∧
      parseKv (KvWriter.writtenOnto "k=1" [("x", "2")]) = [("k", "1x=2")] ∧
      parseKv (KvWriter.writtenOnto "k=1" [("x", "2")]) ≠ parseKv "k=1" ++ [("x", "2")] :=
  ⟨by decide, by decide, by decide⟩

end HidConnect
