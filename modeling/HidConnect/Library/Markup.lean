import Mathlib.Data.List.Basic

/-! Markup of one level: an element of tags without content and of comments. Values are quoted, and
their entities keep them apart from the marks around them. -/
namespace Markup

/- Values. -/

def entity : Char → List Char
  | '&' => ['&', 'a', 'm', 'p', ';']
  | '<' => ['&', 'l', 't', ';']
  | '>' => ['&', 'g', 't', ';']
  | '"' => ['&', 'q', 'u', 'o', 't', ';']
  | c => [c]

def escape (s : List Char) : List Char := s.flatMap entity

def unescape : List Char → Option (List Char)
  | '&' :: 'a' :: 'm' :: 'p' :: ';' :: rest => (unescape rest).map ('&' :: ·)
  | '&' :: 'l' :: 't' :: ';' :: rest => (unescape rest).map ('<' :: ·)
  | '&' :: 'g' :: 't' :: ';' :: rest => (unescape rest).map ('>' :: ·)
  | '&' :: 'q' :: 'u' :: 'o' :: 't' :: ';' :: rest => (unescape rest).map ('"' :: ·)
  | c :: rest =>
    if c = '&' ∨ c = '<' ∨ c = '>' ∨ c = '"' then none else (unescape rest).map (c :: ·)
  | [] => some []

theorem unescape_entity (c : Char) (rest : List Char) :
    unescape (entity c ++ rest) = (unescape rest).map (c :: ·) := by
  unfold entity
  split
  case h_5 amp lt gt quot =>
    have plain : ¬(c = '&' ∨ c = '<' ∨ c = '>' ∨ c = '"') := by
      rintro (same | same | same | same)
      · exact amp same
      · exact lt same
      · exact gt same
      · exact quot same
    rw [List.singleton_append, unescape, if_neg plain]
    all_goals intro _ same
    all_goals exact absurd same amp
  all_goals rfl

theorem unescape_escape (s : List Char) : unescape (escape s) = some s := by
  induction s with
  | nil => rfl
  | cons c s ih =>
    rw [escape, List.flatMap_cons, unescape_entity]
    exact congrArg (Option.map (c :: ·)) ih

theorem quote_not_mem_escape (s : List Char) : (escape s).all (· != '"') := by
  apply List.all_eq_true.mpr
  intro c member
  apply bne_iff_ne.mpr
  rintro rfl
  obtain ⟨d, -, inside⟩ := List.mem_flatMap.mp member
  unfold entity at inside
  split at inside
  case h_5 amp lt gt quot => exact quot (List.mem_singleton.mp inside).symm
  all_goals simp at inside

/- Documents. -/

def isNameChar (c : Char) : Bool := c.isLower

/-- Names are written as they are. -/
structure Name where
  chars : List Char
  some : chars ≠ []
  plain : chars.all isNameChar

/-- A mark has no value. -/
structure Attribute where
  name : Name
  value : Option (List Char)

structure Tag where
  name : Name
  attributes : List Attribute

/-- A comment ends with its first dash. -/
structure Remark where
  chars : List Char
  plain : chars.all (· != '-')

inductive Item where
  | empty (tag : Tag)
  | comment (remark : Remark)

structure Element where
  tag : Tag
  items : List Item

def Attribute.render (a : Attribute) : List Char :=
  ' ' :: (a.name.chars ++
    match a.value with
    | none => []
    | some value => '=' :: '"' :: (escape value ++ ['"']))

def Tag.render (t : Tag) : List Char := '<' :: (t.name.chars ++ t.attributes.flatMap Attribute.render)

def commentStart : List Char := ['<', '!', '-', '-']
def commentEnd : List Char := ['-', '-', '>']

def Item.render : Item → List Char
  | empty t => t.render ++ ['/', '>']
  | comment r => commentStart ++ (r.chars ++ commentEnd)

def Element.closing (e : Element) : List Char := '<' :: '/' :: (e.tag.name.chars ++ ['>'])

def Element.render (e : Element) : List Char :=
  e.tag.render ++ '>' :: (e.items.flatMap Item.render ++ e.closing)

/- What a reader takes off the front of a text, and what it leaves. -/

abbrev Parser (α : Type) := List Char → Option (α × List Char)

def readName : Parser Name := fun cs =>
  if h : cs.takeWhile isNameChar ≠ [] then
    some (⟨cs.takeWhile isNameChar, h, List.all_takeWhile⟩, cs.dropWhile isNameChar)
  else none

/-- Up to the closing quote. -/
def readValue : Parser (List Char) := fun cs =>
  match cs.dropWhile (· != '"') with
  | _ :: rest => (unescape (cs.takeWhile (· != '"'))).map fun value => (value, rest)
  | [] => none

def readAttribute : Parser Attribute
  | ' ' :: cs =>
    match readName cs with
    | none => none
    | some (name, '=' :: '"' :: rest) =>
      (readValue rest).map fun (value, rest) => (⟨name, some value⟩, rest)
    | some (name, rest) => some (⟨name, none⟩, rest)
  | _ => none

/-- As often as the reader takes something, and at most so often. -/
def readMany {α : Type} (read : Parser α) : Nat → List Char → List α × List Char
  | 0, cs => ([], cs)
  | fuel + 1, cs =>
    match read cs with
    | none => ([], cs)
    | some (a, rest) =>
      let (as, rest) := readMany read fuel rest
      (a :: as, rest)

def readTag : Parser Tag
  | '<' :: cs =>
    (readName cs).map fun (name, rest) =>
      let (attributes, rest) := readMany readAttribute rest.length rest
      (⟨name, attributes⟩, rest)
  | _ => none

def readItem : Parser Item := fun cs =>
  match cs.dropPrefix? commentStart with
  | some cs =>
    (cs.dropWhile (· != '-')).dropPrefix? commentEnd |>.map fun rest =>
      (.comment ⟨cs.takeWhile (· != '-'), List.all_takeWhile⟩, rest)
  | none =>
    match readTag cs with
    | some (tag, '/' :: '>' :: rest) => some (.empty tag, rest)
    | _ => none

def readElement (cs : List Char) : Option Element :=
  match readTag cs with
  | some (tag, '>' :: rest) =>
    let (items, rest) := readMany readItem rest.length rest
    let e : Element := ⟨tag, items⟩
    if rest = e.closing then some e else none
  | _ => none

/- Reading back. -/

def StopsAt (p : Char → Bool) (rest : List Char) : Prop := ∀ c ∈ rest.head?, p c = false

theorem stopsAt_cons {p : Char → Bool} {c : Char} (other : p c = false) (rest : List Char) :
    StopsAt p (c :: rest) := by
  intro d first
  cases first
  exact other

theorem takeWhile_front {p : Char → Bool} {s rest : List Char} (all : s.all p)
    (stops : StopsAt p rest) : (s ++ rest).takeWhile p = s ∧ (s ++ rest).dropWhile p = rest := by
  have passes := List.all_eq_true.mp all
  rw [List.takeWhile_append_of_pos passes, List.dropWhile_append_of_pos passes]
  cases rest with
  | nil => simp
  | cons c rest => simp [stops c rfl]

theorem readName_front (name : Name) {rest : List Char} (stops : StopsAt isNameChar rest) :
    readName (name.chars ++ rest) = some (name, rest) := by
  obtain ⟨taken, left⟩ := takeWhile_front name.plain stops
  have some_ := name.some
  simp [readName, taken, left, some_]

theorem readValue_front (s rest : List Char) :
    readValue (escape s ++ '"' :: rest) = some (s, rest) := by
  have stops : StopsAt (· != '"') ('"' :: rest) := stopsAt_cons rfl rest
  obtain ⟨taken, left⟩ := takeWhile_front (quote_not_mem_escape s) stops
  simp [readValue, taken, left, unescape_escape]

def Follows (rest : List Char) : Prop := StopsAt (fun c => isNameChar c || c == '=') rest

theorem Follows.stops {rest : List Char} (h : Follows rest) : StopsAt isNameChar rest := by
  intro c first
  have neither := h c first
  simp only [Bool.or_eq_false_iff] at neither
  exact neither.1

theorem readAttribute_front (a : Attribute) {rest : List Char} (follows : Follows rest) :
    readAttribute (a.render ++ rest) = some (a, rest) := by
  obtain ⟨name, value⟩ := a
  cases value with
  | none =>
    have read := readName_front name follows.stops
    have marks (more : List Char) : rest ≠ '=' :: '"' :: more := by
      rintro rfl
      exact absurd (follows '=' rfl) (by decide)
    simp only [Attribute.render, List.append_nil, List.cons_append, readAttribute, read]
  | some value =>
    have stops : StopsAt isNameChar ('=' :: '"' :: (escape value ++ '"' :: rest)) :=
      stopsAt_cons (by decide) _
    have read := readName_front name stops
    simp [Attribute.render, readAttribute, read, readValue_front]

theorem readMany_front {α : Type} {read : Parser α} {render : α → List Char}
    (Stops : List Char → Prop)
    (reads : ∀ a rest, Stops rest → read (render a ++ rest) = some (a, rest))
    (starts : ∀ a rest, Stops (render a ++ rest)) {rest : List Char} (stops : Stops rest)
    (ends : read rest = none) (as : List α) {fuel : Nat} (enough : as.length ≤ fuel) :
    readMany read fuel (as.flatMap render ++ rest) = (as, rest) := by
  induction as generalizing fuel with
  | nil => cases fuel <;> simp [readMany, ends]
  | cons a as ih =>
    obtain ⟨fuel, rfl⟩ := Nat.exists_eq_succ_of_ne_zero (show fuel ≠ 0 by simp at enough; omega)
    have next : Stops (as.flatMap render ++ rest) := by
      cases as with
      | nil => exact stops
      | cons b as =>
        rw [List.flatMap_cons, List.append_assoc]
        exact starts b _
    have more := ih (Nat.le_of_succ_le_succ enough)
    simp [readMany, reads a _ next, more]

theorem length_le_flatMap {α : Type} {render : α → List Char} (some_ : ∀ a, render a ≠ [])
    (as : List α) (rest : List Char) : as.length ≤ (as.flatMap render ++ rest).length := by
  induction as with
  | nil => exact Nat.zero_le _
  | cons a as ih =>
    have one := List.length_pos_of_ne_nil (some_ a)
    simp only [List.length_cons, List.flatMap_cons, List.length_append] at ih ⊢
    omega

theorem Attribute.follows (a : Attribute) (rest : List Char) : Follows (a.render ++ rest) :=
  stopsAt_cons (by decide) _

theorem Attribute.render_ne_nil (a : Attribute) : a.render ≠ [] := List.cons_ne_nil _ _

theorem readTag_front (t : Tag) {rest : List Char} (follows : Follows rest)
    (ends : readAttribute rest = none) : readTag (t.render ++ rest) = some (t, rest) := by
  have more : Follows (t.attributes.flatMap Attribute.render ++ rest) := by
    cases t.attributes with
    | nil => exact follows
    | cons a as =>
      rw [List.flatMap_cons, List.append_assoc]
      exact a.follows _
  have enough := length_le_flatMap Attribute.render_ne_nil t.attributes rest
  have attributes := readMany_front Follows (fun a _ follows => readAttribute_front a follows)
    Attribute.follows follows ends t.attributes enough
  simp only [Tag.render, List.cons_append, List.append_assoc, readTag,
    readName_front t.name more.stops, Option.map_some, attributes]

theorem readTag_other {cs : List Char} (other : StopsAt isNameChar cs) : readTag ('<' :: cs) = none := by
  have none_ : cs.takeWhile isNameChar = [] := by
    cases cs with
    | nil => rfl
    | cons c cs => simp [other c rfl]
  simp [readTag, readName, none_]

theorem dropPrefix?_append (front rest : List Char) : (front ++ rest).dropPrefix? front = some rest :=
  List.dropPrefix?_eq_some_iff.mpr ⟨front, rfl, BEq.rfl⟩

theorem Tag.dropPrefix?_render (t : Tag) (rest : List Char) :
    (t.render ++ rest).dropPrefix? commentStart = none := by
  obtain ⟨⟨chars, some_, plain⟩, attributes⟩ := t
  cases chars with
  | nil => contradiction
  | cons c cs =>
    have letter : isNameChar c := by simpa using (List.all_eq_true.mp plain) c List.mem_cons_self
    have other : c ≠ '!' := by
      rintro rfl
      exact absurd letter (by decide)
    simp [Tag.render, commentStart, List.dropPrefix?, other]

theorem readItem_front (item : Item) (rest : List Char) :
    readItem (item.render ++ rest) = some (item, rest) := by
  cases item with
  | empty t =>
    have follows : Follows ('/' :: '>' :: rest) := stopsAt_cons (by decide) _
    have read := readTag_front t follows rfl
    simp [Item.render, readItem, t.dropPrefix?_render, read]
  | comment r =>
    have stops : StopsAt (· != '-') (commentEnd ++ rest) := stopsAt_cons rfl _
    obtain ⟨taken, left⟩ := takeWhile_front r.plain stops
    simp [Item.render, readItem, dropPrefix?_append, taken, left]

theorem Item.render_ne_nil (item : Item) : item.render ≠ [] := by
  cases item with
  | empty t => exact List.cons_ne_nil _ _
  | comment r => exact List.cons_ne_nil _ _

theorem readItem_closing (e : Element) : readItem e.closing = none := by
  have start : e.closing.dropPrefix? commentStart = none := rfl
  have tag : readTag e.closing = none := readTag_other (stopsAt_cons (by decide) _)
  simp [readItem, start, tag]

/-- Whatever the values are, the element of a text is the one that was written. -/
theorem readElement_render (e : Element) : readElement e.render = some e := by
  have follows : Follows ('>' :: (e.items.flatMap Item.render ++ e.closing)) :=
    stopsAt_cons (by decide) _
  have enough := length_le_flatMap Item.render_ne_nil e.items e.closing
  have items := readMany_front (fun _ => True) (fun item rest _ => readItem_front item rest)
    (fun _ _ => trivial) trivial (readItem_closing e) e.items enough
  rw [readElement, Element.render, readTag_front e.tag follows rfl]
  simp only [items, if_true]

end Markup
