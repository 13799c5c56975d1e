import HidConnect.Control.Text
import HidConnect.Library.Lossy

/-! The error frames of the text protocol: a prefix, the tag of an error code, and a detail in free
form behind a colon. -/
namespace HidConnect.Protocol

def errPrefix : List UInt8 := asBytes "ERR:"

def colon : UInt8 := 0x3A

inductive ErrorCode where
  | ok | unknownCmd | badArg | timeout | notFound | ambiguous | internal | offScreen | secureWindow
  deriving DecidableEq

namespace ErrorCode

def asTag : ErrorCode → String
  | ok => "OK"
  | unknownCmd => "UNKNOWN_CMD"
  | badArg => "BAD_ARG"
  | timeout => "TIMEOUT"
  | notFound => "NOT_FOUND"
  | ambiguous => "AMBIGUOUS"
  | internal => "INTERNAL"
  | offScreen => "OFF_SCREEN"
  | secureWindow => "SECURE_WINDOW"

def fromTag (tag : List UInt8) : Option ErrorCode :=
  if tag = asBytes "OK" then some ok
  else if tag = asBytes "UNKNOWN_CMD" then some unknownCmd
  else if tag = asBytes "BAD_ARG" then some badArg
  else if tag = asBytes "TIMEOUT" then some timeout
  else if tag = asBytes "NOT_FOUND" then some notFound
  else if tag = asBytes "AMBIGUOUS" then some ambiguous
  else if tag = asBytes "INTERNAL" then some internal
  else if tag = asBytes "OFF_SCREEN" then some offScreen
  else if tag = asBytes "SECURE_WINDOW" then some secureWindow
  else none

theorem fromTag_asTag (code : ErrorCode) : fromTag (asBytes code.asTag) = some code := by
  cases code <;> decide

theorem asTag_of_fromTag {tag : List UInt8} {code : ErrorCode} (h : fromTag tag = some code) :
    tag = asBytes code.asTag := by
  unfold fromTag at h
  grind [asTag]

theorem colon_not_mem_asTag (code : ErrorCode) : colon ∉ asBytes code.asTag := by
  cases code <;> decide

end ErrorCode

structure ErrorFrame where
  code : ErrorCode
  detail : String
  deriving DecidableEq

inductive ProtocolError where
  | unknownCode (name : String)
  deriving DecidableEq

namespace ErrorFrame

/-- The tag is everything up to the next colon, and the detail what stands behind it. -/
def split (rest : List UInt8) : List UInt8 × List UInt8 :=
  match rest.idxOf? colon with
  | some idx => (rest.take idx, rest.drop (idx + 1))
  | none => (rest, [])

def parse (payload : List UInt8) : Except ProtocolError (Option ErrorFrame) :=
  match payload.dropPrefix? errPrefix with
  | none => .ok none
  | some rest =>
    match ErrorCode.fromTag (split rest).1 with
    | none => .error (.unknownCode (String.ofList (Utf8.fromUtf8Lossy (split rest).1)))
    | some code =>
      .ok (some { code, detail := String.ofList (Utf8.fromUtf8Lossy (split rest).2) })

def encode (f : ErrorFrame) : List UInt8 :=
  errPrefix ++ asBytes f.code.asTag ++
    if f.detail.isEmpty then [] else colon :: asBytes f.detail

theorem split_tag {tag : List UInt8} (free : colon ∉ tag) : split tag = (tag, []) := by
  have none := List.idxOf?_eq_none_iff.mpr free
  rw [split, none]

theorem split_detail {tag : List UInt8} (free : colon ∉ tag) (detail : List UInt8) :
    split (tag ++ colon :: detail) = (tag, detail) := by
  have found : (tag ++ colon :: detail).idxOf? colon = some tag.length := by
    induction tag with
    | nil => simp [List.idxOf?_cons]
    | cons b tag ih =>
      rw [List.mem_cons, not_or] at free
      simp [List.idxOf?_cons, Ne.symm free.1, ih free.2]
  simp [split, found]

/-- Whatever follows the prefix, its tag has no colon, and what is left of it is the tag alone or
the detail behind one. -/
theorem split_cases (rest : List UInt8) :
    ∃ tag detail, colon ∉ tag ∧ split rest = (tag, detail) ∧
      (rest = tag ∧ detail = [] ∨ rest = tag ++ colon :: detail) := by
  by_cases some_ : colon ∈ rest
  · obtain ⟨tag, detail, rfl, free⟩ := List.eq_append_cons_of_mem some_
    exact ⟨tag, detail, free, split_detail free detail, .inr rfl⟩
  · exact ⟨rest, [], some_, split_tag some_, .inl ⟨rfl, rfl⟩⟩

/-- The bytes up to the next colon, if the payload is long enough to have the prefix. -/
def tagOf (payload : List UInt8) : List UInt8 :=
  (payload.drop errPrefix.length).takeWhile (· != colon)

theorem split_fst (rest : List UInt8) : (split rest).1 = tagOf (errPrefix ++ rest) := by
  obtain ⟨tag, detail, free, cut, shape⟩ := split_cases rest
  have passes : ∀ b ∈ tag, (b != colon) = true := by
    intro b member
    exact bne_iff_ne.mpr fun same => free (same ▸ member)
  rw [cut, tagOf, List.drop_left]
  rcases shape with ⟨rfl, rfl⟩ | rfl
  · have whole : (rest ++ []).takeWhile (· != colon) = rest ++ [] :=
      List.takeWhile_append_of_pos passes
    simpa using whole.symm
  · simp [List.takeWhile_append_of_pos passes]

theorem parse_other {payload : List UInt8} (other : ¬errPrefix <+: payload) :
    parse payload = .ok none := by
  have none : payload.dropPrefix? errPrefix = none := by
    apply Option.eq_none_iff_forall_ne_some.mpr
    intro rest found
    obtain ⟨front, rfl, same⟩ := List.dropPrefix?_eq_some_iff.mp found
    exact other ⟨rest, by rw [eq_of_beq same]⟩
  rw [parse, none]

theorem parse_prefixed (rest : List UInt8) : parse (errPrefix ++ rest) =
    match ErrorCode.fromTag (split rest).1 with
    | none => .error (.unknownCode (String.ofList (Utf8.fromUtf8Lossy (split rest).1)))
    | some code =>
      .ok (some { code, detail := String.ofList (Utf8.fromUtf8Lossy (split rest).2) }) := by
  have found : (errPrefix ++ rest).dropPrefix? errPrefix = some rest :=
    List.dropPrefix?_eq_some_iff.mpr ⟨errPrefix, rfl, BEq.rfl⟩
  rw [parse, found]

theorem parse_unknown {rest : List UInt8} (unknown : ErrorCode.fromTag (split rest).1 = none) :
    parse (errPrefix ++ rest) =
      .error (.unknownCode (String.ofList (Utf8.fromUtf8Lossy (split rest).1))) := by
  rw [parse_prefixed, unknown]

theorem parse_known {rest : List UInt8} {code : ErrorCode}
    (known : ErrorCode.fromTag (split rest).1 = some code) :
    parse (errPrefix ++ rest) =
      .ok (some { code, detail := String.ofList (Utf8.fromUtf8Lossy (split rest).2) }) := by
  rw [parse_prefixed, known]

theorem fromUtf8Lossy_asBytes (s : String) : String.ofList (Utf8.fromUtf8Lossy (asBytes s)) = s := by
  rw [asBytes_eq, Utf8.fromUtf8Lossy_bytes, String.ofList_toList]

@[simp] theorem encode_nil (code : ErrorCode) :
    encode ⟨code, ""⟩ = errPrefix ++ asBytes code.asTag := by
  simp [encode]

theorem encode_detail (code : ErrorCode) {detail : String} (some_ : detail ≠ "") :
    encode ⟨code, detail⟩ = errPrefix ++ (asBytes code.asTag ++ colon :: asBytes detail) := by
  simp [encode, some_]

theorem parse_encode (f : ErrorFrame) : parse f.encode = .ok (some f) := by
  obtain ⟨code, detail⟩ := f
  have free := code.colon_not_mem_asTag
  by_cases empty : detail = ""
  · have cut := split_tag free
    rw [empty, encode_nil, parse_known (by rw [cut]; exact code.fromTag_asTag), cut]
    simp [Utf8.fromUtf8Lossy]
  · have cut := split_detail free (asBytes detail)
    rw [encode_detail code empty, parse_known (by rw [cut]; exact code.fromTag_asTag), cut,
      fromUtf8Lossy_asBytes]

theorem encode_parse {rest : List UInt8} {code : ErrorCode} {text : String}
    (valid : errPrefix ++ rest = asBytes text)
    (known : ErrorCode.fromTag (split rest).1 = some code) :
    ∃ f, parse (errPrefix ++ rest) = .ok (some f) ∧
      (errPrefix ++ rest = f.encode ∨ errPrefix ++ rest = f.encode ++ [colon]) := by
  refine ⟨_, parse_known known, ?_⟩
  obtain ⟨tag, detail, free, cut, shape⟩ := split_cases rest
  rw [cut] at known ⊢
  obtain rfl : tag = asBytes code.asTag := ErrorCode.asTag_of_fromTag known
  rcases shape with ⟨rfl, rfl⟩ | rfl
  · left
    simp [Utf8.fromUtf8Lossy]
  · obtain ⟨ds, rfl⟩ : ∃ ds, detail = Utf8.bytes ds := by
      apply Utf8.behind (c := ':')
      rw [← asBytes_eq text, ← valid, ← List.append_assoc]
      rfl
    rw [Utf8.fromUtf8Lossy_bytes]
    by_cases empty : ds = []
    · right
      simp [empty, Utf8.bytes]
    · left
      have some_ : String.ofList ds ≠ "" := by simpa using empty
      rw [encode_detail code some_, asBytes_ofList]

def KnownTag (tag : List UInt8) : Prop := ∃ code : ErrorCode, tag = asBytes code.asTag

theorem known_iff {rest : List UInt8} :
    KnownTag (tagOf (errPrefix ++ rest)) ↔ ∃ code, ErrorCode.fromTag (split rest).1 = some code := by
  rw [← split_fst]
  constructor
  · rintro ⟨code, same⟩
    exact ⟨code, same ▸ code.fromTag_asTag⟩
  · rintro ⟨code, known⟩
    exact ⟨code, ErrorCode.asTag_of_fromTag known⟩

/-- Error frames come back from what they are encoded as. A payload without the prefix is no error
frame, one with a tag of no error code is refused, and any other one is a frame whose encoding the
payload is, up to a colon at its end, where it is text. -/
theorem error_frame_round_trip :
    (∀ f : ErrorFrame, parse f.encode = .ok (some f)) ∧ ∀ payload : List UInt8,
      (parse payload = .ok none ↔ ¬errPrefix <+: payload) ∧
      ((∃ e, parse payload = .error e) ↔ errPrefix <+: payload ∧ ¬KnownTag (tagOf payload)) ∧
      (errPrefix <+: payload ∧ KnownTag (tagOf payload) ↔ ∃ g, parse payload = .ok (some g)) ∧
      ∀ g, parse payload = .ok (some g) → ∀ text, payload = asBytes text →
        payload = g.encode ∨ payload = g.encode ++ [colon] := by
  refine ⟨parse_encode, fun payload => ?_⟩
  by_cases starts : errPrefix <+: payload
  · obtain ⟨rest, rfl⟩ := starts
    cases known : ErrorCode.fromTag (split rest).1 with
    | none =>
      have unknown : ¬KnownTag (tagOf (errPrefix ++ rest)) := by
        simp [known_iff, known]
      simp [parse_unknown known, unknown]
    | some code =>
      have tag : KnownTag (tagOf (errPrefix ++ rest)) := known_iff.mpr ⟨code, known⟩
      refine ⟨by simp [parse_known known], by simp [parse_known known, tag],
        by simp [parse_known known, tag], ?_⟩
      intro g parsed text valid
      obtain ⟨f, found, same⟩ := encode_parse valid known
      rw [parsed] at found
      cases found
      exact same
  · simp [parse_other starts, starts]

end ErrorFrame
end HidConnect.Protocol
