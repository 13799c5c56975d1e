import HidConnect.Control.Text
import HidConnect.Kernel.Daemon
import HidConnect.Kernel.UiRepr
import Mathlib.Data.List.DropRight

/-! The document that the daemon makes of a screen, and the limits that it has. -/
namespace HidConnect.Kernel

namespace UiReprHtml

def maxNodes : Nat := 64
def maxTextBytes : Nat := 64

end UiReprHtml

/-- `str::trim` -/
def trim (s : List Char) : List Char := (Kvs.trimStart s).rdropWhile Kvs.isWhitespace

/-- `str::contains` -/
def contains (s : List Char) (pattern : String) : Bool := decide (pattern.toList <:+: s)

def lineClass (trimmed : List Char) : UiReprClass :=
  if contains trimmed "Button" then .button
  else if contains trimmed "EditText" then .editText
  else if contains trimmed "ImageView" then .imageView
  else .textView

/-- The node of a line that is not skipped. -/
def lineNode (idx : Nat) (trimmed : List Char) : UiReprNode where
  id := some ("n" ++ toString idx)
  kind := lineClass trimmed
  text := some (String.ofList (trimmed.take 64))
  contentDesc := none
  interactive := contains trimmed "clickable=true" || contains trimmed "focusable=true" ||
    lineClass trimmed = .button || lineClass trimmed = .editText

def skips (trimmed : List Char) : Bool :=
  trimmed.isEmpty || "mCurrentFocus".toList.isPrefixOf trimmed

/-- The loop over the lines from number `idx` on. -/
def pushNodes : List (List Char) → Nat → List UiReprNode → List UiReprNode
  | [], _, nodes => nodes
  | line :: rest, idx, nodes =>
    if skips (trim line) then pushNodes rest (idx + 1) nodes
    else
      let nodes := nodes ++ [lineNode idx (trim line)]
      if nodes.length ≥ 64 then nodes else pushNodes rest (idx + 1) nodes

def buildUiReprHtml (focusedApp : Option String) (dumpsysText : String) : UiReprHtml where
  screen := focusedApp.getD ""
  screenId := none
  nodes := pushNodes ((lines dumpsysText.toList).take 64) 0 []
  truncated := false

/- What the limits ask for. -/

/-- The nodes of the lines that are not skipped, in the order of the lines. -/
def eligibleNodes (idx : Nat) : List (List Char) → List UiReprNode
  | [] => []
  | line :: rest =>
    if skips (trim line) then eligibleNodes (idx + 1) rest
    else lineNode idx (trim line) :: eligibleNodes (idx + 1) rest

def UiReprNode.Short (node : UiReprNode) : Prop :=
  ∀ text ∈ node.text, (asBytes text).length ≤ UiReprHtml.maxTextBytes

/-- The document of a text keeps the limits, and it says so where something is left out. -/
structure KeepsLimits (dumpsysText : String) (doc : UiReprHtml) : Prop where
  few : doc.nodes.length ≤ UiReprHtml.maxNodes
  short : ∀ node ∈ doc.nodes, node.Short
  ordered : doc.nodes <+: eligibleNodes 0 (lines dumpsysText.toList)
  flagged : doc.truncated = true ↔
    doc.nodes.length < (eligibleNodes 0 (lines dumpsysText.toList)).length

/-- The line has at most 64 bytes, or it starts with 64 characters of one byte. -/
def ShortLine (trimmed : List Char) : Prop :=
  (Utf8.bytes trimmed).length ≤ 64 ∨ ∀ c ∈ trimmed.take 64, c.utf8Size = 1

/-- Every line behind the 64th is skipped, and those before it that are not are short. -/
structure FitsLimits (dumpsysText : String) : Prop where
  rest : ∀ line ∈ (lines dumpsysText.toList).drop 64, skips (trim line)
  short : ∀ line ∈ (lines dumpsysText.toList).take 64, skips (trim line) ∨ ShortLine (trim line)

/-- There are no more nodes than lines, so the loop never stops early. -/
theorem pushNodes_eq (rest : List (List Char)) {idx : Nat} {nodes : List UiReprNode}
    (room : nodes.length + rest.length ≤ 64) :
    pushNodes rest idx nodes = nodes ++ eligibleNodes idx rest := by
  induction rest generalizing idx nodes with
  | nil => simp [pushNodes, eligibleNodes]
  | cons line rest ih =>
    rw [List.length_cons] at room
    rw [pushNodes, eligibleNodes]
    cases skips (trim line) with
    | true => exact ih (by omega)
    | false =>
      have pushed : (nodes ++ [lineNode idx (trim line)]).length = nodes.length + 1 := by simp
      have more : pushNodes rest (idx + 1) (nodes ++ [lineNode idx (trim line)]) =
          nodes ++ lineNode idx (trim line) :: eligibleNodes (idx + 1) rest := by
        rw [ih (by omega), List.append_assoc, List.singleton_append]
      by_cases full : nodes.length + 1 ≥ 64
      · obtain rfl : rest = [] := List.eq_nil_of_length_eq_zero (by omega)
        simp only [pushed, if_pos full]
        rfl
      · simp only [pushed, if_neg full]
        exact more

theorem eligibleNodes_append (idx : Nat) (front rest : List (List Char)) :
    eligibleNodes idx (front ++ rest) =
      eligibleNodes idx front ++ eligibleNodes (idx + front.length) rest := by
  induction front generalizing idx with
  | nil => rfl
  | cons line front ih =>
    have next : idx + 1 + front.length = idx + (line :: front).length := by
      rw [List.length_cons]
      omega
    rw [List.cons_append, eligibleNodes, eligibleNodes, ih, next]
    split <;> rfl

theorem length_eligibleNodes_le (idx : Nat) (ls : List (List Char)) :
    (eligibleNodes idx ls).length ≤ ls.length := by
  induction ls generalizing idx with
  | nil => exact Nat.le_refl 0
  | cons line ls ih =>
    have most := ih (idx + 1)
    rw [eligibleNodes, List.length_cons]
    split
    · omega
    · rw [List.length_cons]
      omega

theorem eligibleNodes_eq_nil_iff (idx : Nat) (ls : List (List Char)) :
    eligibleNodes idx ls = [] ↔ ∀ line ∈ ls, skips (trim line) := by
  induction ls generalizing idx with
  | nil => simp [eligibleNodes]
  | cons line ls ih =>
    rw [eligibleNodes, List.forall_mem_cons]
    cases skips (trim line) <;> simp [ih]

theorem short_lineNode_iff (idx : Nat) (trimmed : List Char) :
    (lineNode idx trimmed).Short ↔ ShortLine trimmed := by
  have clipped : (lineNode idx trimmed).Short ↔ (Utf8.bytes (trimmed.take 64)).length ≤ 64 := by
    simp [UiReprNode.Short, lineNode, asBytes_ofList, UiReprHtml.maxTextBytes]
  rw [clipped, Utf8.length_bytes_take_le_iff, ShortLine]

theorem short_iff (idx : Nat) (ls : List (List Char)) :
    (∀ node ∈ eligibleNodes idx ls, node.Short) ↔
      ∀ line ∈ ls, skips (trim line) ∨ ShortLine (trim line) := by
  induction ls generalizing idx with
  | nil => simp [eligibleNodes]
  | cons line ls ih =>
    rw [eligibleNodes, List.forall_mem_cons, ← ih (idx + 1)]
    cases skips (trim line) with
    | true => simp
    | false => simp [short_lineNode_iff]

/-- The document of a screen keeps its limits exactly if the lines of the screen leave it nothing to
clip. -/
theorem screen_limits_iff (focusedApp : Option String) (dumpsysText : String) :
    KeepsLimits dumpsysText (buildUiReprHtml focusedApp dumpsysText) ↔ FitsLimits dumpsysText := by
  generalize shown : lines dumpsysText.toList = ls
  have front : (ls.take 64).length ≤ 64 := List.length_take_le _ _
  have nodes : (buildUiReprHtml focusedApp dumpsysText).nodes = eligibleNodes 0 (ls.take 64) := by
    rw [buildUiReprHtml, shown, pushNodes_eq _ (by rwa [List.length_nil, Nat.zero_add])]
    rfl
  have split : eligibleNodes 0 ls =
      eligibleNodes 0 (ls.take 64) ++ eligibleNodes (0 + (ls.take 64).length) (ls.drop 64) := by
    rw [← eligibleNodes_append, List.take_append_drop]
  have left : (eligibleNodes 0 (ls.take 64)).length < (eligibleNodes 0 ls).length ↔
      ¬∀ line ∈ ls.drop 64, skips (trim line) := by
    rw [← eligibleNodes_eq_nil_iff (0 + (ls.take 64).length), split, List.length_append,
      Nat.lt_add_right_iff_pos, List.length_pos_iff]
  have truncated : (buildUiReprHtml focusedApp dumpsysText).truncated = false := rfl
  constructor
  · rintro ⟨-, short, -, flagged⟩
    rw [nodes] at short flagged
    rw [truncated, shown, left] at flagged
    refine ⟨?_, ?_⟩
    · rw [shown]
      by_contra some_
      cases flagged.mpr some_
    · rw [shown]
      exact (short_iff 0 _).mp short
  · rintro ⟨rest, short⟩
    rw [shown] at rest short
    refine ⟨?_, ?_, ?_, ?_⟩
    · rw [nodes]
      exact Nat.le_trans (length_eligibleNodes_le 0 _) front
    · rw [nodes]
      exact (short_iff 0 _).mpr short
    · rw [nodes, shown, split]
      exact List.prefix_append _ _
    · rw [nodes, truncated, shown, left]
      exact iff_of_false Bool.false_ne_true (not_not.mpr rest)

def accented : String := String.ofList (List.replicate 64 'é')

def overfull : String := String.ofList (List.replicate 65 ['a', '\n']).flatten

theorem limits_are_exceeded : ¬KeepsLimits accented (buildUiReprHtml none accented) ∧
    ¬KeepsLimits overfull (buildUiReprHtml none overfull) := by
  constructor
  · rintro ⟨-, short, -, -⟩
    unfold UiReprNode.Short at short
    revert short
    decide +kernel
  · rintro ⟨-, -, -, flagged⟩
    have left : (buildUiReprHtml none overfull).nodes.length <
      (eligibleNodes 0 (lines overfull.toList)).length := by decide +kernel
    cases flagged.mpr left

end HidConnect.Kernel
