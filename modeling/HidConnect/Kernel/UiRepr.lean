import HidConnect.Kernel.Observation
import HidConnect.Library.Markup

/-! The screen as it is shown to a model: nodes as tags of one element, with the strings of the device
in their attributes. -/
namespace HidConnect.Kernel

inductive UiReprClass where
  | button | editText | textView | imageView | switch | checkBox | spinner | scrollView
  | linearLayout | relativeLayout | webView | recyclerView
  | other (name : String)
  deriving DecidableEq

structure UiReprNode where
  id : Option String
  kind : UiReprClass
  text : Option String
  contentDesc : Option String
  interactive : Bool
  deriving DecidableEq

structure UiReprHtml where
  screen : String
  screenId : Option ScreenId
  nodes : List UiReprNode
  truncated : Bool
  deriving DecidableEq

def escapeHtml (s : String) : String :=
  String.ofList (s.toList.flatMap fun
    | '&' => "&amp;".toList
    | '<' => "&lt;".toList
    | '>' => "&gt;".toList
    | '"' => "&quot;".toList
    | c => [c])

def nodeClassName : UiReprClass → String
  | .button => "button"
  | .editText => "edit"
  | .textView => "text"
  | .imageView => "img"
  | .switch => "switch"
  | .checkBox => "checkbox"
  | .spinner => "spinner"
  | .scrollView => "scroll"
  | .linearLayout => "linearlayout"
  | .relativeLayout => "relativelayout"
  | .webView => "webview"
  | .recyclerView => "recycler"
  | .other _ => "node"

/-- What an attribute pushes if it is there. -/
def pushAttribute (opening : String) : Option String → String
  | some value => opening ++ escapeHtml value ++ "\""
  | none => ""

/-- The name of a class that has no variant of its own. -/
def UiReprClass.otherName : UiReprClass → Option String
  | other name => some name
  | _ => none

def UiReprNode.toHtml (node : UiReprNode) : String :=
  "<" ++ nodeClassName node.kind ++ pushAttribute " id=\"" node.id ++
    pushAttribute " class=\"" node.kind.otherName ++ pushAttribute " text=\"" node.text ++
    pushAttribute " desc=\"" node.contentDesc ++ (if node.interactive then " interactive" else "") ++
    "/>"

def UiReprHtml.toHtml (doc : UiReprHtml) : String :=
  "<screen pkg=\"" ++ escapeHtml doc.screen ++ "\">" ++ String.join (doc.nodes.map UiReprNode.toHtml) ++
    (if doc.truncated then "<!-- truncated -->" else "") ++ "</screen>"

/- The document as an element. -/

def pkgName : Markup.Name := ⟨"pkg".toList, by decide, by decide⟩
def idName : Markup.Name := ⟨"id".toList, by decide, by decide⟩
def className : Markup.Name := ⟨"class".toList, by decide, by decide⟩
def textName : Markup.Name := ⟨"text".toList, by decide, by decide⟩
def descName : Markup.Name := ⟨"desc".toList, by decide, by decide⟩
def interactiveName : Markup.Name := ⟨"interactive".toList, by decide, by decide⟩
def screenName : Markup.Name := ⟨"screen".toList, by decide, by decide⟩

def UiReprClass.tagName (kind : UiReprClass) : Markup.Name :=
  ⟨(nodeClassName kind).toList, by cases kind <;> simp [nodeClassName],
    by cases kind <;> (rw [nodeClassName]; decide)⟩

def given (name : Markup.Name) : Option String → List Markup.Attribute
  | some value => [⟨name, some value.toList⟩]
  | none => []

def UiReprNode.tag (node : UiReprNode) : Markup.Tag where
  name := node.kind.tagName
  attributes := given idName node.id ++ (given className node.kind.otherName ++
    (given textName node.text ++ (given descName node.contentDesc ++
      if node.interactive then [⟨interactiveName, none⟩] else [])))

def truncatedRemark : Markup.Remark := ⟨" truncated ".toList, by decide⟩

def UiReprHtml.element (doc : UiReprHtml) : Markup.Element where
  tag := ⟨screenName, given pkgName (some doc.screen)⟩
  items := doc.nodes.map (fun node => .empty node.tag) ++
    if doc.truncated then [.comment truncatedRemark] else []

theorem toList_escapeHtml (s : String) : (escapeHtml s).toList = Markup.escape s.toList := by
  rw [escapeHtml, String.toList_ofList]
  rfl

theorem toList_pushAttribute {opening : String} {name : Markup.Name}
    (opens : opening.toList = ' ' :: (name.chars ++ ['=', '"'])) (value : Option String) :
    (pushAttribute opening value).toList = (given name value).flatMap Markup.Attribute.render := by
  cases value with
  | none => rfl
  | some value =>
    simp [pushAttribute, given, Markup.Attribute.render, opens, toList_escapeHtml]

theorem UiReprNode.toList_toHtml (node : UiReprNode) :
    node.toHtml.toList = (Markup.Item.empty node.tag).render := by
  have id : (pushAttribute " id=\"" node.id).toList =
      (given idName node.id).flatMap Markup.Attribute.render := toList_pushAttribute rfl _
  have cls : (pushAttribute " class=\"" node.kind.otherName).toList =
      (given className node.kind.otherName).flatMap Markup.Attribute.render :=
    toList_pushAttribute rfl _
  have text : (pushAttribute " text=\"" node.text).toList =
      (given textName node.text).flatMap Markup.Attribute.render := toList_pushAttribute rfl _
  have desc : (pushAttribute " desc=\"" node.contentDesc).toList =
      (given descName node.contentDesc).flatMap Markup.Attribute.render := toList_pushAttribute rfl _
  have mark : (if node.interactive then " interactive" else "").toList =
      (if node.interactive then [(⟨interactiveName, none⟩ : Markup.Attribute)] else []).flatMap
        Markup.Attribute.render := by
    cases node.interactive <;> rfl
  have opened : "<".toList = ['<'] := rfl
  have closed : "/>".toList = ['/', '>'] := rfl
  simp only [toHtml, String.toList_append, opened, closed, id, cls, text, desc, mark,
    Markup.Item.render, Markup.Tag.render, tag, UiReprClass.tagName, List.flatMap_append,
    List.cons_append, List.nil_append, List.append_assoc]

theorem UiReprHtml.toList_toHtml (doc : UiReprHtml) : doc.toHtml.toList = doc.element.render := by
  have screen := toList_escapeHtml doc.screen
  have nodes : (String.join (doc.nodes.map UiReprNode.toHtml)).toList =
      (doc.nodes.map fun node => Markup.Item.empty node.tag).flatMap Markup.Item.render := by
    rw [String.toList_join, List.flatMap_map, List.flatMap_map]
    exact List.flatMap_congr fun node _ => node.toList_toHtml
  have remark : (if doc.truncated then "<!-- truncated -->" else "").toList =
      (if doc.truncated then [Markup.Item.comment truncatedRemark] else []).flatMap
        Markup.Item.render := by
    cases doc.truncated <;> rfl
  have opened : "<screen pkg=\"".toList =
      '<' :: (screenName.chars ++ ' ' :: (pkgName.chars ++ ['=', '"'])) := rfl
  have middle : "\">".toList = ['"', '>'] := rfl
  have closed : "</screen>".toList = '<' :: '/' :: (screenName.chars ++ ['>']) := rfl
  unfold toHtml
  -- no literal is compared with what stands between the literals
  generalize escapeHtml doc.screen = shown at screen ⊢
  generalize String.join (doc.nodes.map UiReprNode.toHtml) = body at nodes ⊢
  generalize (if doc.truncated then "<!-- truncated -->" else "") = mark at remark ⊢
  simp only [String.toList_append, opened, middle, closed, screen, nodes, remark, element,
    Markup.Element.render, Markup.Tag.render, Markup.Element.closing, given, List.flatMap_cons,
    List.flatMap_nil, Markup.Attribute.render, List.flatMap_append, List.cons_append,
    List.nil_append, List.append_nil, List.append_assoc]

/- The reference parser: the element of a text, and what its tags say. -/

def valueOf (attributes : List Markup.Attribute) (name : Markup.Name) : Option String :=
  (attributes.find? fun a => a.name.chars = name.chars).bind fun a => a.value.map String.ofList

def namedClasses : List UiReprClass :=
  [.button, .editText, .textView, .imageView, .switch, .checkBox, .spinner, .scrollView,
    .linearLayout, .relativeLayout, .webView, .recyclerView]

/-- A tag of no widget has its class in an attribute. -/
def readClass (tag : Markup.Tag) : Option UiReprClass :=
  if String.ofList tag.name.chars = "node" then (valueOf tag.attributes className).map .other
  else namedClasses.find? fun kind => nodeClassName kind = String.ofList tag.name.chars

def readNode : Markup.Item → Option UiReprNode
  | .empty tag => do
    let kind ← readClass tag
    some {
      id := valueOf tag.attributes idName
      kind
      text := valueOf tag.attributes textName
      contentDesc := valueOf tag.attributes descName
      interactive := tag.attributes.any fun a => a.name.chars = interactiveName.chars }
  | .comment _ => none

def isTruncatedRemark : Markup.Item → Bool
  | .comment remark => remark.chars = truncatedRemark.chars
  | .empty _ => false

def readDocument (e : Markup.Element) : Option UiReprHtml := do
  let screen ← valueOf e.tag.attributes pkgName
  let truncated := e.items.getLast?.any isTruncatedRemark
  let nodes ← (if truncated then e.items.dropLast else e.items).mapM readNode
  some { screen, screenId := none, nodes, truncated }

def parseHtml (html : String) : Option UiReprHtml :=
  (Markup.readElement html.toList).bind readDocument

@[simp] theorem valueOf_given (name other : Markup.Name) (value : Option String)
    (rest : List Markup.Attribute) : valueOf (given name value ++ rest) other =
      if name.chars = other.chars then value.or (valueOf rest other) else valueOf rest other := by
  cases value with
  | none => simp [given]
  | some value =>
    by_cases same : name.chars = other.chars
    · simp [given, valueOf, same]
    · simp [given, valueOf, same]

theorem find_named {kind : UiReprClass} (named : kind.otherName = none) :
    nodeClassName kind ≠ "node" ∧
      namedClasses.find? (fun other => nodeClassName other = nodeClassName kind) = some kind := by
  cases kind
  case other name => cases named
  all_goals decide

@[simp] theorem valueOf_mark (interactive : Bool) (name : Markup.Name) :
    valueOf (if interactive then [⟨interactiveName, none⟩] else []) name = none := by
  cases interactive with
  | false => rfl
  | true => by_cases same : interactiveName.chars = name.chars <;> simp [valueOf, same]

theorem any_given (name other : Markup.Name) (value : Option String)
    (differ : name.chars ≠ other.chars) :
    (given name value).any (fun a => a.name.chars = other.chars) = false := by
  cases value <;> simp [given, differ]

theorem any_mark (interactive : Bool) :
    (if interactive then [(⟨interactiveName, none⟩ : Markup.Attribute)] else []).any
      (fun a => a.name.chars = interactiveName.chars) = interactive := by
  cases interactive <;> simp

theorem readClass_tag (node : UiReprNode) : readClass node.tag = some node.kind := by
  obtain ⟨id, kind, text, desc, interactive⟩ := node
  have spelled : String.ofList kind.tagName.chars = nodeClassName kind := String.ofList_toList
  rw [readClass, UiReprNode.tag, spelled]
  cases named : kind.otherName with
  | none =>
    obtain ⟨widget, found⟩ := find_named named
    rw [if_neg widget, found]
  | some name =>
    cases kind
    case other =>
      cases named
      simp [nodeClassName, idName, className, textName, descName]
    all_goals cases named

theorem readNode_tag (node : UiReprNode) : readNode (.empty node.tag) = some node := by
  have cls := readClass_tag node
  obtain ⟨id, kind, text, desc, interactive⟩ := node
  generalize named : UiReprNode.tag ⟨id, kind, text, desc, interactive⟩ = tag at cls ⊢
  have ids : valueOf tag.attributes idName = id := by
    simp [← named, UiReprNode.tag, idName, className, textName, descName]
  have texts : valueOf tag.attributes textName = text := by
    simp [← named, UiReprNode.tag, idName, className, textName, descName]
  have descs : valueOf tag.attributes descName = desc := by
    simp [← named, UiReprNode.tag, idName, className, textName, descName]
  have mark : tag.attributes.any (fun a => a.name.chars = interactiveName.chars) = interactive := by
    rw [← named, UiReprNode.tag, List.any_append, List.any_append, List.any_append, List.any_append,
      any_given _ _ _ (by decide), any_given _ _ _ (by decide), any_given _ _ _ (by decide),
      any_given _ _ _ (by decide), any_mark]
    rfl
  simp [readNode, cls, ids, texts, descs, mark]

theorem mapM_readNode (nodes : List UiReprNode) :
    (nodes.map fun node => Markup.Item.empty node.tag).mapM readNode = some nodes := by
  induction nodes with
  | nil => rfl
  | cons node nodes ih => simp [readNode_tag, ih]

theorem readDocument_element (doc : UiReprHtml) :
    readDocument doc.element = some { doc with screenId := none } := by
  obtain ⟨screen, screenId, nodes, truncated⟩ := doc
  have pkg : valueOf (given pkgName (some screen)) pkgName = some screen := by
    simp [valueOf, given]
  have back := mapM_readNode nodes
  have shown : (nodes.map fun node => Markup.Item.empty node.tag).getLast?.any isTruncatedRemark =
      false := by
    cases last : nodes.getLast? <;> simp [last, isTruncatedRemark]
  unfold UiReprHtml.element
  generalize nodes.map (fun node => Markup.Item.empty node.tag) = items at back shown ⊢
  cases truncated with
  | true => simp [readDocument, pkg, isTruncatedRemark, back]
  | false => simp [readDocument, pkg, shown, back]

/-- For every document the text is one element with the tags, the attributes, the marks and the
comment of the document, and the document can be read back from it. -/
theorem html_reads_back (doc : UiReprHtml) :
    Markup.readElement doc.toHtml.toList = some doc.element ∧
      parseHtml doc.toHtml = some { doc with screenId := none } := by
  have read : Markup.readElement doc.toHtml.toList = some doc.element := by
    rw [doc.toList_toHtml, Markup.readElement_render]
  refine ⟨read, ?_⟩
  rw [parseHtml, read]
  exact readDocument_element doc

end HidConnect.Kernel
