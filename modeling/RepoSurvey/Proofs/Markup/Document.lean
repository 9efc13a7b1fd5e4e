import RepoSurvey.Markup.Document
import RepoSurvey.Proofs.Syntax.Conversion
import RepoSurvey.Proofs.Text.LetterCase

/-!
# Graphs of markup documents

The kind of a node says what it stands for.  The graph of a markup document is a tree: it repeats no
container, and its document is found by plain recursion over what the nodes stand for.
-/

namespace RepoSurvey.Markup

open RepoSurvey.Graph Conversion

/-! ## What nodes stand for -/

/-- What a node of a syntax tree stands for. -/
inductive Role
  | element
  | text
  | comment
  | doctype
  | startTag
  | endTag
  /-- Only the nodes inside count, as in an error. -/
  | group
  deriving DecidableEq

def role (tree : SyntaxNode) : Role :=
  match tree.kind with
  | "element" | "script_element" | "style_element" => .element
  | "text" | "raw_text" | "entity" => .text
  | "comment" => .comment
  | "doctype" => .doctype
  | "start_tag" | "self_closing_tag" => .startTag
  | "end_tag" | "erroneous_end_tag" => .endTag
  | _ => .group

theorem isElement_eq (tree : SyntaxNode) : isElement tree = decide (role tree = .element) := by
  unfold isElement role
  split <;> simp_all

theorem isText_eq (tree : SyntaxNode) : isText tree = decide (role tree = .text) := by
  unfold isText role
  split <;> simp_all

theorem isComment_eq (tree : SyntaxNode) :
    (tree.kind == "comment") = decide (role tree = .comment) := by
  unfold role
  split <;> simp_all

theorem isDoctype_eq (tree : SyntaxNode) :
    (tree.kind == "doctype") = decide (role tree = .doctype) := by
  unfold role
  split <;> simp_all

theorem isStartTag_eq (tree : SyntaxNode) : isStartTag tree = decide (role tree = .startTag) := by
  unfold isStartTag role
  split <;> simp_all

theorem isEndTag_eq (tree : SyntaxNode) : isEndTag tree = decide (role tree = .endTag) := by
  unfold isEndTag role
  split <;> simp_all

/-! ## Tags -/

/-- The text of the last node of a kind. Without one it is empty. -/
def lastText (source kind : String) (trees : List SyntaxNode) : String :=
  ((trees.filter (·.kind == kind)).getLast?.map (·.text source)).getD ""

/-- The name that a tag gives to its element. -/
def elementName (source : String) (tag : SyntaxNode) : String :=
  asciiLower (lastText source "tag_name" tag.namedChildren)

def attributeName (source : String) (tree : SyntaxNode) : String :=
  asciiLower (lastText source "attribute_name" tree.namedChildren)

/-- A value is written as it is, or between quotes. -/
def isValue (tree : SyntaxNode) : Bool :=
  tree.kind == "attribute_value" || tree.kind == "quoted_attribute_value"

/-- What a value says. Between quotes there may be nothing. -/
def valueText (source : String) (tree : SyntaxNode) : String :=
  if tree.kind == "attribute_value" then tree.text source
  else ((tree.namedChildren.find? (·.kind == "attribute_value")).map (·.text source)).getD ""

/-- What an attribute is set to: what its last value says. Without one it is empty. -/
def attributeValue (source : String) (tree : SyntaxNode) : String :=
  ((tree.namedChildren.filter isValue).getLast?.map (valueText source)).getD ""

/-- The attributes of a tag that have a name. -/
def namedAttributes (source : String) (tag : SyntaxNode) : List SyntaxNode :=
  tag.namedChildren.filter fun child => child.kind == "attribute" && attributeName source child != ""

/-- The attributes of an element: each name of its tag once, where it stands first, with the value that
it has last. -/
def elementAttributes (source : String) (tag : SyntaxNode) : List (String × String) :=
  let written := namedAttributes source tag
  (written.map (attributeName source)).eraseDups.filterMap fun name =>
    (written.reverse.find? (attributeName source · == name)).map fun last =>
      (name, attributeValue source last)

theorem tagName_eq (source : String) (tag : SyntaxNode) :
    tagName source tag = elementName source tag := by
  dsimp only [tagName, elementName, lastText]
  cases (tag.namedChildren.filter (·.kind == "tag_name")).getLast? with
  | none => exact asciiLower_empty.symm
  | some name => rfl

/-- Of the names and of the values of an attribute the last one counts. -/
theorem readAttribute_eq (source : String) (tree : SyntaxNode) :
    readAttribute source tree = (attributeName source tree, attributeValue source tree) := by
  unfold readAttribute attributeName attributeValue lastText
  induction tree.namedChildren using List.reverseRecOn with
  | nil => exact congrArg (·, "") asciiLower_empty.symm
  | append_singleton before child ih =>
      rw [List.foldl_append, ih, List.foldl_cons, List.foldl_nil]
      by_cases isName : child.kind = "attribute_name"
      · simp [isName, isValue, List.filter_append]
      by_cases isPlain : child.kind = "attribute_value"
      · simp [isPlain, isValue, valueText, List.filter_append]
      by_cases isQuoted : child.kind = "quoted_attribute_value"
      · simp [isQuoted, isValue, valueText, List.filter_append]
      · simp [isName, isPlain, isQuoted, isValue, List.filter_append]

theorem attributes_eq (source : String) (tag : SyntaxNode) :
    attributes source tag = (namedAttributes source tag).map fun child =>
      (attributeName source child, attributeValue source child) := by
  have read_eq : readAttribute source = fun child =>
      (attributeName source child, attributeValue source child) :=
    funext (readAttribute_eq source)
  unfold attributes namedAttributes
  rw [read_eq, List.filter_map, List.filter_filter]
  congr 1
  refine List.filter_congr fun child _ => ?_
  rw [Bool.and_comm, Function.comp_apply, bne, Bool.eq_iff_iff]
  simp

/-- Set one after the other, the attributes of a tag are those of its element. -/
theorem setMembers_attributes (source : String) (tag : SyntaxNode) :
    setMembers [] (attributes source tag) = elementAttributes source tag := by
  rw [setMembers_eq_filterMap, attributes_eq, List.map_map, ← List.map_reverse]
  refine List.filterMap_congr fun name _ => ?_
  rw [lookup_map_eq_find?, Option.map_map]
  simp only [BEq.comm]
  rfl

/-! ## Documents -/

/-- The document of a text, a comment or a directive. -/
def leafDocument (kind data : String) : Json.Ordered :=
  .object [("type", .string kind), ("data", .string data)]

/-- The members of an element before its children. Without a tag it has no name and no attributes. -/
def elementMembers (source : String) (tag : Option SyntaxNode) : List (String × Json.Ordered) :=
  [("type", .string "element"), ("name", .string ((tag.map (elementName source)).getD "")),
    ("attribs",
      .object (((tag.map (elementAttributes source)).getD []).map (Prod.map id .string)))]

def shape (source : String) (tree : SyntaxNode) : Shape :=
  match role tree with
  | .element =>
      .around (elementMembers source (tree.namedChildren.find? (role · = .startTag))) "children"
  | .text => .beside [leafDocument "text" (tree.text source)]
  | .comment => .beside [leafDocument "comment" (between "<!--" "-->" (tree.text source))]
  | .doctype =>
      .beside
        [leafDocument "directive" (trimEnd (· == '>') (trimStart (· == '<') (tree.text source)))]
  | .startTag => .beside [.object (elementMembers source (some tree) ++ [("children", .array [])])]
  | .endTag | .group => .beside []

/-- The document of a syntax tree. Without a tree it is empty. -/
def rootDocument (source : String) (tree : Option SyntaxNode) : Json.Ordered :=
  let children := (tree.map (·.namedChildren)).getD []
  .object
    [("type", .string "root"),
      ("children", .array (documents (conversion source) (shape source) children))]

theorem builds_leafObject (kind data : String) :
    Builds (do return .container (← leafObject kind data)) (Plain (leafDocument kind data)) :=
  BuildsMembers.object (.scalars (by simp))

theorem setMembers_strings (source : String) (tag : Option SyntaxNode) :
    setMembers [] (((tag.map (attributes source)).getD []).map (Prod.map id Json.Ordered.string)) =
      ((tag.map (elementAttributes source)).getD []).map (Prod.map id Json.Ordered.string) := by
  cases tag with
  | none => rfl
  | some tag =>
      have changed := map_setMembers Json.Ordered.string [] (attributes source tag)
      rw [setMembers_attributes] at changed
      exact changed.symm

/-- The attributes of a tag, and the members before them. -/
def elementEntries (source : String) (tag : Option SyntaxNode) : Build (List (String × Value)) := do
  let entries := (tag.map (attributes source)).getD []
  let attribs ← Build.object (entries.map fun entry => (entry.1, .string entry.2))
  return [("type", .string "element"), ("name", .string ((tag.map (tagName source)).getD "")),
    ("attribs", .container attribs)]

theorem builds_elementEntries (source : String) (tag : Option SyntaxNode) :
    BuildsMembers (elementEntries source tag) (elementMembers source tag) := by
  have attribs := (BuildsMembers.strings ((tag.map (attributes source)).getD [])).object
  rw [setMembers_strings] at attribs
  rw [elementMembers, ← funext (tagName_eq source)]
  exact ((BuildsMembers.nil.cons_built attribs "attribs").cons_scalar "name"
    (Value.string_ne_container _)).cons_scalar "type" (Value.string_ne_container _)

theorem opens_element (source : String) (tag : Option SyntaxNode) (target : NodeId) :
    Opens (do
      let (object, children) ← elementObject source tag
      Build.push target (.container object)
      return children) target
      fun inner => .object (elementMembers source tag ++ [("children", inner)]) :=
  (builds_elementEntries source tag).opens target (by simp [elementMembers])

theorem convertNode_gives (source : String) (tree : SyntaxNode) (target : NodeId) :
    Gives (convertNode source tree target) target (shape source tree) := by
  unfold convertNode shape
  rw [isElement_eq, isText_eq, isComment_eq, isDoctype_eq, isStartTag_eq, funext isStartTag_eq]
  cases role tree with
  | element => exact opens_element source _ target
  | text => exact ⟨_, rfl, Appends.push (builds_leafObject _ _)⟩
  | comment => exact ⟨_, rfl, Appends.push (builds_leafObject _ _)⟩
  | doctype => exact ⟨_, rfl, Appends.push (builds_leafObject _ _)⟩
  | startTag => exact ⟨_, rfl, (opens_element source (some tree) target).closed⟩
  | endTag => exact ⟨pure (), rfl, .nil⟩
  | group => exact ⟨pure (), rfl, .nil⟩

theorem run_appends (source : String) (trees : List SyntaxNode) (list : NodeId) :
    Appends ((conversion source).run (tasksFor trees list)) list
      ((documents (conversion source) (shape source) trees).map Plain) :=
  Conversion.run_appends (convertNode_gives source) trees list

theorem builds_rootObject (source : String) (tree : Option SyntaxNode) :
    Builds (rootObject source tree) (Plain (rootDocument source tree)) := by
  cases tree with
  | some root =>
      have children := Appends.newArray_plain (run_appends source root.namedChildren)
      exact children.inRoot "children"
  | none =>
      rw [rootDocument, Option.map_none, Option.getD_none, documents]
      have children : Builds _ (Plain (.array [])) := Appends.newArray_plain fun _ => .nil
      exact children.inRoot "children"

end RepoSurvey.Markup
