import RepoSurvey.Syntax.Conversion
import RepoSurvey.Syntax.FirstError

/-!
# Markup documents

Elements, texts, comments and directives as a graph.  Whatever the syntax tree holds, something
comes out: nodes of errors give way to what is inside them.
-/

namespace RepoSurvey.Markup

open RepoSurvey.Graph

/-- The name and the value of an attribute. -/
def readAttribute (source : String) (tree : SyntaxNode) : String × String :=
  tree.namedChildren.foldl (fun (name, value) child =>
    if child.kind == "attribute_name" then (asciiLower (child.text source), value)
    else if child.kind == "attribute_value" then (name, child.text source)
    else if child.kind == "quoted_attribute_value" then
      let inner := child.namedChildren.find? (·.kind == "attribute_value")
      (name, (inner.map (·.text source)).getD "")
    else (name, value)) ("", "")

/-- The name of a tag. -/
def tagName (source : String) (tag : SyntaxNode) : String :=
  let names := tag.namedChildren.filter (·.kind == "tag_name")
  (names.getLast?.map fun name => asciiLower (name.text source)).getD ""

/-- The attributes of a tag that have a name, in order. -/
def attributes (source : String) (tag : SyntaxNode) : List (String × String) :=
  ((tag.namedChildren.filter (·.kind == "attribute")).map (readAttribute source)).filter
    fun entry => !entry.1.isEmpty

def isStartTag (tree : SyntaxNode) : Bool :=
  tree.kind == "start_tag" || tree.kind == "self_closing_tag"

/-- An element with the name and attributes of its tag, and the list of its children. -/
def elementObject (source : String) (tag : Option SyntaxNode) : Build (NodeId × NodeId) := do
  let entries := (tag.map (attributes source)).getD []
  let attribs ← Build.object (entries.map fun entry => (entry.1, .string entry.2))
  let children ← Build.newArray
  let object ← Build.object
    [("type", .string "element"), ("name", .string ((tag.map (tagName source)).getD "")),
      ("attribs", .container attribs), ("children", .container children)]
  return (object, children)

def leafObject (kind data : String) : Build NodeId :=
  Build.object [("type", .string kind), ("data", .string data)]

def isElement (tree : SyntaxNode) : Bool :=
  ["element", "script_element", "style_element"].contains tree.kind

def isText (tree : SyntaxNode) : Bool := ["text", "raw_text", "entity"].contains tree.kind

def isEndTag (tree : SyntaxNode) : Bool :=
  tree.kind == "end_tag" || tree.kind == "erroneous_end_tag"

/-- The content of an element: its children without its own tags. -/
def content (tree : SyntaxNode) : List SyntaxNode :=
  tree.namedChildren.filter fun child => !isStartTag child && child.kind != "end_tag"

/-- The trees inside a node that are converted as well. -/
def innerTrees (tree : SyntaxNode) : List SyntaxNode :=
  if isElement tree then content tree
  else if isText tree || tree.kind == "comment" || tree.kind == "doctype" || isStartTag tree ||
      isEndTag tree then []
  else tree.namedChildren

theorem innerTrees_lt (tree : SyntaxNode) :
    SyntaxNode.sizeOfList (innerTrees tree) < tree.size := by
  have named := SyntaxNode.sizeOfList_namedChildren_lt tree
  unfold innerTrees
  split
  · exact Nat.lt_of_le_of_lt (SyntaxNode.sizeOfList_filter_le _ _) named
  · split
    · rw [SyntaxNode.size_eq, SyntaxNode.sizeOfList]
      omega
    · exact named

/-- Converts one node into the list `target`. -/
def convertNode (source : String) (tree : SyntaxNode) (target : NodeId) : Build NodeId := do
  let leaf (kind data : String) : Build NodeId := do
    Build.push target (.container (← leafObject kind data))
    return target
  if isElement tree then
    let (object, children) ← elementObject source (tree.namedChildren.find? isStartTag)
    Build.push target (.container object)
    return children
  else if isText tree then leaf "text" (tree.text source)
  else if tree.kind == "comment" then leaf "comment" (between "<!--" "-->" (tree.text source))
  else if tree.kind == "doctype" then
    leaf "directive" (trimEnd (· == '>') (trimStart (· == '<') (tree.text source)))
  else if isStartTag tree then
    let (object, _) ← elementObject source (some tree)
    Build.push target (.container object)
    return target
  else return target

def conversion (source : String) : Conversion := ⟨innerTrees, innerTrees_lt, convertNode source⟩

/-- The document of a syntax tree. -/
def rootObject (source : String) (tree : Option SyntaxNode) : Build Value := do
  let children ← Build.newArray
  match tree with
  | some root => (conversion source).run (Conversion.tasksFor root.namedChildren children)
  | none => pure ()
  let object ← Build.object [("type", .string "root"), ("children", .container children)]
  return .container object

end RepoSurvey.Markup
