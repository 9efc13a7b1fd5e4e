import RepoSurvey.Graph.Store
import RepoSurvey.Script.Dialect
import RepoSurvey.Syntax.Cursor
import RepoSurvey.Syntax.FirstError

/-!
# Script documents

The syntax tree of a script as a graph.  Named nodes become objects; tokens show only where they
have a role.  The comments are listed once more at the end, as the very objects of the tree.
-/

namespace RepoSurvey.Script

open RepoSurvey.Graph

/-- Keys that a token's role must not take. -/
def reservedKeys : List String := ["type", "start", "end", "loc", "field", "text", "children"]

/-- Whether a node shows its children rather than its text. -/
def hasNamedChild (tree : SyntaxNode) : Bool := tree.children.any (·.isNamed)

theorem hasNamedChild_iff {tree : SyntaxNode} :
    hasNamedChild tree = true ↔ ∃ child ∈ tree.children, child.isNamed = true :=
  List.any_eq_true

def positionObject (place : Place) : Build NodeId :=
  Build.object [("line", .natural (place.row + 1)), ("column", .natural place.column)]

/-- The object for a node, without its children. -/
def nodeObject (source : String) (tree : SyntaxNode) (field : Option String) : Build NodeId := do
  let start ← positionObject tree.label.start
  let stop ← positionObject tree.label.stop
  let location ← Build.object [("start", .container start), ("end", .container stop)]
  let role := field.toList.map fun name => ("field", Value.string name)
  let text := if hasNamedChild tree then [] else [("text", Value.string (tree.text source))]
  Build.object
    ([("type", .string tree.kind), ("start", .natural tree.startByte),
      ("end", .natural tree.stopByte), ("loc", .container location)] ++ role ++ text)

/-- A node whose children are being visited, with the list of what they become. -/
structure Parent where
  object : NodeId
  children : NodeId

/-- The first node after all that is inside the node of a cursor, and the parents that are left there. -/
def climb (cursor : SyntaxCursor) (parents : List Parent) : Option (SyntaxCursor × List Parent) :=
  match cursor.nextSibling?, parents with
  | some next, parents => some (next, parents)
  | none, [] => none
  | none, _ :: outer =>
      match cursor.parent? with
      | some above => climb above outer
      | none => none

/-- Where the children of a node are visited, that is where the cursor goes. -/
def descend? (cursor : SyntaxCursor) : Option SyntaxCursor :=
  if cursor.node.isNamed && hasNamedChild cursor.node then cursor.firstChild? else none

/-- Converts the node of a cursor. The answer is the current object: that of the node if the node is named,
and the same as before if it is a token. -/
def visit (source : String) (comments : NodeId) (cursor : SyntaxCursor) (parent : Parent)
    (current : NodeId) : Build NodeId := do
  let tree := cursor.node
  if tree.isNamed then
    let object ← nodeObject source tree tree.label.field
    if tree.kind == "comment" then Build.push comments (.container object)
    Build.push parent.children (.container object)
    return object
  else
    match tree.label.field with
    | some role =>
        if !reservedKeys.contains role then
          Build.insert parent.object role (.string (tree.text source))
    | none => pure ()
    return current

theorem climb_after {cursor next : SyntaxCursor} {parents outer : List Parent}
    (isNext : climb cursor parents = some (next, outer)) : next.ahead < cursor.after := by
  fun_induction climb cursor parents with
  | case1 cursor parents sibling isSibling =>
      cases isNext
      exact SyntaxCursor.nextSibling?_ahead isSibling
  | case2 => cases isNext
  | case3 cursor isLast parent parents above isAbove ih =>
      exact Nat.lt_of_lt_of_le (ih isNext) (SyntaxCursor.parent?_after isAbove)
  | case4 => cases isNext

theorem climb_ahead {cursor next : SyntaxCursor} {parents outer : List Parent}
    (isNext : climb cursor parents = some (next, outer)) : next.ahead < cursor.ahead :=
  Nat.lt_of_lt_of_le (climb_after isNext) (Nat.le_add_left _ _)

theorem descend?_ahead {cursor child : SyntaxCursor} (isChild : descend? cursor = some child) :
    child.ahead < cursor.ahead := by
  unfold descend? at isChild
  split at isChild
  · exact SyntaxCursor.firstChild?_ahead isChild
  · cases isChild

/-- Converts all nodes that come after the node of a cursor, which has become the current object if it is
named. -/
def walk (source : String) (comments : NodeId) (cursor : SyntaxCursor) (parents : List Parent)
    (current : NodeId) : Build Unit :=
  match _isChild : descend? cursor with
  | some child => do
      let children ← Build.newArray
      Build.insert current "children" (.container children)
      let parent : Parent := ⟨current, children⟩
      let current ← visit source comments child parent current
      walk source comments child (parent :: parents) current
  | none =>
      match _isNext : climb cursor parents with
      | some (next, parent :: outer) => do
          let current ← visit source comments next parent current
          walk source comments next (parent :: outer) current
      | _ => pure ()
  termination_by cursor.ahead
  decreasing_by
    · exact descend?_ahead _isChild
    · exact climb_ahead _isNext

/-- Converts a whole tree: the object of its root and the list of its comments. -/
def convertTree (source : String) (root : SyntaxNode) : Build (NodeId × NodeId) := do
  let comments ← Build.newArray
  let object ← nodeObject source root none
  walk source comments { node := root } [] object
  return (object, comments)

/-- The document of a script. -/
def fileObject (dialect : Dialect) (source : String) (root : SyntaxNode) : Build Value := do
  let (program, comments) ← convertTree source root
  let file ← Build.object
    [("type", .string "File"), ("dialect", .string dialect.name),
      ("program", .container program), ("comments", .container comments)]
  return .container file

end RepoSurvey.Script
