import RepoSurvey.Syntax.Conversion
import RepoSurvey.Syntax.FirstError

/-!
# Stylesheet documents

The statements of a stylesheet as a graph: rules, at-rules, declarations and comments.
-/

namespace RepoSurvey.Stylesheet

open RepoSurvey.Graph

/-- The kinds of statements. -/
inductive StatementKind
  | rule
  | keyframe
  | declaration
  | comment
  | atRule
  deriving DecidableEq, Repr

/-- What kind of statement a node is, if it is one. -/
def statementKind? (tree : SyntaxNode) : Option StatementKind :=
  let kind := tree.kind
  if kind == "rule_set" then some .rule
  else if kind == "declaration" then some .declaration
  else if kind == "comment" then some .comment
  else if kind == "keyframe_block" then some .keyframe
  else if kind == "at_rule" || kind.endsWith "_statement" then some .atRule
  else none

theorem statementKind?_eq_some_iff {tree : SyntaxNode} {kind : StatementKind} :
    statementKind? tree = some kind ↔
      match kind with
      | .rule => tree.kind = "rule_set"
      | .keyframe => tree.kind = "keyframe_block"
      | .declaration => tree.kind = "declaration"
      | .comment => tree.kind = "comment"
      | .atRule => tree.kind = "at_rule" ∨ tree.kind.endsWith "_statement" = true := by
  -- The kinds that are asked for first are none of the last.
  have noAtRule : ∀ name ∈ ["rule_set", "declaration", "comment", "keyframe_block"],
      name ≠ "at_rule" ∧ name.endsWith "_statement" = false := by decide +kernel
  cases kind <;> simp only [statementKind?, beq_iff_eq, Bool.or_eq_true] <;> grind

def isBlock (tree : SyntaxNode) : Bool := tree.kind == "block"

def isBody (tree : SyntaxNode) : Bool := isBlock tree || tree.kind == "keyframe_block_list"

theorem isBody_iff {tree : SyntaxNode} :
    isBody tree = true ↔ tree.kind = "block" ∨ tree.kind = "keyframe_block_list" := by
  simp only [isBody, isBlock, Bool.or_eq_true, beq_iff_eq]

/-- The bodies of a statement: blocks of a rule, or the body of an at-rule. -/
def bodies (tree : SyntaxNode) : List SyntaxNode :=
  match statementKind? tree with
  | some .rule | some .keyframe => tree.namedChildren.filter isBlock
  | some .atRule => (tree.children.find? isBody).toList
  | _ => []

/-! ## Statements -/

/-- A rule with the list of its statements. -/
def ruleObject (selector : String) : Build (NodeId × NodeId) := do
  let nodes ← Build.newArray
  let object ← Build.object
    [("type", .string "rule"), ("selector", .string (trim selector)), ("nodes", .container nodes)]
  return (object, nodes)

def ruleSelector (source : String) (tree : SyntaxNode) : String :=
  let selectors := tree.namedChildren.filter (·.kind == "selectors")
  (selectors.getLast?.map (·.text source)).getD ""

def keyframeSelector (source : String) (tree : SyntaxNode) : String :=
  String.join ((tree.namedChildren.filter (!isBlock ·)).map (·.text source))

/-- The least of the places where the value of a declaration may end. -/
def valueEnd (tree : SyntaxNode) : Nat :=
  tree.children.foldl (fun stop child =>
    if child.kind == "important" || child.kind == ";" then min stop child.startByte else stop)
    tree.stopByte

def declarationObject (source : String) (tree : SyntaxNode) : Build NodeId :=
  let names := tree.children.filter (·.kind == "property_name")
  let value := match tree.children.find? (·.kind == ":") with
    | some colon => trim (textBetween source colon.stopByte (valueEnd tree))
    | none => ""
  Build.object
    [("type", .string "decl"),
      ("prop", .string ((names.getLast?.map (·.text source)).getD "")),
      ("value", .string value),
      ("important", .bool (tree.children.any (·.kind == "important")))]

def commentObject (source : String) (tree : SyntaxNode) : Build NodeId :=
  Build.object
    [("type", .string "comment"),
      ("text", .string (trim (between "/*" "*/" (tree.text source))))]

/-- Where the parameters of an at-rule end: at its body, its last semicolon or its end. -/
def paramsEnd (tree : SyntaxNode) : Nat :=
  match tree.children.find? isBody with
  | some body => body.startByte
  | none =>
      (((tree.children.filter (·.kind == ";")).getLast?).map (·.startByte)).getD tree.stopByte

/-- An at-rule, with the list of its statements if it has a body. -/
def atRuleObject (source : String) (tree : SyntaxNode) : Build (NodeId × Option NodeId) := do
  let keyword := tree.children.head?
  let name := trimStart (· == '@') ((keyword.map (·.text source)).getD "")
  let start := (keyword.map (·.stopByte)).getD tree.startByte
  let params := trim (textBetween source start (max (paramsEnd tree) start))
  let heading : List (String × Value) :=
    [("type", .string "atrule"), ("name", .string name), ("params", .string params)]
  if (tree.children.find? isBody).isSome then
    let nodes ← Build.newArray
    return (← Build.object (heading ++ [("nodes", .container nodes)]), some nodes)
  else return (← Build.object heading, none)

/-- Converts one statement into the list `target`; other nodes are passed over. -/
def convertStatement (source : String) (tree : SyntaxNode) (target : NodeId) : Build NodeId := do
  let add (object : NodeId) (inside : NodeId) : Build NodeId := do
    Build.push target (.container object)
    return inside
  match statementKind? tree with
  | some .rule =>
      let (object, nodes) ← ruleObject (ruleSelector source tree)
      add object nodes
  | some .keyframe =>
      let (object, nodes) ← ruleObject (keyframeSelector source tree)
      add object nodes
  | some .declaration => add (← declarationObject source tree) target
  | some .comment => add (← commentObject source tree) target
  | some .atRule =>
      let (object, nodes) ← atRuleObject source tree
      add object (nodes.getD target)
  | none => return target

/-! ## Blocks -/

theorem sizeOfList_find_le (test : SyntaxNode → Bool) (trees : List SyntaxNode) :
    SyntaxNode.sizeOfList (trees.find? test).toList ≤ SyntaxNode.sizeOfList trees := by
  induction trees with
  | nil => simp
  | cons tree rest ih =>
      rw [List.find?_cons]
      split
      · simp [SyntaxNode.sizeOfList]
      · rw [SyntaxNode.sizeOfList]
        omega

theorem sizeOfList_bodies_lt (tree : SyntaxNode) :
    SyntaxNode.sizeOfList (bodies tree) < tree.size := by
  have named := SyntaxNode.sizeOfList_namedChildren_lt tree
  unfold bodies
  split
  · exact Nat.lt_of_le_of_lt (SyntaxNode.sizeOfList_filter_le _ _) named
  · exact Nat.lt_of_le_of_lt (SyntaxNode.sizeOfList_filter_le _ _) named
  · have := sizeOfList_find_le isBody tree.children
    rw [SyntaxNode.size_eq]
    omega
  · rw [SyntaxNode.size_eq, SyntaxNode.sizeOfList]
    omega

open Conversion (Task tasksFor workload workload_append workload_tasksFor)

mutual

/-- Converts the statements of a block into the list `target`, and then the blocks that wait.  The
bodies that are met wait in front of all others, the last of them first. -/
def convertStatements (source : String) (trees : List SyntaxNode) (target : NodeId)
    (waiting : List Task) : Build Unit :=
  match trees with
  | [] => convertWaiting source waiting
  | tree :: rest => do
      let inside ← convertStatement source tree target
      convertStatements source rest target (tasksFor (bodies tree).reverse inside ++ waiting)
  termination_by (SyntaxNode.sizeOfList trees + workload waiting, 1)
  decreasing_by
    · rw [SyntaxNode.sizeOfList, Nat.zero_add]
      exact Prod.Lex.right _ Nat.zero_lt_one
    · have := sizeOfList_bodies_lt tree
      refine Prod.Lex.left _ _ ?_
      rw [workload_append, workload_tasksFor, SyntaxNode.sizeOfList_reverse, SyntaxNode.sizeOfList]
      omega

/-- Converts all blocks that wait, and what is inside them. -/
def convertWaiting (source : String) (waiting : List Task) : Build Unit :=
  match waiting with
  | [] => pure ()
  | next :: rest => convertStatements source next.tree.namedChildren next.target rest
  termination_by (workload waiting, 0)
  decreasing_by
    have := SyntaxNode.sizeOfList_namedChildren_lt next.tree
    refine Prod.Lex.left _ _ ?_
    rw [workload]
    omega

end

/-- The list of the statements in a block or sheet. -/
def convertBlock (source : String) (container : SyntaxNode) : Build NodeId := do
  let nodes ← Build.newArray
  convertWaiting source [⟨container, nodes⟩]
  return nodes

/-- The document of a stylesheet. -/
def sheetObject (source : String) (root : SyntaxNode) : Build Value := do
  let nodes ← convertBlock source root
  let sheet ← Build.object [("type", .string "root"), ("nodes", .container nodes)]
  return .container sheet

end RepoSurvey.Stylesheet
