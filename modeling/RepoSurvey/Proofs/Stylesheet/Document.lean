import RepoSurvey.Proofs.Syntax.Conversion
import RepoSurvey.Stylesheet.Document

/-!
# Graphs of stylesheets

The graph of a stylesheet is a tree: it repeats no container, and its document is found by plain recursion
over the syntax tree.  A block waits until the block around it has been read to its end, and so a rule is
put into its list long before its own list is filled.
-/

namespace RepoSurvey.Stylesheet

open RepoSurvey.Graph Conversion

/-- The members of a rule before its statements. -/
def ruleMembers (selector : String) : List (String × Json.Ordered) :=
  [("type", .string "rule"), ("selector", .string (trim selector))]

def declarationDocument (source : String) (tree : SyntaxNode) : Json.Ordered :=
  let names := tree.children.filter (·.kind == "property_name")
  let value := match tree.children.find? (·.kind == ":") with
    | some colon => trim (textBetween source colon.stopByte (valueEnd tree))
    | none => ""
  .object
    [("type", .string "decl"),
      ("prop", .string ((names.getLast?.map (·.text source)).getD "")),
      ("value", .string value),
      ("important", .bool (tree.children.any (·.kind == "important")))]

def commentDocument (source : String) (tree : SyntaxNode) : Json.Ordered :=
  .object
    [("type", .string "comment"),
      ("text", .string (trim (between "/*" "*/" (tree.text source))))]

/-- The members of an at-rule before its statements. -/
def atRuleMembers (source : String) (tree : SyntaxNode) : List (String × Json.Ordered) :=
  let keyword := tree.children.head?
  let name := trimStart (· == '@') ((keyword.map (·.text source)).getD "")
  let start := (keyword.map (·.stopByte)).getD tree.startByte
  let params := trim (textBetween source start (max (paramsEnd tree) start))
  [("type", .string "atrule"), ("name", .string name), ("params", .string params)]

/-- The document of a statement around those of the statements inside. Other nodes have none. -/
def statementAround (source : String) (tree : SyntaxNode) (inside : List Json.Ordered) :
    Option Json.Ordered :=
  match statementKind? tree with
  | some .rule =>
      some (.object (ruleMembers (ruleSelector source tree) ++ [("nodes", .array inside)]))
  | some .keyframe =>
      some (.object (ruleMembers (keyframeSelector source tree) ++ [("nodes", .array inside)]))
  | some .declaration => some (declarationDocument source tree)
  | some .comment => some (commentDocument source tree)
  | some .atRule =>
      some (.object (atRuleMembers source tree ++
        if (tree.children.find? isBody).isSome then [("nodes", .array inside)] else []))
  | none => none

mutual

/-- The documents of the statements among some trees. -/
def statementDocuments (source : String) (trees : List SyntaxNode) : List Json.Ordered :=
  match trees with
  | [] => []
  | tree :: rest =>
      (statementAround source tree (bodyDocuments source (bodies tree))).toList ++
        statementDocuments source rest
  termination_by SyntaxNode.sizeOfList trees
  decreasing_by
    · have := sizeOfList_bodies_lt tree
      rw [SyntaxNode.sizeOfList]
      omega
    · rw [SyntaxNode.sizeOfList, SyntaxNode.size_eq]
      omega

/-- The documents of the statements in the bodies of one statement. Those of the last body come
first. -/
def bodyDocuments (source : String) (blocks : List SyntaxNode) : List Json.Ordered :=
  match blocks with
  | [] => []
  | block :: rest => bodyDocuments source rest ++ statementDocuments source block.namedChildren
  termination_by SyntaxNode.sizeOfList blocks
  decreasing_by
    · rw [SyntaxNode.sizeOfList, SyntaxNode.size_eq]
      omega
    · have := SyntaxNode.sizeOfList_namedChildren_lt block
      rw [SyntaxNode.sizeOfList]
      omega

end

/-- The document of a syntax tree. -/
def rootDocument (source : String) (root : SyntaxNode) : Json.Ordered :=
  .object [("type", .string "root"), ("nodes", .array (statementDocuments source root.namedChildren))]

/-! ## Statements -/

theorem opens_rule (selector : String) (target : NodeId) :
    Opens (do
      let (object, nodes) ← ruleObject selector
      Build.push target (.container object)
      return nodes) target
      fun inner => .object (ruleMembers selector ++ [("nodes", inner)]) := by
  have members : BuildsMembers
      (pure [("type", .string "rule"), ("selector", .string (trim selector))])
      (ruleMembers selector) := .scalars (by simp)
  exact members.opens target (by simp [ruleMembers])

theorem builds_declarationObject (source : String) (tree : SyntaxNode) :
    Builds (do return .container (← declarationObject source tree))
      (Plain (declarationDocument source tree)) :=
  BuildsMembers.object (.scalars (by simp))

theorem builds_commentObject (source : String) (tree : SyntaxNode) :
    Builds (do return .container (← commentObject source tree))
      (Plain (commentDocument source tree)) :=
  BuildsMembers.object (.scalars (by simp))

/-- A statement is put into a list at once, or with a list that its bodies fill later. -/
inductive Converted (source : String) (tree : SyntaxNode) (target : NodeId) : Prop
  | closed (fill : Build Unit) (hasNone : bodies tree = [])
      (convert_eq : convertStatement source tree target = (do fill; return target))
      (appends : ∀ inside,
        Appends fill target ((statementAround source tree inside).toList.map Plain))
  | opened (around : Json.Ordered → Json.Ordered)
      (opens : Opens (convertStatement source tree target) target around)
      (around_eq : ∀ inside, statementAround source tree inside = some (around (.array inside)))

theorem Converted.leaf {source : String} {tree : SyntaxNode} {target : NodeId} {fill : Build Unit}
    {document : Json.Ordered} (appends : Appends fill target [Plain document])
    (hasNone : bodies tree = [])
    (convert_eq : convertStatement source tree target = (do fill; return target))
    (document_eq : ∀ inside, statementAround source tree inside = some document) :
    Converted source tree target := by
  refine .closed fill hasNone convert_eq fun inside => ?_
  rw [document_eq]
  exact appends

theorem Converted.rule {source : String} {tree : SyntaxNode} {target : NodeId} (selector : String)
    (convert_eq : convertStatement source tree target = (do
      let (object, nodes) ← ruleObject selector
      Build.push target (.container object)
      return nodes))
    (around_eq : ∀ inside, statementAround source tree inside =
      some (.object (ruleMembers selector ++ [("nodes", .array inside)]))) :
    Converted source tree target := by
  refine .opened (fun inner => .object (ruleMembers selector ++ [("nodes", inner)])) ?_ around_eq
  rw [convert_eq]
  exact opens_rule selector target

theorem atRule_converted {source : String} {tree : SyntaxNode}
    (kind_eq : statementKind? tree = some .atRule) (target : NodeId) :
    Converted source tree target := by
  have heading : BuildsMembers
      (pure [("type", .string "atrule"), ("name", .string _), ("params", .string _)])
      (atRuleMembers source tree) := .scalars (by simp)
  cases body_eq : tree.children.find? isBody with
  | none =>
      refine .leaf (.push heading.object) ?_ ?_ fun inside => ?_
      · rw [bodies, kind_eq, body_eq]
        rfl
      · rw [convertStatement, kind_eq, atRuleObject, body_eq]
        rfl
      · rw [statementAround, kind_eq, body_eq]
        rfl
  | some body =>
      refine .opened (fun inner => .object (atRuleMembers source tree ++ [("nodes", inner)])) ?_
        fun inside => ?_
      · rw [convertStatement, kind_eq, atRuleObject, body_eq]
        exact heading.opens target (by simp [atRuleMembers])
      · rw [statementAround, kind_eq, body_eq]
        rfl

theorem convertStatement_converted (source : String) (tree : SyntaxNode) (target : NodeId) :
    Converted source tree target := by
  cases kind_eq : statementKind? tree with
  | none =>
      refine .closed (pure ()) ?_ ?_ fun inside => ?_
      · rw [bodies, kind_eq]
      · rw [convertStatement, kind_eq, pure_bind]
      · rw [statementAround, kind_eq]
        exact .nil
  | some kind =>
      cases kind with
      | rule =>
          refine .rule (ruleSelector source tree) ?_ fun inside => ?_
          · rw [convertStatement, kind_eq]
          · rw [statementAround, kind_eq]
      | keyframe =>
          refine .rule (keyframeSelector source tree) ?_ fun inside => ?_
          · rw [convertStatement, kind_eq]
          · rw [statementAround, kind_eq]
      | declaration =>
          refine .leaf (.push (builds_declarationObject source tree)) ?_ ?_ fun inside => ?_
          · rw [bodies, kind_eq]
          · rw [convertStatement, kind_eq]
            rfl
          · rw [statementAround, kind_eq]
      | comment =>
          refine .leaf (.push (builds_commentObject source tree)) ?_ ?_ fun inside => ?_
          · rw [bodies, kind_eq]
          · rw [convertStatement, kind_eq]
            rfl
          · rw [statementAround, kind_eq]
      | atRule => exact atRule_converted kind_eq target

/-! ## Blocks that wait -/

/-- What waits behind is converted when everything before it, and all that is inside, is done. -/
theorem convert_append (source : String) :
    (∀ trees target left right, convertStatements source trees target (left ++ right) = (do
      convertStatements source trees target left
      convertWaiting source right)) ∧
    ∀ left right, convertWaiting source (left ++ right) = (do
      convertWaiting source left
      convertWaiting source right) := by
  apply convertStatements.mutual_induct
  · intro target left ih right
    rw [convertStatements, convertStatements, ih]
  · intro target left tree rest ih right
    rw [convertStatements, convertStatements, bind_assoc]
    refine congrArg _ (funext fun inside => ?_)
    rw [← ih inside, List.append_assoc]
  · intro right
    rw [List.nil_append, convertWaiting, pure_bind]
  · intro next rest ih right
    rw [List.cons_append, convertWaiting, convertWaiting, ih]

theorem convertStatements_cons (source : String) (tree : SyntaxNode) (rest : List SyntaxNode)
    (target : NodeId) :
    convertStatements source (tree :: rest) target [] = (do
      let inside ← convertStatement source tree target
      convertStatements source rest target []
      convertWaiting source (tasksFor (bodies tree).reverse inside)) := by
  rw [convertStatements]
  refine congrArg _ (funext fun inside => ?_)
  rw [List.append_nil, ← (convert_append source).1 rest target [] _, List.nil_append]

theorem convertWaiting_cons (source : String) (block : SyntaxNode) (rest : List SyntaxNode)
    (target : NodeId) :
    convertWaiting source (tasksFor (block :: rest).reverse target) = (do
      convertWaiting source (tasksFor rest.reverse target)
      convertStatements source block.namedChildren target []) := by
  rw [List.reverse_cons, tasksFor, List.map_append, (convert_append source).2]
  refine congrArg _ (funext fun _ => ?_)
  rw [List.map_singleton, convertWaiting]

/-- The statements of blocks that wait are put where plain recursion writes them. -/
theorem convert_appends (source : String) :
    (∀ trees target, Appends (convertStatements source trees target []) target
      ((statementDocuments source trees).map Plain)) ∧
    ∀ blocks target, Appends (convertWaiting source (tasksFor blocks.reverse target)) target
      ((bodyDocuments source blocks).map Plain) := by
  apply statementDocuments.mutual_induct
  · intro target
    rw [convertStatements, convertWaiting, statementDocuments]
    exact .nil
  · intro tree rest innerAppends restAppends target
    rw [convertStatements_cons, statementDocuments, List.map_append]
    cases convertStatement_converted source tree target with
    | closed fill hasNone convert_eq appends =>
        have rest_eq : (do
            convertStatements source rest target []
            convertWaiting source (tasksFor [].reverse target)) =
              convertStatements source rest target [] := by
          rw [List.reverse_nil, tasksFor, List.map_nil, ← (convert_append source).1,
            List.append_nil]
        rw [convert_eq, hasNone, bind_assoc]
        simp only [pure_bind, rest_eq]
        exact (appends _).append (restAppends target)
    | opened around opens around_eq =>
        -- What follows the statement is converted before what is inside it.
        rw [around_eq]
        exact opens.fill_after (restAppends target) innerAppends
  · intro target
    rw [List.reverse_nil, tasksFor, List.map_nil, convertWaiting, bodyDocuments]
    exact .nil
  · intro block rest restAppends blockAppends target
    rw [convertWaiting_cons, bodyDocuments, List.map_append]
    exact (restAppends target).append (blockAppends target)

theorem builds_convertBlock (source : String) (container : SyntaxNode) :
    Builds (do return .container (← convertBlock source container))
      (Plain (.array (statementDocuments source container.namedChildren))) := by
  have fills (nodes : NodeId) : Appends (convertWaiting source [⟨container, nodes⟩]) nodes
      ((statementDocuments source container.namedChildren).map Plain) := by
    rw [convertWaiting]
    exact (convert_appends source).1 container.namedChildren nodes
  exact Appends.newArray_plain fills

theorem builds_sheetObject (source : String) (root : SyntaxNode) :
    Builds (sheetObject source root) (Plain (rootDocument source root)) :=
  (builds_convertBlock source root).inRoot "nodes"

end RepoSurvey.Stylesheet
