import RepoSurvey.Proofs.Graph.Filling
import RepoSurvey.Script.Document

/-!
# Documents of scripts

What the nodes of a script become in its document, by plain recursion over the syntax tree, and which
containers of a graph are the comments of a script.
-/

namespace RepoSurvey.Script

open RepoSurvey.Graph

/-! ## Nodes -/

def positionDocument (place : Place) : Json.Ordered :=
  .object [("line", .number (.integer (place.row + 1 : Nat))),
    ("column", .number (.integer place.column))]

/-- The role of a node, and its text if it shows no children. -/
def headTexts (source : String) (tree : SyntaxNode) (field : Option String) :
    List (String × String) :=
  (field.toList.map fun name => ("field", name)) ++
    if hasNamedChild tree then [] else [("text", tree.text source)]

/-- The members of a node before its children. -/
def headMembers (source : String) (tree : SyntaxNode) (field : Option String) :
    List (String × Json.Ordered) :=
  [("type", .string tree.kind), ("start", .number (.integer tree.startByte)),
    ("end", .number (.integer tree.stopByte)),
    ("loc", .object
      [("start", positionDocument tree.label.start), ("end", positionDocument tree.label.stop)])] ++
    (headTexts source tree field).map (Prod.map id .string)

/-- The role of a token, and its text, if it has a role of its own. -/
def role? (source : String) (tree : SyntaxNode) : Option (String × String) :=
  if tree.isNamed then none
  else (tree.label.field.filter (!reservedKeys.contains ·)).map fun role => (role, tree.text source)

/-- The roles of the tokens among some trees, the last of those with the same name. -/
def roleMembers (source : String) (trees : List SyntaxNode) : List (String × Json.Ordered) :=
  (setMembers [] (trees.filterMap (role? source))).map (Prod.map id .string)

mutual

/-- The document of a node with the role `field`. -/
def nodeDocument (source : String) (field : Option String) : SyntaxNode → Json.Ordered
  | .node label children =>
      .object
        (headMembers source (.node label children) field ++
          if hasNamedChild (.node label children) then
            ("children", .array (nodeDocuments source children)) :: roleMembers source children
          else [])

/-- The documents of the named nodes among some trees. -/
def nodeDocuments (source : String) : List SyntaxNode → List Json.Ordered
  | [] => []
  | tree :: rest =>
      (if tree.isNamed then [nodeDocument source tree.label.field tree] else []) ++
        nodeDocuments source rest

end

theorem builds_positionObject (place : Place) :
    Builds (do return .container (← positionObject place)) (Plain (positionDocument place)) :=
  BuildsMembers.object (.scalars (by simp [Value.natural]))

/-- The keys of a node are reserved, and they are different. -/
theorem headKeys_sublist (source : String) (tree : SyntaxNode) (field : Option String) :
    ((headMembers source tree field).map (·.1) ++ ["children"]).Sublist reservedKeys := by
  unfold headMembers headTexts
  cases field with
  | none => cases hasNamedChild tree <;> simp [reservedKeys]
  | some name => cases hasNamedChild tree <;> simp [reservedKeys]

theorem headKeys_nodup (source : String) (tree : SyntaxNode) (field : Option String) :
    ((headMembers source tree field).map (·.1)).Nodup := by
  have areReserved : reservedKeys.Nodup := by decide
  have withChildren := areReserved.sublist (headKeys_sublist source tree field)
  exact (List.nodup_append.mp withChildren).1

theorem children_notMem_headKeys (source : String) (tree : SyntaxNode) (field : Option String) :
    "children" ∉ (headMembers source tree field).map (·.1) := by
  have areReserved : reservedKeys.Nodup := by decide
  have withChildren := areReserved.sublist (headKeys_sublist source tree field)
  intro isHead
  exact (List.nodup_append.mp withChildren).2.2 _ isHead _ List.mem_cons_self rfl

/-- The location of a node, and the members around it. -/
def headEntries (source : String) (tree : SyntaxNode) (field : Option String) :
    Build (List (String × Value)) := do
  let start ← positionObject tree.label.start
  let stop ← positionObject tree.label.stop
  let location ← Build.object [("start", .container start), ("end", .container stop)]
  return [("type", .string tree.kind), ("start", .natural tree.startByte),
    ("end", .natural tree.stopByte), ("loc", .container location)] ++
      (headTexts source tree field).map (Prod.map id .string)

theorem nodeObject_eq (source : String) (tree : SyntaxNode) (field : Option String) :
    nodeObject source tree field = (do Build.object (← headEntries source tree field)) := by
  have texts_eq : (headTexts source tree field).map (Prod.map id Value.string) =
      (field.toList.map fun name => ("field", Value.string name)) ++
        if hasNamedChild tree then [] else [("text", Value.string (tree.text source))] := by
    unfold headTexts
    cases field <;> cases hasNamedChild tree <;> rfl
  unfold nodeObject headEntries
  simp only [texts_eq, List.append_assoc, bind_assoc, pure_bind]

theorem builds_headEntries (source : String) (tree : SyntaxNode) (field : Option String) :
    BuildsMembers (headEntries source tree field) (headMembers source tree field) := by
  have start := builds_positionObject tree.label.start
  have stop := builds_positionObject tree.label.stop
  have location := ((BuildsMembers.nil.cons_built stop "end").cons_built start "start").object
  have located := (BuildsMembers.strings (headTexts source tree field)).cons_built location "loc"
  exact ((located.cons_scalar "end" (Value.natural_ne_container _)).cons_scalar "start"
    (Value.natural_ne_container _)).cons_scalar "type" (Value.string_ne_container _)

theorem fillingPlain_nodeObject (source : String) (tree : SyntaxNode) (field : Option String)
    (before : Store) :
    FillingPlain before ((nodeObject source tree field).run before).2
      ((nodeObject source tree field).run before).1 (headMembers source tree field) := by
  have areNew : (([] : List (String × Json.Ordered)) ++ headMembers source tree field).map
      (·.1) |>.Nodup := headKeys_nodup source tree field
  have filling := (builds_headEntries source tree field).fillingPlain before
  rw [setMembers_of_nodup areNew, ← nodeObject_eq] at filling
  exact filling

/-! ## Comments -/

/-- The object of a comment begins with its type. -/
def isComment : Json.Ordered → Bool
  | .object ((key, .string kind) :: _) => key == "type" && kind == "comment"
  | _ => false

mutual

/-- The containers of the comments in a tree, in document order. -/
def commentNodes : Unfolding → List NodeId
  | .scalar _ | .again _ => []
  | .full node kind parts =>
      (if isComment (Unfolding.full node kind parts).ordered then [node] else []) ++
        commentNodesOf parts

def commentNodesOf : List (Option String × Unfolding) → List NodeId
  | [] => []
  | (_, part) :: rest => commentNodes part ++ commentNodesOf rest

end

mutual

/-- How many comments a document shows. -/
def commentCount : Json.Ordered → Nat
  | .array items => commentCountOfItems items
  | .object members =>
      (if isComment (.object members) then 1 else 0) + commentCountOfMembers members
  | _ => 0

def commentCountOfItems : List Json.Ordered → Nat
  | [] => 0
  | item :: rest => commentCount item + commentCountOfItems rest

def commentCountOfMembers : List (String × Json.Ordered) → Nat
  | [] => 0
  | (_, value) :: rest => commentCount value + commentCountOfMembers rest

end

mutual

theorem length_commentNodes : (tree : Unfolding) →
    (commentNodes tree).length = commentCount tree.ordered
  | .scalar value => by
      rw [commentNodes, Unfolding.ordered]
      cases value <;> rfl
  | .again _ => rfl
  | .full node .array parts => by
      rw [commentNodes, Unfolding.ordered, commentCount, ← (length_commentNodesOf parts).1]
      rfl
  | .full node .object parts => by
      rw [commentNodes, Unfolding.ordered, commentCount, ← (length_commentNodesOf parts).2,
        List.length_append]
      split <;> rfl

theorem length_commentNodesOf : (parts : List (Option String × Unfolding)) →
    (commentNodesOf parts).length = commentCountOfItems (Unfolding.orderedItems parts) ∧
      (commentNodesOf parts).length = commentCountOfMembers (Unfolding.orderedMembers parts)
  | [] => ⟨rfl, rfl⟩
  | (key, part) :: rest => by
      have head_eq := length_commentNodes part
      have rest_eq := length_commentNodesOf rest
      rw [commentNodesOf, List.length_append, head_eq]
      exact ⟨congrArg _ rest_eq.1, congrArg _ rest_eq.2⟩

end

theorem commentNodesOf_append (parts others : List (Option String × Unfolding)) :
    commentNodesOf (parts ++ others) = commentNodesOf parts ++ commentNodesOf others := by
  induction parts with
  | nil => rfl
  | cons part rest ih => rw [List.cons_append, commentNodesOf, commentNodesOf, ih, List.append_assoc]

theorem commentCount_headMembers (source : String) (tree : SyntaxNode) (field : Option String) :
    commentCountOfMembers (headMembers source tree field) = 0 := by
  unfold headMembers headTexts
  cases field <;> cases hasNamedChild tree <;> rfl

theorem commentNodesOf_keyed_eq_nil {members : List (String × Unfolding)}
    (hasNone : commentCountOfMembers (Unfolding.documents members) = 0) :
    commentNodesOf (Unfolding.keyed members) = [] := by
  rw [← List.length_eq_zero_iff, (length_commentNodesOf _).2, ← hasNone]
  congr 1
  exact Json.Ordered.object.inj (Unfolding.ordered_object 0 members)

theorem commentCount_strings (texts : List (String × String)) :
    commentCountOfMembers (texts.map (Prod.map id .string)) = 0 := by
  induction texts with
  | nil => rfl
  | cons text rest ih =>
      rw [List.map_cons, commentCountOfMembers, ih]
      rfl

end RepoSurvey.Script
