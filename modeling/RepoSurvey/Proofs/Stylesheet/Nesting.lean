import RepoSurvey.Proofs.Stylesheet.Document

/-!
# Nested blocks

A sheet without faults gives each rule one block.  The list of a block then holds its statements in
document order, and every rule in it holds those of its own block.
-/

namespace RepoSurvey.Stylesheet

open RepoSurvey.Graph

/-- The block of a rule, or the first body of an at-rule. -/
def body? (tree : SyntaxNode) : Option SyntaxNode :=
  match statementKind? tree with
  | some .rule | some .keyframe => tree.namedChildren.find? isBlock
  | some .atRule => tree.children.find? isBody
  | _ => none

theorem body?_mem {tree block : SyntaxNode} (body_eq : body? tree = some block) :
    block ∈ tree.children := by
  unfold body? at body_eq
  split at body_eq
  · exact List.mem_of_mem_filter (List.mem_of_find?_eq_some body_eq)
  · exact List.mem_of_mem_filter (List.mem_of_find?_eq_some body_eq)
  · exact List.mem_of_find?_eq_some body_eq
  · cases body_eq

/-- The document of a statement, which holds those of the statements in its body. Other nodes have
none. -/
def statementDocument? (source : String) (tree : SyntaxNode) : Option Json.Ordered :=
  statementAround source tree <|
    match _ : body? tree with
    | some block =>
        block.namedChildren.attach.filterMap fun child => statementDocument? source child.1
    | none => []
  termination_by tree.size
  decreasing_by
    have block_lt := SyntaxNode.size_lt_of_mem_children (body?_mem (by assumption))
    exact Nat.lt_trans
      (SyntaxNode.size_lt_of_mem_children (List.mem_of_mem_filter child.2)) block_lt

/-- The documents of the statements in a block, in document order. -/
def blockDocuments (source : String) (block : SyntaxNode) : List Json.Ordered :=
  block.namedChildren.filterMap (statementDocument? source)

/-- Without a body there are no statements inside. -/
theorem statementDocument?_eq (source : String) (tree : SyntaxNode) :
    statementDocument? source tree =
      statementAround source tree ((body? tree).toList.flatMap (blockDocuments source)) := by
  rw [statementDocument?]
  split
  · rename_i block body_eq
    have all_eq := List.filterMap_map
      (f := Subtype.val) (l := block.namedChildren.attach) (g := statementDocument? source)
    rw [List.attach_map_subtype_val] at all_eq
    rw [body_eq, Option.toList_some, List.flatMap_singleton, blockDocuments, all_eq]
    rfl
  · rename_i body_eq
    rw [body_eq]
    rfl

/-! ## One block for each rule -/

/-- In a tree no rule has more than one block. -/
def OneBlock (tree : SyntaxNode) : Prop :=
  ∀ node ∈ tree.preorder, node.kind = "rule_set" ∨ node.kind = "keyframe_block" →
    (node.namedChildren.filter isBlock).length ≤ 1

theorem OneBlock.child {tree child : SyntaxNode} (oneBlock : OneBlock tree)
    (isChild : child ∈ tree.children) : OneBlock child :=
  fun node isInside => oneBlock node (SyntaxNode.preorder_subset isChild isInside)

theorem kind_of_statementKind? {tree : SyntaxNode}
    (isRule : statementKind? tree = some .rule ∨ statementKind? tree = some .keyframe) :
    tree.kind = "rule_set" ∨ tree.kind = "keyframe_block" :=
  isRule.imp statementKind?_eq_some_iff.mp statementKind?_eq_some_iff.mp

theorem filter_isBlock_eq {tree : SyntaxNode}
    (atMostOne : (tree.namedChildren.filter isBlock).length ≤ 1) :
    tree.namedChildren.filter isBlock = (tree.namedChildren.find? isBlock).toList := by
  rw [← List.head?_filter]
  match tree.namedChildren.filter isBlock, atMostOne with
  | [], _ => rfl
  | [_], _ => rfl

theorem OneBlock.bodies_eq {tree : SyntaxNode} (oneBlock : OneBlock tree) :
    bodies tree = (body? tree).toList := by
  have atMostOne := oneBlock tree tree.self_mem_preorder
  unfold bodies body?
  cases kind_eq : statementKind? tree with
  | none => rfl
  | some kind =>
      cases kind with
      | rule => exact filter_isBlock_eq (atMostOne (kind_of_statementKind? (.inl kind_eq)))
      | keyframe => exact filter_isBlock_eq (atMostOne (kind_of_statementKind? (.inr kind_eq)))
      | declaration | comment | atRule => rfl

theorem statementDocuments_eq (source : String) :
    (∀ trees, (∀ tree ∈ trees, OneBlock tree) →
      statementDocuments source trees = trees.filterMap (statementDocument? source)) ∧
    ∀ blocks, (∀ block ∈ blocks, OneBlock block) →
      bodyDocuments source blocks = blocks.reverse.flatMap (blockDocuments source) := by
  apply statementDocuments.mutual_induct
  · intro _
    rw [statementDocuments, List.filterMap_nil]
  · intro tree rest insideEq restEq oneBlock
    rw [List.forall_mem_cons] at oneBlock
    have areSound : ∀ block ∈ bodies tree, OneBlock block := by
      intro block isBody
      rw [oneBlock.1.bodies_eq, Option.mem_toList] at isBody
      exact oneBlock.1.child (body?_mem isBody)
    rw [statementDocuments, insideEq areSound, restEq oneBlock.2, oneBlock.1.bodies_eq,
      List.filterMap_cons, statementDocument?_eq source tree]
    -- The order of the bodies does not count: there is one at most.
    have reverse_eq : (body? tree).toList.reverse = (body? tree).toList := by
      cases body? tree <;> rfl
    rw [reverse_eq]
    cases statementAround source tree _ <;> rfl
  · intro _
    rw [bodyDocuments]
    rfl
  · intro block rest restEq blockEq oneBlock
    rw [List.forall_mem_cons] at oneBlock
    have areSound : ∀ child ∈ block.namedChildren, OneBlock child := fun child isChild =>
      oneBlock.1.child (List.mem_of_mem_filter isChild)
    rw [bodyDocuments, restEq oneBlock.2, blockEq areSound, List.reverse_cons, List.flatMap_append,
      List.flatMap_singleton, blockDocuments]

/-- The list of a block holds its statements in document order, each with what its own body holds, and
nothing else. The list and all that is inside it are new, and none of it stands at two places. -/
theorem convertBlock_nests (source : String) (container : SyntaxNode)
    (oneBlock : OneBlock container) (before : Store) :
    let built := (convertBlock source container).run before
    let tree := unfolding built.2 (.container built.1)
    tree.ordered = .array (container.namedChildren.filterMap (statementDocument? source)) ∧
      tree.repeats = [] ∧ (∀ node ∈ tree.nodes, before.size ≤ node) ∧
        Extends before built.2 [] := by
  intro built tree
  have areSound : ∀ child ∈ container.namedChildren, OneBlock child := fun child isChild =>
    oneBlock.child (List.mem_of_mem_filter isChild)
  obtain ⟨isPlain, stands, extended⟩ := (builds_convertBlock source container).unfolds before
  refine ⟨?_, isPlain.repeats_eq, stands.fresh, extended⟩
  rw [← (statementDocuments_eq source).1 _ areSound]
  exact isPlain.ordered_eq

/-! ## Rules in rules, and at-rules -/

/-- The text that the tree `nestedSheet` covers. -/
def nestedSource : String := "a\x7bb\x7bc:d\x7de:f\x7dg\x7b\x7d@i x;@k n\x7bt\x7b\x7d\x7d"

def sheetNode (kind : String) (start stop : Nat) (children : List SyntaxNode) : SyntaxNode :=
  .node { kind, start := ⟨start, 0, start⟩, stop := ⟨stop, 0, stop⟩ } children

def sheetToken (kind : String) (start : Nat) : SyntaxNode :=
  .node { kind, isNamed := false, start := ⟨start, 0, start⟩, stop := ⟨start + 1, 0, start + 1⟩ } []

/-- A declaration of three characters. -/
def shortDeclaration (start : Nat) : SyntaxNode :=
  sheetNode "declaration" start (start + 3)
    [sheetNode "property_name" start (start + 1) [], sheetToken ":" (start + 1),
      sheetNode "plain_value" (start + 2) (start + 3) []]

/-- A rule whose selector is one character. -/
def shortRule (start stop : Nat) (statements : List SyntaxNode) : SyntaxNode :=
  sheetNode "rule_set" start stop
    [sheetNode "selectors" start (start + 1) [],
      sheetNode "block" (start + 1) stop
        (sheetToken "\x7b" (start + 1) :: statements ++ [sheetToken "\x7d" (stop - 1)])]

/-- An at-rule without a body. -/
def shortImport : SyntaxNode :=
  sheetNode "at_rule" 15 20
    [sheetNode "at_keyword" 15 17 [], sheetNode "keyword_query" 18 19 [], sheetToken ";" 19]

def shortFrame : SyntaxNode :=
  sheetNode "keyframe_block" 25 28
    [sheetNode "to" 25 26 [], sheetNode "block" 26 28 [sheetToken "\x7b" 26, sheetToken "\x7d" 27]]

/-- An at-rule with one keyframe in its body. -/
def shortKeyframes : SyntaxNode :=
  sheetNode "keyframes_statement" 20 29
    [sheetNode "at_keyword" 20 22 [], sheetNode "keyframes_name" 23 24 [],
      sheetNode "keyframe_block_list" 24 29
        [sheetToken "\x7b" 24, shortFrame, sheetToken "\x7d" 28]]

/-- A rule with a rule and a declaration in it, an empty rule, and two at-rules. -/
def nestedSheet : SyntaxNode :=
  sheetNode "stylesheet" 0 29
    [shortRule 0 12 [shortRule 2 8 [shortDeclaration 4], shortDeclaration 8], shortRule 12 15 [],
      shortImport, shortKeyframes]

theorem oneBlock_nestedSheet : OneBlock nestedSheet := by
  unfold OneBlock
  decide

def declDocument (prop value : String) : Json.Ordered :=
  .object
    [("type", .string "decl"), ("prop", .string prop), ("value", .string value),
      ("important", .bool false)]

def ruleDocument (selector : String) (nodes : List Json.Ordered) : Json.Ordered :=
  .object [("type", .string "rule"), ("selector", .string selector), ("nodes", .array nodes)]

/-- The members of an at-rule, with its statements if it has a body. -/
def atRuleDocument (name params : String) (nodes : Option (List Json.Ordered)) : Json.Ordered :=
  .object
    ([("type", .string "atrule"), ("name", .string name), ("params", .string params)] ++
      nodes.toList.map fun nodes => ("nodes", .array nodes))

theorem statementDocument?_shortDeclaration (start : Nat) :
    statementDocument? nestedSource (shortDeclaration start) =
      some (declarationDocument nestedSource (shortDeclaration start)) :=
  statementDocument?_eq _ _

theorem statementDocument?_shortRule (start stop : Nat) {statements : List SyntaxNode}
    (areNamed : statements.filter (·.isNamed) = statements) :
    statementDocument? nestedSource (shortRule start stop statements) =
      some (ruleDocument (trim (ruleSelector nestedSource (shortRule start stop statements)))
        (statements.filterMap (statementDocument? nestedSource))) := by
  have named_eq : (sheetToken "\x7b" (start + 1) :: statements ++
      [sheetToken "\x7d" (stop - 1)]).filter (·.isNamed) = statements := by
    rw [List.cons_append, List.filter_cons_of_neg Bool.false_ne_true, List.filter_append, areNamed]
    exact List.append_nil _
  rw [statementDocument?_eq]
  change some (ruleDocument _ (((sheetToken "\x7b" (start + 1) :: statements ++
    [sheetToken "\x7d" (stop - 1)]).filter (·.isNamed)).filterMap _ ++ [])) = _
  rw [named_eq, List.append_nil]

theorem convertBlock_nestedSheet :
    OneBlock nestedSheet ∧
      (let built := (convertBlock nestedSource nestedSheet).run ⟨#[]⟩
      (unfolding built.2 (.container built.1)).ordered = .array
        [ruleDocument "a" [ruleDocument "b" [declDocument "c" "d"], declDocument "e" "f"],
          ruleDocument "g" [], atRuleDocument "i" "x" none,
          atRuleDocument "k" "n" (some [ruleDocument "t" []])]) := by
  have nested := convertBlock_nests nestedSource nestedSheet oneBlock_nestedSheet ⟨#[]⟩
  refine ⟨oneBlock_nestedSheet, nested.1.trans ?_⟩
  have inner : statementDocument? nestedSource (shortRule 2 8 [shortDeclaration 4]) =
      some (ruleDocument "b" [declDocument "c" "d"]) := by
    rw [statementDocument?_shortRule 2 8 rfl]
    simp only [List.filterMap_cons, List.filterMap_nil, statementDocument?_shortDeclaration]
    rfl
  have outer : statementDocument? nestedSource
      (shortRule 0 12 [shortRule 2 8 [shortDeclaration 4], shortDeclaration 8]) =
        some (ruleDocument "a" [ruleDocument "b" [declDocument "c" "d"], declDocument "e" "f"]) := by
    rw [statementDocument?_shortRule 0 12 rfl]
    simp only [List.filterMap_cons, List.filterMap_nil, inner, statementDocument?_shortDeclaration]
    rfl
  have last : statementDocument? nestedSource (shortRule 12 15 []) =
      some (ruleDocument "g" []) := by
    rw [statementDocument?_shortRule 12 15 rfl]
    rfl
  have without : statementDocument? nestedSource shortImport =
      some (atRuleDocument "i" "x" none) := by
    rw [statementDocument?_eq]
    rfl
  have frame : statementDocument? nestedSource shortFrame = some (ruleDocument "t" []) := by
    rw [statementDocument?_eq]
    rfl
  have isAtRule : statementKind? shortKeyframes = some .atRule :=
    statementKind?_eq_some_iff.mpr (.inr (by decide +kernel))
  have within : statementDocument? nestedSource shortKeyframes =
      some (atRuleDocument "k" "n" (some [ruleDocument "t" []])) := by
    rw [statementDocument?_eq, body?, statementAround, isAtRule]
    change some (Json.Ordered.object (atRuleMembers nestedSource shortKeyframes ++
      [("nodes", .array ([shortFrame].filterMap (statementDocument? nestedSource) ++ []))])) = _
    rw [List.filterMap_cons, frame]
    rfl
  change Json.Ordered.array ([shortRule 0 12 [shortRule 2 8 [shortDeclaration 4],
    shortDeclaration 8], shortRule 12 15 [], shortImport, shortKeyframes].filterMap
      (statementDocument? nestedSource)) = _
  simp only [List.filterMap_cons, List.filterMap_nil, outer, last, without, within]

end RepoSurvey.Stylesheet
