import RepoSurvey.Proofs.Markup.Document
import RepoSurvey.Proofs.Text.LetterCase

/-!
# What stands in a markup document

Whatever the syntax tree holds, its document is found node by node: an element holds what its content
becomes, a node of no known kind gives way to what is inside it, and so every text that is not inside a
tag or a leaf comes out once.
-/

namespace RepoSurvey.Markup

open RepoSurvey.Graph Conversion

/-! ## Node by node -/

/-- What is inside an element: its children without its own tags. -/
def inside (tree : SyntaxNode) : List SyntaxNode :=
  tree.namedChildren.filter fun child =>
    !(["start_tag", "self_closing_tag", "end_tag"].contains child.kind)

/-- The documents of a node, one after the other. -/
def nodeDocuments (source : String) (tree : SyntaxNode) : List Json.Ordered :=
  match role tree with
  | .element =>
      let tag := tree.namedChildren.find? (role · = .startTag)
      let children := (inside tree).attach.flatMap fun child => nodeDocuments source child.1
      [.object (elementMembers source tag ++ [("children", .array children)])]
  | .text => [leafDocument "text" (tree.text source)]
  | .comment => [leafDocument "comment" (between "<!--" "-->" (tree.text source))]
  | .doctype =>
      [leafDocument "directive" (trimEnd (· == '>') (trimStart (· == '<') (tree.text source)))]
  | .startTag => [.object (elementMembers source (some tree) ++ [("children", .array [])])]
  | .endTag => []
  | .group => tree.namedChildren.attach.flatMap fun child => nodeDocuments source child.1
  termination_by tree.size
  decreasing_by
    · have isNamed := List.mem_of_mem_filter child.2
      exact SyntaxNode.size_lt_of_mem_children (List.mem_of_mem_filter isNamed)
    · exact SyntaxNode.size_lt_of_mem_children (List.mem_of_mem_filter child.2)

theorem content_eq (tree : SyntaxNode) : content tree = inside tree := by
  refine List.filter_congr fun child _ => ?_
  rw [Bool.eq_iff_iff]
  simp [isStartTag, and_assoc]

theorem innerTrees_eq (tree : SyntaxNode) :
    innerTrees tree =
      match role tree with
      | .element => inside tree
      | .group => tree.namedChildren
      | _ => [] := by
  unfold innerTrees
  rw [isElement_eq, isText_eq, isComment_eq, isDoctype_eq, isStartTag_eq, isEndTag_eq, content_eq]
  cases role tree <;> rfl

theorem nodeDocuments_eq (source : String) (tree : SyntaxNode) :
    nodeDocuments source tree =
      match shape source tree with
      | .beside written => written ++ (innerTrees tree).flatMap (nodeDocuments source)
      | .around members key =>
          [.object (members ++ [(key, .array ((innerTrees tree).flatMap (nodeDocuments source)))])] := by
  have attach_eq (trees : List SyntaxNode) :
      (trees.attach.flatMap fun child => nodeDocuments source child.1) =
        trees.flatMap (nodeDocuments source) := by
    rw [← List.flatMap_map, List.attach_map_subtype_val]
  rw [nodeDocuments, attach_eq, attach_eq, innerTrees_eq]
  unfold shape
  cases role tree <;> rfl

theorem nodeDocuments_of_element {source : String} {tree : SyntaxNode}
    (role_eq : role tree = .element) :
    nodeDocuments source tree =
      [.object (elementMembers source (tree.namedChildren.find? (role · = .startTag)) ++
        [("children", .array ((inside tree).flatMap (nodeDocuments source)))])] := by
  rw [nodeDocuments_eq, innerTrees_eq, shape, role_eq]

theorem nodeDocuments_of_group {source : String} {tree : SyntaxNode}
    (role_eq : role tree = .group) :
    nodeDocuments source tree = tree.namedChildren.flatMap (nodeDocuments source) := by
  rw [nodeDocuments_eq, innerTrees_eq, shape, role_eq]
  rfl

/-- What waits in one list comes out as if each node were written in its place. -/
theorem documents_eq (source : String) (trees : List SyntaxNode) :
    documents (conversion source) (shape source) trees =
      trees.flatMap (nodeDocuments source) := by
  induction trees using documents.induct (conversion source) (shape source) with
  | case1 =>
      rw [documents]
      rfl
  | case2 tree rest written shape_eq innerEq restEq =>
      rw [documents, shape_eq, innerEq, restEq, List.flatMap_cons, nodeDocuments_eq, shape_eq]
      rfl
  | case3 tree rest members key shape_eq innerEq restEq =>
      rw [documents, shape_eq, innerEq, restEq, List.flatMap_cons, nodeDocuments_eq, shape_eq]
      rfl

/-! ## Texts -/

/-- A node and the named nodes inside it that are not below a tag or a leaf, in document order. -/
def reached (tree : SyntaxNode) : List SyntaxNode :=
  tree :: match role tree with
    | .element | .group => tree.namedChildren.attach.flatMap fun child => reached child.1
    | _ => []
  termination_by tree.size
  decreasing_by
    all_goals exact SyntaxNode.size_lt_of_mem_children (List.mem_of_mem_filter child.2)

/-- The texts from a node on, as they stand in the source. -/
def texts (source : String) (tree : SyntaxNode) : List String :=
  ((reached tree).filter (role · = .text)).map (·.text source)

mutual

/-- The data of the texts in a document, in document order. -/
def textsIn : Json.Ordered → List String
  | .object members =>
      match members.lookup "type", members.lookup "data" with
      | some (.string "text"), some (.string data) => [data]
      | _, _ => textsInMembers members
  | .array items => textsInItems items
  | _ => []

def textsInMembers : List (String × Json.Ordered) → List String
  | [] => []
  | (key, item) :: rest => (if key == "children" then textsIn item else []) ++ textsInMembers rest

def textsInItems : List Json.Ordered → List String
  | [] => []
  | item :: rest => textsIn item ++ textsInItems rest

end

theorem textsInItems_eq_flatMap (items : List Json.Ordered) :
    textsInItems items = items.flatMap textsIn := by
  induction items with
  | nil => rfl
  | cons item rest ih => rw [textsInItems, ih, List.flatMap_cons]

theorem textsIn_element (source : String) (tag : Option SyntaxNode) (items : List Json.Ordered) :
    textsIn (.object (elementMembers source tag ++ [("children", .array items)])) =
      items.flatMap textsIn := by
  rw [← textsInItems_eq_flatMap]
  simp [elementMembers, textsIn, textsInMembers]

theorem textsIn_root (items : List Json.Ordered) :
    textsIn (.object [("type", .string "root"), ("children", .array items)]) =
      items.flatMap textsIn := by
  rw [← textsInItems_eq_flatMap]
  simp [textsIn, textsInMembers]

theorem textsIn_leaf (kind data : String) :
    textsIn (leafDocument kind data) = if kind = "text" then [data] else [] := by
  by_cases isText : kind = "text"
  · rw [isText]
    simp [leafDocument, textsIn, List.lookup_cons]
  · simp [leafDocument, textsIn, textsInMembers, isText]

theorem reached_of_open {tree : SyntaxNode} (isOpen : role tree = .element ∨ role tree = .group) :
    reached tree = tree :: tree.namedChildren.flatMap reached := by
  have attach_eq : (tree.namedChildren.attach.flatMap fun child => reached child.1) =
      tree.namedChildren.flatMap reached := by
    rw [← List.flatMap_map, List.attach_map_subtype_val]
  rw [reached, attach_eq]
  rcases isOpen with role_eq | role_eq <;> rw [role_eq]

/-- Nothing inside a tag or a leaf is reached. -/
theorem reached_of_closed {tree : SyntaxNode} (notElement : role tree ≠ .element)
    (notGroup : role tree ≠ .group) : reached tree = [tree] := by
  rw [reached]
  split <;> simp_all

theorem texts_of_open {source : String} {tree : SyntaxNode}
    (isOpen : role tree = .element ∨ role tree = .group) :
    texts source tree = tree.namedChildren.flatMap (texts source) := by
  have notText : decide (role tree = .text) = false := by
    rcases isOpen with role_eq | role_eq <;> rw [role_eq] <;> rfl
  rw [texts, reached_of_open isOpen, List.filter_cons, notText]
  simp only [Bool.false_eq_true, if_false]
  rw [List.filter_flatMap, List.map_flatMap]
  rfl

theorem texts_of_text {source : String} {tree : SyntaxNode} (isText : role tree = .text) :
    texts source tree = [tree.text source] := by
  rw [texts, reached_of_closed (by simp [isText]) (by simp [isText])]
  simp [isText]

theorem texts_of_other {source : String} {tree : SyntaxNode} (notElement : role tree ≠ .element)
    (notGroup : role tree ≠ .group) (notText : role tree ≠ .text) : texts source tree = [] := by
  rw [texts, reached_of_closed notElement notGroup]
  simp [notText]

/-- The tags of an element hold none of its texts. -/
theorem texts_inside (source : String) (tree : SyntaxNode) :
    (inside tree).flatMap (texts source) = tree.namedChildren.flatMap (texts source) := by
  unfold inside
  induction tree.namedChildren with
  | nil => rfl
  | cons child rest ih =>
      rw [List.filter_cons, List.flatMap_cons, ← ih]
      split
      · rw [List.flatMap_cons]
      · rename_i isTag
        have hasNone : texts source child = [] := by
          have role_eq : role child = .startTag ∨ role child = .endTag := by
            unfold role
            split <;> simp_all
          rcases role_eq with role_eq | role_eq <;>
            exact texts_of_other (by simp [role_eq]) (by simp [role_eq]) (by simp [role_eq])
        rw [hasNone, List.nil_append]

/-- Each text comes out once, in document order. -/
theorem textsIn_nodeDocuments (source : String) (tree : SyntaxNode) :
    (nodeDocuments source tree).flatMap textsIn = texts source tree := by
  -- What is inside a node is known by induction, for each child that its document takes in.
  have inner_eq (trees : List SyntaxNode)
      (ih : ∀ child ∈ trees, (nodeDocuments source child).flatMap textsIn = texts source child) :
      (trees.flatMap (nodeDocuments source)).flatMap textsIn = trees.flatMap (texts source) := by
    rw [List.flatMap_assoc]
    exact List.flatMap_congr ih
  induction tree using nodeDocuments.induct source with
  | case1 tree role_eq ih =>
      have inside_eq := inner_eq (inside tree) fun child isIn => ih ⟨child, isIn⟩
      rw [nodeDocuments_of_element role_eq, texts_of_open (.inl role_eq), ← texts_inside,
        ← inside_eq, List.flatMap_singleton, textsIn_element]
  | case2 tree role_eq =>
      rw [nodeDocuments, texts_of_text role_eq]
      simp only [role_eq]
      rw [List.flatMap_singleton, textsIn_leaf, if_pos rfl]
  | case3 tree role_eq =>
      rw [nodeDocuments, texts_of_other (by simp [role_eq]) (by simp [role_eq]) (by simp [role_eq])]
      simp only [role_eq]
      rw [List.flatMap_singleton, textsIn_leaf, if_neg (by decide)]
  | case4 tree role_eq =>
      rw [nodeDocuments, texts_of_other (by simp [role_eq]) (by simp [role_eq]) (by simp [role_eq])]
      simp only [role_eq]
      rw [List.flatMap_singleton, textsIn_leaf, if_neg (by decide)]
  | case5 tree role_eq =>
      rw [nodeDocuments, texts_of_other (by simp [role_eq]) (by simp [role_eq]) (by simp [role_eq])]
      simp only [role_eq]
      rw [List.flatMap_singleton, textsIn_element, List.flatMap_nil]
  | case6 tree role_eq =>
      rw [nodeDocuments, texts_of_other (by simp [role_eq]) (by simp [role_eq]) (by simp [role_eq])]
      simp only [role_eq]
      rw [List.flatMap_nil]
  | case7 tree role_eq ih =>
      have inside_eq := inner_eq tree.namedChildren fun child isIn => ih ⟨child, isIn⟩
      rw [nodeDocuments_of_group role_eq, texts_of_open (.inr role_eq), inside_eq]

theorem flatMap_filter_sublist {α : Type} {test : SyntaxNode → Bool}
    {first second : SyntaxNode → List α} {trees : List SyntaxNode}
    (areSublists : ∀ tree ∈ trees.filter test, (first tree).Sublist (second tree)) :
    ((trees.filter test).flatMap first).Sublist (trees.flatMap second) := by
  induction trees with
  | nil => exact .slnil
  | cons tree rest ih =>
      rw [List.filter_cons] at areSublists ⊢
      rw [List.flatMap_cons]
      split at areSublists
      · rename_i isIn
        rw [List.forall_mem_cons] at areSublists
        rw [if_pos isIn, List.flatMap_cons]
        exact areSublists.1.append (ih areSublists.2)
      · rename_i isOut
        rw [if_neg isOut]
        exact (ih areSublists).trans (List.sublist_append_right _ _)

/-- The nodes that are reached stand in document order. -/
theorem reached_sublist (tree : SyntaxNode) : (reached tree).Sublist tree.preorder := by
  induction tree using reached.induct with
  | case1 tree ih =>
      rw [SyntaxNode.preorder_eq]
      by_cases isOpen : role tree = .element ∨ role tree = .group
      · rw [reached_of_open isOpen]
        exact .cons_cons tree (flatMap_filter_sublist fun child isNamed => ih ⟨child, isNamed⟩)
      · rw [not_or] at isOpen
        rw [reached_of_closed isOpen.1 isOpen.2]
        exact .cons_cons tree (List.nil_sublist _)

/-! ## Attributes -/

/-- The attributes of an element: each name of its tag once, in small letters, where it stands first, with
the value that it has last. -/
structure WrittenAttributes (source : String) (tag : SyntaxNode)
    (written : List (String × String)) : Prop where
  isMember : (elementMembers source (some tag)).lookup "attribs" =
    some (.object (written.map (Prod.map id .string)))
  names_eq : written.map (·.1) = ((namedAttributes source tag).map (attributeName source)).eraseDups
  distinct : (written.map (·.1)).Nodup
  areLower : ∀ name ∈ written.map (·.1), asciiLower name = name
  isLast : ∀ before last after, namedAttributes source tag = before ++ last :: after →
    (∀ other ∈ after, attributeName source other ≠ attributeName source last) →
      written.lookup (attributeName source last) = some (attributeValue source last)

theorem names_elementAttributes (source : String) (tag : SyntaxNode) :
    (elementAttributes source tag).map (·.1) =
      ((namedAttributes source tag).map (attributeName source)).eraseDups := by
  rw [← setMembers_attributes, keys_setMembers, attributes_eq, List.map_map]
  rfl

theorem lookup_elementAttributes (source : String) (tag : SyntaxNode) (name : String) :
    (elementAttributes source tag).lookup name =
      ((namedAttributes source tag).reverse.find? (name == attributeName source ·)).map
        (attributeValue source) := by
  rw [← setMembers_attributes, lookup_setMembers, List.append_nil, attributes_eq, ← List.map_reverse,
    lookup_map_eq_find?]

theorem writtenAttributes (source : String) (tag : SyntaxNode) :
    WrittenAttributes source tag (elementAttributes source tag) where
  isMember := rfl
  names_eq := names_elementAttributes source tag
  distinct := by
    have isEmpty : (([] : List (String × String)).map (·.1)).Nodup := List.nodup_nil
    rw [← setMembers_attributes]
    exact nodup_setMembers isEmpty _
  areLower := by
    intro name isName
    rw [names_elementAttributes, List.mem_eraseDups] at isName
    obtain ⟨node, _, rfl⟩ := List.mem_map.mp isName
    exact asciiLower_asciiLower _
  isLast := by
    intro before last after nodes_eq others
    have notLater : after.reverse.find? (attributeName source last == attributeName source ·) = none := by
      refine List.find?_eq_none.mpr fun other isLater same => ?_
      exact others other (List.mem_reverse.mp isLater) (eq_of_beq same).symm
    rw [lookup_elementAttributes, nodes_eq, List.reverse_append, List.reverse_cons, List.append_assoc,
      List.find?_append, notLater, Option.none_or, List.singleton_append, List.find?_cons,
      beq_self_eq_true, Option.map_some]

/-! ## Documents -/

/-- The document of a syntax tree is built from what its nodes become, one after the other. Each text
that is not below a tag or a leaf stands in it once, in document order, and so does each attribute of a
tag. -/
theorem rootObject_follows_tree (source : String) (root : SyntaxNode) (before : Store) :
    let built := (rootObject source (some root)).run before
    let tree := unfolding built.2 built.1
    let reachedNodes := root.namedChildren.flatMap reached
    (tree.ordered = .object
        [("type", .string "root"),
          ("children", .array (root.namedChildren.flatMap (nodeDocuments source)))] ∧
      tree.repeats = [] ∧ (∀ node ∈ tree.nodes, before.size ≤ node) ∧ Extends before built.2 []) ∧
    (textsIn tree.ordered = (reachedNodes.filter (role · = .text)).map (·.text source) ∧
      reachedNodes.Sublist root.preorder) ∧
    ∀ tag, WrittenAttributes source tag (elementAttributes source tag) := by
  intro built tree reachedNodes
  obtain ⟨isPlain, stands, extended⟩ := (builds_rootObject source (some root)).unfolds before
  have ordered_eq : tree.ordered = .object
      [("type", .string "root"),
        ("children", .array (root.namedChildren.flatMap (nodeDocuments source)))] := by
    rw [isPlain.ordered_eq, rootDocument, documents_eq]
    rfl
  refine ⟨⟨ordered_eq, isPlain.repeats_eq, stands.fresh, extended⟩, ⟨?_, ?_⟩,
    writtenAttributes source⟩
  · have texts_eq : (root.namedChildren.flatMap (nodeDocuments source)).flatMap textsIn =
        root.namedChildren.flatMap (texts source) := by
      rw [List.flatMap_assoc]
      exact List.flatMap_congr fun child _ => textsIn_nodeDocuments source child
    rw [ordered_eq, textsIn_root, texts_eq, List.filter_flatMap, List.map_flatMap]
    rfl
  · rw [SyntaxNode.preorder_eq]
    exact (flatMap_filter_sublist fun child _ => reached_sublist child).cons root

/-! ## A page with errors -/

def pageNode (kind : String) (start stop : Nat) (children : List SyntaxNode) : SyntaxNode :=
  .node { kind, start := ⟨start, 0, start⟩, stop := ⟨stop, 0, stop⟩ } children

def brokenSource : String := "<A b=c D B=\"e\"=f>g<H I>j</k>l"

/-- A tag that sets one attribute twice, names one without a value, and gives a value to no name. -/
def brokenTag : SyntaxNode :=
  pageNode "start_tag" 0 17
    [pageNode "tag_name" 1 2 [],
      pageNode "attribute" 3 6 [pageNode "attribute_name" 3 4 [], pageNode "attribute_value" 5 6 []],
      pageNode "attribute" 7 8 [pageNode "attribute_name" 7 8 []],
      pageNode "attribute" 9 14
        [pageNode "attribute_name" 9 10 [],
          pageNode "quoted_attribute_value" 11 14 [pageNode "attribute_value" 12 13 []]],
      pageNode "attribute" 14 16 [pageNode "attribute_value" 15 16 []]]

def strayTag : SyntaxNode :=
  pageNode "start_tag" 18 23
    [pageNode "tag_name" 19 20 [],
      pageNode "attribute" 21 22 [pageNode "attribute_name" 21 22 []]]

def brokenError : SyntaxNode :=
  pageNode "ERROR" 18 24 [strayTag, pageNode "text" 23 24 []]

/-- An element that is never closed. -/
def brokenElement : SyntaxNode :=
  pageNode "element" 0 28
    [brokenTag, pageNode "text" 17 18 [], brokenError, pageNode "erroneous_end_tag" 24 28 []]

def brokenPage : SyntaxNode := pageNode "fragment" 0 29 [brokenElement, pageNode "text" 28 29 []]

def elementDocument (name : String) (attribs : List (String × String))
    (children : List Json.Ordered) : Json.Ordered :=
  .object
    [("type", .string "element"), ("name", .string name),
      ("attribs", .object (attribs.map (Prod.map id .string))), ("children", .array children)]

theorem elementAttributes_brokenTag :
    elementAttributes brokenSource brokenTag = [("b", "e"), ("d", "")] := by
  have written_eq : attributes brokenSource brokenTag = [("b", "c"), ("d", ""), ("b", "e")] := by
    decide +kernel
  rw [← setMembers_attributes, written_eq]
  decide

theorem nodeDocuments_pageText (start stop : Nat) :
    nodeDocuments brokenSource (pageNode "text" start stop []) =
      [leafDocument "text" (textBetween brokenSource start stop)] := by
  rw [nodeDocuments]
  rfl

theorem nodeDocuments_strayTag :
    nodeDocuments brokenSource strayTag = [elementDocument "h" [("i", "")] []] := by
  have name_eq : elementName brokenSource strayTag = "h" := by decide +kernel
  have attributes_eq : elementAttributes brokenSource strayTag = [("i", "")] := by
    rw [← setMembers_attributes]
    decide +kernel
  rw [nodeDocuments]
  change [Json.Ordered.object (elementMembers brokenSource (some strayTag) ++ _)] = _
  rw [elementMembers, Option.map_some, Option.map_some, name_eq, attributes_eq]
  rfl

theorem rootObject_brokenPage :
    let built := (rootObject brokenSource (some brokenPage)).run ⟨#[]⟩
    let tree := unfolding built.2 built.1
    tree.ordered = .object
        [("type", .string "root"),
          ("children", .array
            [elementDocument "a" [("b", "e"), ("d", "")]
                [leafDocument "text" "g", elementDocument "h" [("i", "")] [],
                  leafDocument "text" "j"],
              leafDocument "text" "l"])] ∧
      tree.repeats = [] ∧ textsIn tree.ordered = ["g", "j", "l"] ∧
      WrittenAttributes brokenSource brokenTag [("b", "e"), ("d", "")] := by
  intro built tree
  obtain ⟨⟨ordered_eq, repeats_eq, _, _⟩, _, attribs⟩ :=
    rootObject_follows_tree brokenSource brokenPage ⟨#[]⟩
  have name_eq : elementName brokenSource brokenTag = "a" := by decide +kernel
  have g_eq : textBetween brokenSource 17 18 = "g" := by decide +kernel
  have j_eq : textBetween brokenSource 23 24 = "j" := by decide +kernel
  have l_eq : textBetween brokenSource 28 29 = "l" := by decide +kernel
  have error_eq : nodeDocuments brokenSource brokenError =
      [elementDocument "h" [("i", "")] [], leafDocument "text" "j"] := by
    rw [nodeDocuments_of_group rfl]
    change nodeDocuments brokenSource strayTag ++
      (nodeDocuments brokenSource (pageNode "text" 23 24 []) ++ []) = _
    rw [nodeDocuments_strayTag, nodeDocuments_pageText, j_eq]
    rfl
  have endTag_eq : nodeDocuments brokenSource (pageNode "erroneous_end_tag" 24 28 []) = [] := by
    rw [nodeDocuments]
    rfl
  have element_eq : nodeDocuments brokenSource brokenElement =
      [elementDocument "a" [("b", "e"), ("d", "")]
        [leafDocument "text" "g", elementDocument "h" [("i", "")] [], leafDocument "text" "j"]] := by
    rw [nodeDocuments_of_element rfl]
    change [Json.Ordered.object (elementMembers brokenSource (some brokenTag) ++
      [("children", .array (nodeDocuments brokenSource (pageNode "text" 17 18 []) ++
        (nodeDocuments brokenSource brokenError ++
          (nodeDocuments brokenSource (pageNode "erroneous_end_tag" 24 28 []) ++ []))))])] = _
    rw [elementMembers, Option.map_some, Option.map_some, name_eq, elementAttributes_brokenTag,
      nodeDocuments_pageText, g_eq, error_eq, endTag_eq]
    rfl
  have children_eq : brokenPage.namedChildren.flatMap (nodeDocuments brokenSource) =
      [elementDocument "a" [("b", "e"), ("d", "")]
          [leafDocument "text" "g", elementDocument "h" [("i", "")] [], leafDocument "text" "j"],
        leafDocument "text" "l"] := by
    change nodeDocuments brokenSource brokenElement ++
      (nodeDocuments brokenSource (pageNode "text" 28 29 []) ++ []) = _
    rw [element_eq, nodeDocuments_pageText, l_eq]
    rfl
  rw [children_eq] at ordered_eq
  have texts_eq : textsIn tree.ordered = ["g", "j", "l"] := by
    rw [ordered_eq]
    rfl
  exact ⟨ordered_eq, repeats_eq, texts_eq, elementAttributes_brokenTag ▸ attribs brokenTag⟩

end RepoSurvey.Markup
