import RepoSurvey.Proofs.Graph.Contents
import RepoSurvey.Proofs.Graph.References
import RepoSurvey.Proofs.Script.File

/-!
# Objects of scripts

What the conversion of a syntax tree leaves in the store, container by container.  Every named node that is
reached through named nodes has an object of its own.  A token has none; all that is left of it is the role
that it sets in the object around it, and nothing inside it is looked at.
-/

namespace RepoSurvey.Script

open RepoSurvey.Graph Unfolding

/-! ## Objects of nodes -/

/-- An object holds the line and the column of a place. -/
def IsPosition (store : Store) (place : Place) (object : NodeId) : Prop :=
  store.container? object = some (.object
    #[("line", .natural (place.row + 1)), ("column", .natural place.column)])

/-- An object holds the positions where a node starts and ends. -/
def IsLocation (store : Store) (tree : SyntaxNode) (object : NodeId) : Prop :=
  ∃ start stop, store.container? object = some (.object
      #[("start", .container start), ("end", .container stop)]) ∧
    IsPosition store tree.label.start start ∧ IsPosition store tree.label.stop stop

/-- The entries of a node before its children: the text is one of them if no child is named. -/
def firstEntries (source : String) (tree : SyntaxNode) (field : Option String)
    (location : NodeId) : List (String × Value) :=
  [("type", .string tree.kind), ("start", .natural tree.startByte),
    ("end", .natural tree.stopByte), ("loc", .container location)] ++
      (headTexts source tree field).map (Prod.map id .string)

/-- The entries that some tokens set, each key once. -/
def roleEntries (source : String) (trees : List SyntaxNode) : List (String × Value) :=
  (setMembers [] (trees.filterMap (role? source))).map (Prod.map id .string)

mutual

/-- An object is what a node with the role `field` becomes. The named nodes `inside` it come with their
objects, in document order. -/
inductive ObjectFor (source : String) (store : Store) :
    Option String → SyntaxNode → NodeId → List (SyntaxNode × NodeId) → Prop
  | closed {field : Option String} {tree : SyntaxNode} {object location : NodeId}
      (isClosed : (tree.isNamed && hasNamedChild tree) = false)
      (isLocation : IsLocation store tree location)
      (found : store.container? object =
        some (.object (firstEntries source tree field location).toArray)) :
      ObjectFor source store field tree object []
  | opened {field : Option String} {tree : SyntaxNode} {object location list : NodeId}
      {objects : List NodeId} {inside : List (SyntaxNode × NodeId)}
      (isOpen : (tree.isNamed && hasNamedChild tree) = true)
      (isLocation : IsLocation store tree location)
      (found : store.container? object = some (.object
        (firstEntries source tree field location ++ ("children", .container list) ::
          roleEntries source tree.children).toArray))
      (listFound : store.container? list = some (.array (objects.map Value.container).toArray))
      (areObjects : ObjectsFor source store tree.children objects inside) :
      ObjectFor source store field tree object inside

/-- The objects of the named nodes among some trees. -/
inductive ObjectsFor (source : String) (store : Store) :
    List SyntaxNode → List NodeId → List (SyntaxNode × NodeId) → Prop
  | nil : ObjectsFor source store [] [] []
  | token {tree : SyntaxNode} {rest : List SyntaxNode} {objects : List NodeId}
      {inside : List (SyntaxNode × NodeId)} (isToken : tree.isNamed = false)
      (areObjects : ObjectsFor source store rest objects inside) :
      ObjectsFor source store (tree :: rest) objects inside
  | named {tree : SyntaxNode} {rest : List SyntaxNode} {object : NodeId} {objects : List NodeId}
      {inside others : List (SyntaxNode × NodeId)} (isNamed : tree.isNamed = true)
      (isObject : ObjectFor source store tree.label.field tree object inside)
      (areObjects : ObjectsFor source store rest objects others) :
      ObjectsFor source store (tree :: rest) (object :: objects)
        ((tree, object) :: (inside ++ others))

end

/-- The objects of the comments among some nodes. -/
def commentObjects (nodes : List (SyntaxNode × NodeId)) : List NodeId :=
  (nodes.filter fun node => node.1.kind == "comment").map (·.2)

theorem commentObjects_append (nodes others : List (SyntaxNode × NodeId)) :
    commentObjects (nodes ++ others) = commentObjects nodes ++ commentObjects others := by
  rw [commentObjects, List.filter_append, List.map_append, commentObjects, commentObjects]

theorem commentObjects_cons (tree : SyntaxNode) (object : NodeId)
    (others : List (SyntaxNode × NodeId)) :
    commentObjects ((tree, object) :: others) =
      (if tree.kind == "comment" then [object] else []) ++ commentObjects others := by
  unfold commentObjects
  rw [List.filter_cons]
  split <;> rfl

/-! ## Reading them off a tree -/

section Present

variable {source : String} {store : Store} {field : Option String}

theorem position_of_present {place : Place} {tree : Unfolding}
    (present : Present store (positionDocument place) tree) :
    ∃ object, tree.value = .container object ∧ IsPosition store place object := by
  obtain ⟨object, members, rfl, found, present⟩ := present.of_object
  obtain ⟨line, members, rfl, isLine, others⟩ := present.cons_cases
  obtain ⟨column, members, rfl, isColumn, noOthers⟩ := others.cons_cases
  obtain rfl := isLine.isPlain.of_number
  obtain rfl := isColumn.isPlain.of_number
  obtain rfl := noOthers.nil_cases
  exact ⟨object, rfl, found⟩

theorem location_of_present {tree : SyntaxNode} {part : Unfolding}
    (present : Present store (.object [("start", positionDocument tree.label.start),
      ("end", positionDocument tree.label.stop)]) part) :
    ∃ object, part.value = .container object ∧ IsLocation store tree object := by
  obtain ⟨object, members, rfl, found, present⟩ := present.of_object
  obtain ⟨start, members, rfl, startPresent, others⟩ := present.cons_cases
  obtain ⟨stop, members, rfl, stopPresent, noOthers⟩ := others.cons_cases
  obtain rfl := noOthers.nil_cases
  obtain ⟨startObject, start_eq, isStart⟩ := position_of_present startPresent
  obtain ⟨stopObject, stop_eq, isStop⟩ := position_of_present stopPresent
  refine ⟨object, rfl, startObject, stopObject, ?_, isStart, isStop⟩
  rw [found, entries, List.map_cons, List.map_cons, List.map_nil, Prod.map_apply, Prod.map_apply,
    start_eq, stop_eq]
  rfl

theorem firstEntries_of_present {tree : SyntaxNode} {members : List (String × Unfolding)}
    (present : MembersPresent store (headMembers source tree field) members) :
    ∃ location, IsLocation store tree location ∧
      entries members = firstEntries source tree field location := by
  obtain ⟨kind, members, rfl, isKind, afterKind⟩ := present.cons_cases
  obtain ⟨start, members, rfl, isStart, afterStart⟩ := afterKind.cons_cases
  obtain ⟨stop, members, rfl, isStop, afterStop⟩ := afterStart.cons_cases
  obtain ⟨part, members, rfl, locationPresent, texts⟩ := afterStop.cons_cases
  obtain rfl := isKind.isPlain.of_string
  obtain rfl := isStart.isPlain.of_number
  obtain rfl := isStop.isPlain.of_number
  obtain rfl := texts.of_texts
  obtain ⟨location, location_eq, isLocation⟩ := location_of_present locationPresent
  refine ⟨location, isLocation, ?_⟩
  rw [entries, List.map_cons, List.map_cons, List.map_cons, List.map_cons, ← entries,
    entries_scalars, Prod.map_apply, Prod.map_apply, Prod.map_apply, Prod.map_apply, location_eq]
  rfl

/-- A node that shows no children. -/
theorem objectFor_closed {tree : SyntaxNode} {shown : Unfolding}
    (isClosed : (tree.isNamed && hasNamedChild tree) = false)
    (present : Present store (.object (headMembers source tree field)) shown) :
    ∃ object parts, shown = .full object .object parts ∧
      ObjectFor source store field tree object [] ∧ commentNodesOf parts = [] := by
  obtain ⟨object, members, rfl, found, present⟩ := present.of_object
  obtain ⟨location, isLocation, entries_eq⟩ := firstEntries_of_present present
  rw [entries_eq] at found
  refine ⟨object, keyed members, rfl, .closed isClosed isLocation found, ?_⟩
  refine commentNodesOf_keyed_eq_nil ?_
  rw [present.documents_eq, commentCount_headMembers]

/-- The members of a node that shows its children. -/
theorem opened_of_present {tree : SyntaxNode} {documents : List Json.Ordered} {shown : Unfolding}
    (present : Present store (.object (headMembers source tree field ++
      ("children", .array documents) :: roleMembers source tree.children)) shown) :
    ∃ object head list trees, shown = .full object .object (keyed
        (openedMembers head list trees (tree.children.filterMap (role? source)))) ∧
      MembersPresent store (headMembers source tree field) head ∧
        store.container? object = some (.object (entries head ++ ("children", .container list) ::
          roleEntries source tree.children).toArray) ∧
          store.container? list = some (.array (trees.map value).toArray) ∧
            List.Forall₂ (Present store) documents trees := by
  obtain ⟨object, members, rfl, found, present⟩ := present.of_object
  obtain ⟨head, others, rfl, headPresent, present⟩ := present.append_cases
  obtain ⟨part, roles, rfl, listPresent, rolesPresent⟩ := present.cons_cases
  obtain ⟨list, trees, rfl, listFound, treesPresent⟩ := listPresent.of_array
  obtain rfl := rolesPresent.of_texts
  refine ⟨object, head, list, trees, rfl, headPresent, ?_, listFound, treesPresent⟩
  exact found.trans (by rw [← openedMembers, entries_openedMembers, roleEntries])

theorem isComment_nodeDocument (source : String) (field : Option String) (tree : SyntaxNode) :
    isComment (nodeDocument source field tree) = (tree.kind == "comment") := by
  rw [nodeDocument_eq]
  exact Bool.true_and _

mutual

/-- The tree of a named node tells the objects of the node and of what is inside it. -/
theorem objectFor_of_present (source : String) (store : Store) : (tree : SyntaxNode) →
    (isNamed : tree.isNamed = true) → {field : Option String} → {shown : Unfolding} →
      Present store (nodeDocument source field tree) shown →
        ∃ object parts inside, shown = .full object .object parts ∧
          ObjectFor source store field tree object inside ∧
            (inside.map (·.2)).Sublist (nodesOf parts) ∧
              commentNodesOf parts = commentObjects inside
  | .node label children, isNamed, field, shown, present => by
      rw [nodeDocument_eq] at present
      cases showsChildren : hasNamedChild (.node label children) with
      | false =>
          rw [showsChildren, if_neg Bool.false_ne_true, List.append_nil] at present
          have isClosed : ((SyntaxNode.node label children).isNamed &&
              hasNamedChild (.node label children)) = false := by
            rw [showsChildren, Bool.and_false]
          obtain ⟨object, parts, rfl, isObject, noComments⟩ := objectFor_closed isClosed present
          exact ⟨object, parts, [], rfl, isObject, List.nil_sublist _, noComments⟩
      | true =>
          rw [showsChildren, if_pos rfl] at present
          obtain ⟨object, head, list, trees, rfl, headPresent, found, listFound, treesPresent⟩ :=
            opened_of_present present
          obtain ⟨location, isLocation, entries_eq⟩ := firstEntries_of_present headPresent
          obtain ⟨objects, inside, values_eq, areObjects, areAmong, comments_eq⟩ :=
            objectsFor_of_present source store children treesPresent
          rw [entries_eq] at found
          rw [values_eq] at listFound
          have isOpen := Bool.and_eq_true_iff.mpr ⟨isNamed, showsChildren⟩
          have isPart : (some "children", Unfolding.full list .array (listed trees)) ∈
              keyed (openedMembers head list trees (children.filterMap (role? source))) := by
            simp [openedMembers, keyed]
          refine ⟨object, _, inside, rfl, .opened isOpen isLocation found listFound areObjects, ?_, ?_⟩
          · refine (areAmong.trans ?_).trans (nodes_sublist isPart)
            rw [nodes_full]
            exact List.sublist_cons_self _ _
          · exact (commentNodesOf_opened headPresent.documents_eq).trans comments_eq

theorem objectsFor_of_present (source : String) (store : Store) : (trees : List SyntaxNode) →
    {shown : List Unfolding} → List.Forall₂ (Present store) (nodeDocuments source trees) shown →
      ∃ objects inside, shown.map value = objects.map Value.container ∧
        ObjectsFor source store trees objects inside ∧
          (inside.map (·.2)).Sublist (nodesOf (listed shown)) ∧
            commentNodesOf (listed shown) = commentObjects inside
  | [], shown, present => by
      rw [nodeDocuments] at present
      cases present
      exact ⟨[], [], rfl, .nil, List.nil_sublist _, rfl⟩
  | tree :: rest, shown, present => by
      rw [nodeDocuments] at present
      cases isNamed : tree.isNamed with
      | false =>
          rw [isNamed, if_neg Bool.false_ne_true, List.nil_append] at present
          obtain ⟨objects, inside, values_eq, areObjects, areAmong, comments_eq⟩ :=
            objectsFor_of_present source store rest present
          exact ⟨objects, inside, values_eq, .token isNamed areObjects, areAmong, comments_eq⟩
      | true =>
          rw [isNamed, if_pos rfl, List.singleton_append] at present
          cases present with
          | @cons _ first _ others firstPresent othersPresent =>
              have firstComment := isComment_nodeDocument source tree.label.field tree
              rw [← firstPresent.isPlain.ordered_eq] at firstComment
              obtain ⟨object, parts, inside, rfl, isObject, areInside, inside_eq⟩ :=
                objectFor_of_present source store tree isNamed firstPresent
              obtain ⟨objects, beside, values_eq, areObjects, areBeside, beside_eq⟩ :=
                objectsFor_of_present source store rest othersPresent
              refine ⟨object :: objects, (tree, object) :: (inside ++ beside),
                congrArg (Value.container object :: ·) values_eq, .named isNamed isObject areObjects,
                ?_, ?_⟩
              · rw [List.map_cons, List.map_append, listed, List.map_cons, nodesOf_cons, nodes_full]
                exact (areInside.append areBeside).cons_cons object
              · rw [listed, List.map_cons, commentNodesOf, commentNodes, firstComment, inside_eq,
                  ← listed, beside_eq, commentObjects_cons, commentObjects_append,
                  List.append_assoc]

end

end Present

/-! ## What the objects hold -/

/-- The text that a node shows for a role: that of the last of its tokens with this role. -/
def roleText? (source : String) (tree : SyntaxNode) (role : String) : Option String :=
  if tree.isNamed && hasNamedChild tree then
    (tree.children.filterMap (role? source)).reverse.lookup role
  else none

section Entries

variable {source : String} {store : Store} {field : Option String} {tree : SyntaxNode}

theorem firstKeys_eq (source : String) (tree : SyntaxNode) (field : Option String)
    (location : NodeId) :
    (firstEntries source tree field location).map (·.1) =
      (headMembers source tree field).map (·.1) := by
  rw [firstEntries, headMembers, List.map_append, List.map_append, List.map_map, List.map_map]
  rfl

/-- The keys of a node before the roles are reserved, and they are different. -/
theorem firstKeys_sublist (source : String) (tree : SyntaxNode) (field : Option String)
    (location : NodeId) :
    ((firstEntries source tree field location).map (·.1) ++ ["children"]).Sublist
      reservedKeys := by
  rw [firstKeys_eq]
  exact headKeys_sublist source tree field

/-- No role takes a reserved key. -/
theorem role_notMem_of_entry {source : String} {trees : List SyntaxNode} {key : String}
    (isRole : key ∈ (roleEntries source trees).map (·.1)) : key ∉ reservedKeys := by
  rw [roleEntries, List.map_map] at isRole
  obtain ⟨role, isSet, rfl⟩ := List.mem_map.mp isRole
  obtain ⟨child, _, isRole⟩ := List.mem_filterMap.mp ((setMembers_subperm [] _).subset isSet)
  exact role_notMem_reservedKeys isRole

theorem nodup_roleKeys (source : String) (trees : List SyntaxNode) :
    ((roleEntries source trees).map (·.1)).Nodup := by
  have noKeys : (([] : List (String × String)).map (·.1)).Nodup := List.nodup_nil
  rw [roleEntries, List.map_map]
  exact nodup_setMembers noKeys _

theorem lookup_roleEntries (source : String) (trees : List SyntaxNode) (role : String) :
    (roleEntries source trees).lookup role =
      ((trees.filterMap (role? source)).reverse.lookup role).map Value.string := by
  rw [roleEntries, lookup_map, lookup_setMembers, List.append_nil]

theorem lookup_firstEntries {key : String} (isFree : key ∉ reservedKeys) (source : String)
    (tree : SyntaxNode) (field : Option String) (location : NodeId) :
    (firstEntries source tree field location).lookup key = none :=
  lookup_eq_none_of_notMem fun isFirst => isFree
    ((firstKeys_sublist source tree field location).subset (List.mem_append_left _ isFirst))

theorem entries_of_found {object : NodeId} {entries : List (String × Value)}
    (found : store.container? object = some (.object entries.toArray)) :
    store.entries object = entries := by
  rw [Store.entries, found]

namespace ObjectFor

variable {object : NodeId} {inside : List (SyntaxNode × NodeId)}

/-- No entry of an object has taken the place of another one. -/
theorem nodup_keys (isObject : ObjectFor source store field tree object inside) :
    (store.keys object).Nodup := by
  have areReserved : reservedKeys.Nodup := by decide
  cases isObject with
  | @closed _ _ _ location _ _ found =>
      rw [Store.keys, entries_of_found found, firstKeys_eq]
      exact headKeys_nodup source tree field
  | @opened _ _ _ location list objects _ _ _ found =>
      rw [Store.keys, entries_of_found found, List.append_cons, List.map_append, List.map_append]
      refine List.nodup_append.mpr
        ⟨areReserved.sublist (firstKeys_sublist source tree field location),
          nodup_roleKeys source tree.children, ?_⟩
      rintro key isFirst other isRole rfl
      exact role_notMem_of_entry isRole
        ((firstKeys_sublist source tree field location).subset isFirst)

theorem entry?_role (isObject : ObjectFor source store field tree object inside) {role : String}
    (isFree : role ∉ reservedKeys) :
    store.entry? object role = (roleText? source tree role).map Value.string := by
  cases isObject with
  | @closed _ _ _ location isClosed _ found =>
      rw [Store.entry?, entries_of_found found, lookup_firstEntries isFree, roleText?, isClosed]
      rfl
  | @opened _ _ _ location list objects _ isOpen _ found =>
      have notChildren : role ≠ "children" := by
        rintro rfl
        exact isFree (by decide)
      rw [Store.entry?, entries_of_found found, List.lookup_append, lookup_firstEntries isFree,
        Option.none_or, List.lookup_cons, beq_eq_false_iff_ne.mpr notChildren, roleText?, isOpen,
        if_pos rfl]
      exact lookup_roleEntries source tree.children role

end ObjectFor

mutual

/-- The objects inside an object are those of their own nodes. -/
theorem ObjectFor.of_mem : {field : Option String} → {tree : SyntaxNode} → {object : NodeId} →
    {inside : List (SyntaxNode × NodeId)} → ObjectFor source store field tree object inside →
      ∀ node ∈ inside, ∃ within, ObjectFor source store node.1.label.field node.1 node.2 within
  | _, _, _, _, .closed _ _ _ => List.forall_mem_nil _
  | _, _, _, _, .opened _ _ _ _ areObjects => areObjects.of_mem

theorem ObjectsFor.of_mem : {trees : List SyntaxNode} → {objects : List NodeId} →
    {inside : List (SyntaxNode × NodeId)} → ObjectsFor source store trees objects inside →
      ∀ node ∈ inside, ∃ within, ObjectFor source store node.1.label.field node.1 node.2 within
  | _, _, _, .nil => List.forall_mem_nil _
  | _, _, _, .token _ areObjects => areObjects.of_mem
  | _, _, _, .named _ isObject areObjects =>
      List.forall_mem_cons.mpr
        ⟨⟨_, isObject⟩, List.forall_mem_append.mpr ⟨isObject.of_mem, areObjects.of_mem⟩⟩

end

end Entries

/-! ## Whole trees -/

/-- The tree of a root, named or not, tells its object. -/
theorem objectFor_root {source : String} {store : Store} {root : SyntaxNode} {object : NodeId}
    {parts : List (Option String × Unfolding)}
    (present : Present store (programDocument source root) (.full object .object parts)) :
    ∃ inside, ObjectFor source store none root object inside ∧
      (inside.map (·.2)).Sublist (nodesOf parts) ∧ commentNodesOf parts = commentObjects inside := by
  unfold programDocument at present
  cases isNamed : root.isNamed with
  | true =>
      rw [isNamed, if_pos rfl] at present
      obtain ⟨_, _, inside, shown_eq, isObject⟩ :=
        objectFor_of_present source store root isNamed present
      cases shown_eq
      exact ⟨inside, isObject⟩
  | false =>
      rw [isNamed, if_neg Bool.false_ne_true] at present
      have isClosed : (root.isNamed && hasNamedChild root) = false := by
        rw [isNamed, Bool.false_and]
      obtain ⟨_, _, shown_eq, isObject, noComments⟩ := objectFor_closed isClosed present
      cases shown_eq
      exact ⟨[], isObject, List.nil_sublist _, noComments⟩

/-- The walk over a tree ends, and leaves what plain recursion over the tree describes: an object for every
named node that is reached through named nodes, all of them new and different, and a list of those among
them that are comments.  Each object has the entries of its node and no key twice; of the tokens with the
same role the last one counts. -/
theorem convertTree_objects (source : String) (root : SyntaxNode) (before : Store) :
    ∃ object inside after,
      (convertTree source root).run before = ((object, before.size), after) ∧
        ObjectFor source after none root object inside ∧
          after.container? before.size =
            some (.array ((commentObjects inside).map Value.container).toArray) ∧
            Extends before after [] ∧
              (before.size :: object :: inside.map (·.2)).Nodup ∧
                (∀ node ∈ object :: inside.map (·.2), before.size < node) ∧
                  (unfolding after (.container object)).repeats = [] ∧
                    ∀ node ∈ (root, object) :: inside,
                      (after.keys node.2).Nodup ∧
                        ∀ role, role ∉ reservedKeys →
                          after.entry? node.2 role =
                            (roleText? source node.1 role).map Value.string := by
  obtain ⟨object, parts, after, runs, filling, commentsFound, extended, isPlain⟩ :=
    convertTree_runs source root before
  have stands := filling.stands
  obtain ⟨inside, isObject, areAmong, comments_eq⟩ := objectFor_root ⟨stands.fits, isPlain⟩
  have unfolding_eq : unfolding after (.container object) = .full object .object parts :=
    stands.unfolding_eq
  have areNodes : (object :: inside.map (·.2)).Sublist (Unfolding.full object .object parts).nodes := by
    rw [nodes_full]
    exact areAmong.cons_cons object
  have areNew : ∀ node ∈ object :: inside.map (·.2), before.size < node :=
    fun node isNode => stands.fresh node (areNodes.subset isNode)
  have areDifferent := nodup_nodes_unfolding after (.container object)
  rw [unfolding_eq] at areDifferent
  rw [comments_eq] at commentsFound
  refine ⟨object, inside, after, runs, isObject, commentsFound, extended, ?_, areNew, ?_, ?_⟩
  · refine List.nodup_cons.mpr ⟨fun isNode => ?_, areDifferent.sublist areNodes⟩
    exact Nat.lt_irrefl _ (areNew _ isNode)
  · rw [unfolding_eq]
    exact isPlain.repeats_eq
  · refine List.forall_mem_cons.mpr
      ⟨⟨isObject.nodup_keys, fun _ => isObject.entry?_role⟩, fun node isNode => ?_⟩
    obtain ⟨within, isInner⟩ := isObject.of_mem node isNode
    exact ⟨isInner.nodup_keys, fun _ => isInner.entry?_role⟩

end RepoSurvey.Script
