import RepoSurvey.Proofs.Script.Nodes

/-!
# What the conversion of a script builds

The nodes whose children are being converted are kept in a list, the innermost first, each with the trees
that are left inside it.  What is built is what plain recursion over the tree writes down, and the comments
of the tree are listed in document order.
-/

namespace RepoSurvey.Script

open RepoSurvey.Graph Unfolding

/-! ## Parts of the conversion -/

/-- Lists an object among the children, and among the comments if it is one. -/
def announce (comments children : NodeId) (isComment : Bool) (object : NodeId) : Build Unit := do
  if isComment then Build.push comments (.container object)
  Build.push children (.container object)

/-- Makes the object of a node. -/
def addNode (source : String) (comments children : NodeId) (tree : SyntaxNode) : Build NodeId := do
  let object ← nodeObject source tree tree.label.field
  announce comments children (tree.kind == "comment") object
  return object

/-- Gives a node a list for what is inside it. -/
def openNode (object : NodeId) : Build NodeId := do
  let inner ← Build.newArray
  Build.insert object "children" (.container inner)
  return inner

/-- Sets the role of a token. -/
def setRole (source : String) (parent : NodeId) (tree : SyntaxNode) : Build Unit :=
  match role? source tree with
  | some (role, text) => Build.insert parent role (.string text)
  | none => pure ()

/-! ## Scopes -/

/-- A node whose children are being converted. -/
structure Scope where
  parent : NodeId
  /-- The list of its converted children. -/
  children : NodeId
  rest : List SyntaxNode

/-- Twice the nodes that are left, and the scopes that have to be left. -/
def workload : List Scope → Nat
  | [] => 0
  | scope :: outer => 2 * SyntaxNode.sizeOfList scope.rest + 1 + workload outer

/-- Converts what is left in the open scopes, the innermost first. -/
def convertScopes (source : String) (comments : NodeId) : List Scope → Build Unit
  | [] => pure ()
  | ⟨_, _, []⟩ :: outer => convertScopes source comments outer
  | ⟨parent, children, tree :: rest⟩ :: outer => do
      if tree.isNamed then
        let object ← addNode source comments children tree
        if hasNamedChild tree then
          let inner ← openNode object
          convertScopes source comments
            (⟨object, inner, tree.children⟩ :: ⟨parent, children, rest⟩ :: outer)
        else convertScopes source comments (⟨parent, children, rest⟩ :: outer)
      else
        setRole source parent tree
        convertScopes source comments (⟨parent, children, rest⟩ :: outer)
  termination_by scopes => workload scopes
  decreasing_by
    · simp [workload]
    all_goals
      simp only [workload, SyntaxNode.sizeOfList, SyntaxNode.size_eq tree]
      omega

/-! ## Plain recursion -/

/-- Converts a named node with all that is inside it. -/
def convertNode (source : String) (comments children : NodeId) (tree : SyntaxNode) :
    Build Unit := do
  let object ← addNode source comments children tree
  if hasNamedChild tree then
    let inner ← openNode object
    convertScopes source comments [⟨object, inner, tree.children⟩]

section Recursion

variable {source : String} {comments parent children : NodeId} {tree : SyntaxNode}
  {rest : List SyntaxNode}

theorem convertScopes_named (isNamed : tree.isNamed) (outer : List Scope) :
    convertScopes source comments (⟨parent, children, tree :: rest⟩ :: outer) = (do
      let object ← addNode source comments children tree
      if hasNamedChild tree then
        let inner ← openNode object
        convertScopes source comments
          (⟨object, inner, tree.children⟩ :: ⟨parent, children, rest⟩ :: outer)
      else convertScopes source comments (⟨parent, children, rest⟩ :: outer)) := by
  rw [convertScopes, if_pos isNamed]

theorem convertScopes_token (isToken : ¬tree.isNamed) (outer : List Scope) :
    convertScopes source comments (⟨parent, children, tree :: rest⟩ :: outer) = (do
      setRole source parent tree
      convertScopes source comments (⟨parent, children, rest⟩ :: outer)) := by
  rw [convertScopes, if_neg isToken]

/-- What waits outside is converted when all that is left inside is done. -/
theorem convertScopes_append (inside outside : List Scope) :
    convertScopes source comments (inside ++ outside) = (do
      convertScopes source comments inside
      convertScopes source comments outside) := by
  induction inside using convertScopes.induct with
  | case1 => rw [List.nil_append, convertScopes, pure_bind]
  | case2 parent children outer ih => rw [List.cons_append, convertScopes, convertScopes, ih]
  | case3 parent children tree rest outer isNamed ihInner ihRest =>
      rw [List.cons_append, convertScopes_named isNamed, convertScopes_named isNamed, bind_assoc]
      refine congrArg _ (funext fun object => ?_)
      cases hasNamedChild tree with
      | false => exact ihRest
      | true =>
          rw [if_pos rfl, if_pos rfl, bind_assoc]
          exact congrArg _ (funext fun inner => ihInner object inner)
  | case4 parent children tree rest outer isToken ih =>
      rw [List.cons_append, convertScopes_token isToken, convertScopes_token isToken, bind_assoc]
      exact congrArg _ (funext fun _ => ih)

theorem convertScopes_node (isNamed : tree.isNamed) :
    convertScopes source comments [⟨parent, children, tree :: rest⟩] = (do
      convertNode source comments children tree
      convertScopes source comments [⟨parent, children, rest⟩]) := by
  rw [convertScopes_named isNamed, convertNode, bind_assoc]
  refine congrArg _ (funext fun object => ?_)
  cases hasNamedChild tree with
  | false => rfl
  | true =>
      rw [if_pos rfl, if_pos rfl, bind_assoc]
      exact congrArg _ (funext fun inner =>
        convertScopes_append [⟨object, inner, tree.children⟩] [⟨parent, children, rest⟩])

end Recursion

/-! ## What is received -/

/-- The containers that receive what is converted. -/
structure Targets where
  parent : NodeId
  children : NodeId
  comments : NodeId

def Targets.nodes (targets : Targets) : List NodeId :=
  [targets.parent, targets.children, targets.comments]

/-- What the targets hold in a store. -/
structure Holds (store : Store) (targets : Targets) (entries : List (String × Value))
    (items : List Value) (marks : List NodeId) : Prop where
  parent : store.container? targets.parent = some (.object entries.toArray)
  children : store.container? targets.children = some (.array items.toArray)
  comments : store.container? targets.comments =
    some (.array (marks.map Value.container).toArray)
  differ : targets.children ≠ targets.comments

namespace Holds

variable {store after : Store} {targets : Targets} {entries : List (String × Value)}
  {items : List Value} {marks : List NodeId}

theorem lt_size (holds : Holds store targets entries items marks) :
    ∀ node ∈ targets.nodes, node < store.size := by
  intro node isTarget
  rcases List.mem_cons.mp isTarget with rfl | isList
  · exact lt_size_of_container? holds.parent
  rcases List.mem_cons.mp isList with rfl | isComments
  · exact lt_size_of_container? holds.children
  · rw [List.mem_singleton.mp isComments]
    exact lt_size_of_container? holds.comments

theorem children_ne_parent (holds : Holds store targets entries items marks) :
    targets.children ≠ targets.parent := by
  intro same
  have found := holds.children
  rw [same, holds.parent] at found
  cases found

theorem comments_ne_parent (holds : Holds store targets entries items marks) :
    targets.comments ≠ targets.parent := by
  intro same
  have found := holds.comments
  rw [same, holds.parent] at found
  cases found

theorem later (holds : Holds store targets entries items marks)
    (extended : Extends store after []) : Holds after targets entries items marks := by
  have kept : ∀ node ∈ targets.nodes, after.container? node = store.container? node :=
    fun node isTarget => extended.kept node (holds.lt_size node isTarget) List.not_mem_nil
  refine ⟨?_, ?_, ?_, holds.differ⟩
  · rw [kept _ (by simp [Targets.nodes]), holds.parent]
  · rw [kept _ (by simp [Targets.nodes]), holds.children]
  · rw [kept _ (by simp [Targets.nodes]), holds.comments]

theorem insert (holds : Holds store targets entries items marks) (key : String) (value : Value) :
    Holds ((Build.insert targets.parent key value).run store).2 targets
      (setMember key value entries) items marks where
  parent := Build.container?_insert holds.parent key value
  children := by
    rw [Build.run_insert, Store.container?_update_of_ne _ holds.children_ne_parent, holds.children]
  comments := by
    rw [Build.run_insert, Store.container?_update_of_ne _ holds.comments_ne_parent, holds.comments]
  differ := holds.differ

theorem pushChild (holds : Holds store targets entries items marks) (value : Value) :
    Holds ((Build.push targets.children value).run store).2 targets entries (items ++ [value])
      marks where
  parent := by
    rw [Build.run_push, Store.container?_update_of_ne _ holds.children_ne_parent.symm,
      holds.parent]
  children := Build.container?_push holds.children value
  comments := by
    rw [Build.run_push, Store.container?_update_of_ne _ holds.differ.symm, holds.comments]
  differ := holds.differ

theorem pushComment (holds : Holds store targets entries items marks) (node : NodeId) :
    Holds ((Build.push targets.comments (.container node)).run store).2 targets entries items
      (marks ++ [node]) where
  parent := by
    rw [Build.run_push, Store.container?_update_of_ne _ holds.comments_ne_parent.symm,
      holds.parent]
  children := by
    rw [Build.run_push, Store.container?_update_of_ne _ holds.differ, holds.children]
  comments := by
    rw [Build.container?_push holds.comments, List.map_append]
    rfl
  differ := holds.differ

/-- While another object is filled, the list of comments may become longer. -/
theorem more {others : List NodeId} {object : NodeId}
    (holds : Holds store targets entries items marks)
    (extended : Extends store after [object, targets.comments])
    (areOther : ∀ node ∈ targets.nodes, node ≠ object)
    (commentsFound : after.container? targets.comments =
      some (.array (others.map Value.container).toArray)) :
    Holds after targets entries items others where
  parent := by
    have differs := areOther targets.parent (by simp [Targets.nodes])
    rw [extended.kept _ (holds.lt_size _ (by simp [Targets.nodes]))
      (by simp [differs, holds.comments_ne_parent.symm]), holds.parent]
  children := by
    have differs := areOther targets.children (by simp [Targets.nodes])
    rw [extended.kept _ (holds.lt_size _ (by simp [Targets.nodes]))
      (by simp [differs, holds.differ]), holds.children]
  comments := commentsFound
  differ := holds.differ

theorem announce (holds : Holds store targets entries items marks) (isComment : Bool)
    (object : NodeId) :
    Holds ((Script.announce targets.comments targets.children isComment object).run store).2
        targets entries (items ++ [.container object])
        (marks ++ if isComment then [object] else []) ∧
      Extends store
        ((Script.announce targets.comments targets.children isComment object).run store).2
        targets.nodes := by
  have areTargets : [targets.children] ⊆ targets.nodes := by simp [Targets.nodes]
  cases isComment with
  | false =>
      refine ⟨?_, (Build.extends_push _ _).mono areTargets⟩
      rw [if_neg Bool.false_ne_true, List.append_nil]
      exact holds.pushChild (.container object)
  | true =>
      refine ⟨(holds.pushComment object).pushChild (.container object), ?_⟩
      have commented : Extends store
          ((Build.push targets.comments (.container object)).run store).2 targets.nodes :=
        (Build.extends_push _ _).mono (by simp [Targets.nodes])
      exact commented.trans (Build.extends_push _ _) fun node isTarget _ => areTargets isTarget

end Holds

/-- The targets have received the roles of tokens, and trees with all their comments. -/
structure Received (before after : Store) (targets : Targets) (entries : List (String × Value))
    (items : List Value) (marks : List NodeId) (roles : List (String × String))
    (trees : List Unfolding) : Prop where
  holds : Holds after targets (setMembers entries (roles.map (Prod.map id .string)))
    (items ++ trees.map value) (marks ++ commentNodesOf (listed trees))
  extended : Extends before after targets.nodes
  standApart : StandApart after before.size (listed trees)

/-- Whatever the targets hold, an action sets these roles and adds plain trees with these documents. -/
def Converts (action : Build Unit) (targets : Targets) (roles : List (String × String))
    (written : List Json.Ordered) : Prop :=
  ∀ before entries items marks, Holds before targets entries items marks →
    ∃ trees, Received before (action.run before).2 targets entries items marks roles trees ∧
      trees.map ordered = written ∧ repeatsOf (listed trees) = []

namespace Converts

variable {targets : Targets} {roles others : List (String × String)}
  {written rest : List Json.Ordered}

theorem nil : Converts (pure ()) targets [] [] := by
  intro before entries items marks holds
  refine ⟨[], ⟨?_, .refl before _, .nil⟩, rfl, repeatsOf_nil⟩
  change Holds before targets _ _ _
  simpa [listed, commentNodesOf, setMembers] using holds

theorem append {first second : Build Unit} (converts : Converts first targets roles written)
    (convertsOthers : Converts second targets others rest) :
    Converts (do first; second) targets (roles ++ others) (written ++ rest) := by
  intro before entries items marks holds
  obtain ⟨trees, received, rfl, areWhole⟩ := converts before entries items marks holds
  obtain ⟨otherTrees, othersReceived, rfl, othersWhole⟩ := convertsOthers _ _ _ _ received.holds
  refine ⟨trees ++ otherTrees, ⟨?_, ?_, ?_⟩, List.map_append, ?_⟩
  · have holdsAll := othersReceived.holds
    rw [← setMembers_append, ← List.map_append, List.append_assoc, ← List.map_append,
      List.append_assoc, ← commentNodesOf_append, listed, listed, ← List.map_append] at holdsAll
    exact holdsAll
  · exact received.extended.trans othersReceived.extended fun node isTarget _ => isTarget
  · have firstApart := received.standApart.later_of_lt othersReceived.extended holds.lt_size
    rw [listed, List.map_append]
    exact firstApart.append othersReceived.standApart received.extended.size_le
      fun node isIn => received.standApart.lt_size isIn
  · rw [listed, List.map_append, ← listed, ← listed, repeatsOf_append, areWhole, othersWhole]
    rfl

theorem setRole {source : String} {tree : SyntaxNode} :
    Converts (setRole source targets.parent tree) targets (role? source tree).toList [] := by
  unfold Script.setRole
  cases role? source tree with
  | none => exact nil
  | some role =>
      intro before entries items marks holds
      have extended : Extends before
          ((Build.insert targets.parent role.1 (.string role.2)).run before).2 targets.nodes :=
        (Build.extends_insert _ _ _).mono (by simp [Targets.nodes])
      refine ⟨[], ⟨?_, extended, .nil⟩, rfl, repeatsOf_nil⟩
      simpa [listed, commentNodesOf, setMembers] using holds.insert role.1 (.string role.2)

end Converts

/-- The object of a node and the members it has before its children. -/
theorem addNode_adds {source : String} (tree : SyntaxNode) {before : Store} {targets : Targets}
    {entries : List (String × Value)} {items : List Value} {marks : List NodeId}
    (holds : Holds before targets entries items marks) :
    ∃ object members after,
      (addNode source targets.comments targets.children tree).run before = (object, after) ∧
        Holds after targets entries (items ++ [.container object])
          (marks ++ if tree.kind == "comment" then [object] else []) ∧
          Extends before after targets.nodes ∧
            Filling after before.size object .object (keyed members) ∧
              documents members = headMembers source tree tree.label.field ∧
                repeatsOf (keyed members) = [] := by
  have isFilling := fillingPlain_nodeObject source tree tree.label.field before
  obtain ⟨members, extended, filling, documents_eq, areWhole⟩ := isFilling
  obtain ⟨holdsAfter, announced⟩ := (holds.later extended).announce (tree.kind == "comment")
    ((nodeObject source tree tree.label.field).run before).1
  refine ⟨_, members, _, rfl, holdsAfter, ?_, filling.later announced holds.lt_size,
    documents_eq, areWhole⟩
  exact (extended.mono (by simp)).trans announced fun node isTarget _ => isTarget

/-- The members of a node that shows what is inside it. -/
def openedMembers (members : List (String × Unfolding)) (inner : NodeId) (trees : List Unfolding)
    (roles : List (String × String)) : List (String × Unfolding) :=
  members ++ ("children", .full inner .array (listed trees)) ::
    scalars ((setMembers [] roles).map (Prod.map id .string))

theorem entries_openedMembers (members : List (String × Unfolding)) (inner : NodeId)
    (trees : List Unfolding) (roles : List (String × String)) :
    entries (openedMembers members inner trees roles) =
      entries members ++ ("children", .container inner) ::
        (setMembers [] roles).map (Prod.map id .string) := by
  rw [openedMembers, entries, List.map_append, List.map_cons, ← entries, ← entries,
    entries_scalars]
  rfl

theorem documents_openedMembers (members : List (String × Unfolding)) (inner : NodeId)
    (trees : List Unfolding) (roles : List (String × String)) :
    documents (openedMembers members inner trees roles) =
      documents members ++ ("children", .array (trees.map ordered)) ::
        (setMembers [] roles).map (Prod.map id .string) := by
  rw [openedMembers, documents, List.map_append, List.map_cons, ← documents, ← documents,
    documents_scalars, List.map_map, ← ordered_array inner trees]
  rfl

theorem openNode_holds {store : Store} {low : Nat} {object comments : NodeId}
    {members : List (String × Unfolding)} {marks : List NodeId}
    (filling : Filling store low object .object (keyed members))
    (isNew : "children" ∉ members.map (·.1))
    (isListed : store.container? comments = some (.array (marks.map Value.container).toArray))
    (isOlder : comments < low) :
    ((openNode object).run store).1 = store.size ∧
      ((openNode object).run store).2.size = store.size + 1 ∧
        Extends store ((openNode object).run store).2 [object] ∧
          Holds ((openNode object).run store).2 ⟨object, store.size, comments⟩
            (entries members ++ [("children", .container store.size)]) [] marks := by
  have isOld : object < store.size := filling.lt_size
  have listed_lt : comments < store.size := lt_size_of_container? isListed
  have made : Extends store (store.add (.array #[])).2 [] := .add store _
  have runs : (openNode object).run store = (store.size,
      ((Build.insert object "children" (.container store.size)).run
        (store.add (.array #[])).2).2) := rfl
  obtain ⟨container, found, isObject, parts_eq⟩ := filling.found
  rw [eq_object_of_parts isObject parts_eq] at found
  have isEntry : "children" ∉ (entries members).map (·.1) := by
    rw [entries, List.map_map]
    exact isNew
  rw [runs]
  refine ⟨rfl, ?_, ?_, ?_, ?_, ?_, ?_⟩
  · rw [Build.run_insert, Store.size_update, Store.size_add]
  · exact (made.mono (by simp)).trans (.update _ object _) fun node isTouched _ => isTouched
  · have stillFound : (store.add (.array #[])).2.container? object =
        some (.object (entries members).toArray) := by
      rw [made.kept object isOld List.not_mem_nil, found]
    rw [Build.container?_insert stillFound, setMember_of_new isEntry]
  · rw [Build.run_insert, Store.container?_update_of_ne _ (Nat.ne_of_gt isOld),
      Store.container?_add_new]
  · have differs : comments ≠ object := Nat.ne_of_lt (Nat.lt_of_lt_of_le isOlder filling.isNew)
    rw [Build.run_insert, Store.container?_update_of_ne _ differs,
      made.kept comments listed_lt List.not_mem_nil, isListed]
  · exact Nat.ne_of_gt listed_lt

/-- A node whose list is filled is a whole object again. -/
theorem Received.filling {store opened after : Store} {low : Nat} {object comments : NodeId}
    {members : List (String × Unfolding)} {marks : List NodeId} {roles : List (String × String)}
    {trees : List Unfolding} (filling : Filling store low object .object (keyed members))
    (size_eq : opened.size = store.size + 1) (extended : Extends store after [object, comments])
    (isOlder : comments < low)
    (areNew : ∀ role ∈ roles, role.1 ∉ members.map (·.1) ++ ["children"])
    (received : Received opened after ⟨object, store.size, comments⟩
      (entries members ++ [("children", .container store.size)]) [] marks roles trees) :
    Filling after low object .object (keyed (openedMembers members store.size trees roles)) := by
  have isOld : object < store.size := filling.lt_size
  have opened_lt : store.size < opened.size := size_eq ▸ Nat.lt_succ_self _
  -- Only the object and the list of comments are touched, and neither is inside a member.
  have membersApart : StandApart after low (keyed members) := by
    refine filling.standApart.later extended fun node isTouched isIn => ?_
    rcases List.mem_cons.mp isTouched with rfl | isComments
    · exact filling.notInside isIn
    · rw [List.mem_singleton.mp isComments] at isIn
      exact absurd (filling.standApart.fresh isIn) (Nat.not_le.mpr isOlder)
  have listStands : Stands after store.size (.full store.size .array (listed trees)) := by
    refine (received.standApart.lower (Nat.le_of_lt opened_lt)).full received.holds.children ?_
      (Nat.le_refl _) fun isIn => ?_
    · rw [Container.parts, List.toList_toArray, values_listed, List.nil_append]
    · exact absurd (received.standApart.fresh isIn) (Nat.not_le.mpr opened_lt)
  have addedApart : StandApart after store.size (keyed
      (("children", .full store.size .array (listed trees)) ::
        scalars ((setMembers [] roles).map (Prod.map id .string)))) := by
    have listApart : StandApart after store.size
        (keyed [("children", .full store.size .array (listed trees))]) := .singleton listStands
    have rolesApart : StandApart after after.size
        (keyed (scalars ((setMembers [] roles).map (Prod.map id .string)))) :=
      .scalars (areScalar_strings _)
    exact listApart.append rolesApart extended.size_le fun node isIn => listApart.lt_size isIn
  have wholeApart := membersApart.append addedApart
    (Nat.le_trans filling.isNew (Nat.le_of_lt isOld))
    fun node isIn => filling.standApart.lt_size isIn
  rw [keyed, keyed, ← List.map_append, ← keyed] at wholeApart
  refine ⟨filling.isNew, ⟨_, received.holds.parent, rfl, ?_⟩, wholeApart, fun isIn => ?_⟩
  · have areLater : ∀ entry ∈ roles.map (Prod.map id Value.string), entry.1 ∉
        (entries members ++ [("children", Value.container store.size)]).map (·.1) := by
      intro entry isEntry
      obtain ⟨role, isRole, rfl⟩ := List.mem_map.mp isEntry
      rw [List.map_append, entries, List.map_map]
      exact areNew role isRole
    rw [Container.parts, List.toList_toArray, values_keyed, setMembers_of_new areLater,
      entries_openedMembers, ← List.append_cons, map_setMembers]
    rfl
  · rw [keyed, openedMembers, List.map_append, ← keyed] at isIn
    obtain ⟨part, isPart, isIn⟩ := StandApart.mem_nodesOf.mp isIn
    rcases List.mem_append.mp isPart with isMember | isAdded
    · exact filling.notInside (StandApart.mem_nodesOf.mpr ⟨part, isMember, isIn⟩)
    · have isLater := addedApart.fresh (StandApart.mem_nodesOf.mpr ⟨part, isAdded, isIn⟩)
      exact absurd isLater (Nat.not_le.mpr isOld)

theorem fill_node {store : Store} {low : Nat} {object comments : NodeId}
    {members : List (String × Unfolding)} {marks : List NodeId} {roles : List (String × String)}
    {written : List Json.Ordered} {fill : NodeId → Build Unit}
    (filling : Filling store low object .object (keyed members))
    (areNew : ∀ role ∈ roles, role.1 ∉ members.map (·.1) ++ ["children"])
    (isNew : "children" ∉ members.map (·.1))
    (isListed : store.container? comments = some (.array (marks.map Value.container).toArray))
    (isOlder : comments < low)
    (converts : ∀ inner, Converts (fill inner) ⟨object, inner, comments⟩ roles written) :
    ∃ inner trees after,
      ((do fill (← openNode object) : Build Unit).run store).2 = after ∧
        Filling after low object .object (keyed (openedMembers members inner trees roles)) ∧
          after.container? comments = some
            (.array ((marks ++ commentNodesOf (listed trees)).map Value.container).toArray) ∧
            Extends store after [object, comments] ∧
              trees.map ordered = written ∧ repeatsOf (listed trees) = [] := by
  obtain ⟨inner_eq, size_eq, openExtends, holds⟩ := openNode_holds filling isNew isListed isOlder
  obtain ⟨trees, received, documents_eq, areWhole⟩ := converts store.size _ _ _ _ holds
  have runs : ((do fill (← openNode object) : Build Unit).run store).2 =
      ((fill store.size).run ((openNode object).run store).2).2 := by
    rw [← inner_eq]
    rfl
  have extended : Extends store ((fill store.size).run ((openNode object).run store).2).2
      [object, comments] := by
    refine (openExtends.mono (by simp)).trans received.extended fun node isTarget isOld => ?_
    have differs : node ≠ store.size := Nat.ne_of_lt isOld
    simpa [Targets.nodes, differs] using isTarget
  exact ⟨store.size, trees, _, runs, received.filling filling size_eq extended isOlder areNew,
    received.holds.comments, extended, documents_eq, areWhole⟩

/-! ## Nodes -/

section Nodes

variable {source : String} {tree : SyntaxNode} {field : Option String} {object inner : NodeId}
  {members : List (String × Unfolding)} {trees : List Unfolding} {roles : List (String × String)}

theorem role_notMem_reservedKeys {role : String × String} (isRole : role? source tree = some role) :
    role.1 ∉ reservedKeys := by
  unfold role? at isRole
  split at isRole
  · cases isRole
  · obtain ⟨name, isName, rfl⟩ := Option.map_eq_some_iff.mp isRole
    have isFree := (Option.filter_eq_some_iff.mp isName).2
    simpa using isFree

theorem keys_eq_of_documents_eq (documents_eq : documents members = headMembers source tree field) :
    members.map (·.1) = (headMembers source tree field).map (·.1) := by
  rw [← documents_eq, documents, List.map_map]
  rfl

theorem roles_areNew (documents_eq : documents members = headMembers source tree field)
    (children : List SyntaxNode) :
    ∀ role ∈ children.filterMap (role? source), role.1 ∉ members.map (·.1) ++ ["children"] := by
  intro role isRole isHead
  obtain ⟨child, _, isRole⟩ := List.mem_filterMap.mp isRole
  rw [keys_eq_of_documents_eq documents_eq] at isHead
  exact role_notMem_reservedKeys isRole ((headKeys_sublist source tree field).subset isHead)

theorem isComment_head (documents_eq : documents members = headMembers source tree field)
    (more : List (String × Unfolding)) :
    isComment (Unfolding.full object .object (keyed (members ++ more))).ordered =
      (tree.kind == "comment") := by
  rw [ordered_object, documents, List.map_append, ← documents, documents_eq]
  exact Bool.true_and _

/-- A node that shows no children is the only comment in its tree, if it is one. -/
theorem commentNodes_head (documents_eq : documents members = headMembers source tree field) :
    commentNodes (.full object .object (keyed members)) =
      if tree.kind == "comment" then [object] else [] := by
  have isKind : isComment (Unfolding.full object .object (keyed (members ++ []))).ordered = _ :=
    isComment_head documents_eq []
  have noneInside : commentNodesOf (keyed members) = [] :=
    commentNodesOf_keyed_eq_nil (by rw [documents_eq, commentCount_headMembers])
  rw [List.append_nil] at isKind
  rw [commentNodes, isKind, noneInside, List.append_nil]

theorem commentNodesOf_opened (documents_eq : documents members = headMembers source tree field) :
    commentNodesOf (keyed (openedMembers members inner trees roles)) =
      commentNodesOf (listed trees) := by
  have noneBefore : commentNodesOf (keyed members) = [] :=
    commentNodesOf_keyed_eq_nil (by rw [documents_eq, commentCount_headMembers])
  have noneAfter : commentNodesOf
      (keyed (scalars ((setMembers [] roles).map (Prod.map id .string)))) = [] := by
    refine commentNodesOf_keyed_eq_nil ?_
    rw [documents_scalars, List.map_map]
    exact commentCount_strings _
  rw [openedMembers, keyed, List.map_append, ← keyed, commentNodesOf_append, noneBefore,
    List.nil_append, List.map_cons, ← keyed, commentNodesOf, noneAfter, List.append_nil,
    commentNodes, Unfolding.ordered]
  rfl

theorem commentNodes_opened (documents_eq : documents members = headMembers source tree field) :
    commentNodes (.full object .object (keyed (openedMembers members inner trees roles))) =
      (if tree.kind == "comment" then [object] else []) ++ commentNodesOf (listed trees) := by
  rw [commentNodes, commentNodesOf_opened documents_eq, openedMembers,
    isComment_head documents_eq]

theorem nodeDocument_eq (source : String) (field : Option String) (tree : SyntaxNode) :
    nodeDocument source field tree = .object (headMembers source tree field ++
      if hasNamedChild tree then
        ("children", .array (nodeDocuments source tree.children)) ::
          roleMembers source tree.children
      else []) := by
  cases tree with
  | node label children =>
      rw [nodeDocument]
      rfl

theorem plain_head (documents_eq : documents members = headMembers source tree field)
    (areWhole : repeatsOf (keyed members) = []) (isLeaf : hasNamedChild tree = false) :
    Plain (nodeDocument source field tree) (.full object .object (keyed members)) := by
  have isPlain : Plain _ (.full object .object (keyed members)) := .object areWhole
  rw [documents_eq] at isPlain
  rw [nodeDocument_eq, isLeaf, if_neg Bool.false_ne_true, List.append_nil]
  exact isPlain

theorem plain_opened (documents_eq : documents members = headMembers source tree field)
    (areWhole : repeatsOf (keyed members) = []) (isOpen : hasNamedChild tree = true)
    (inside_eq : trees.map ordered = nodeDocuments source tree.children)
    (treesWhole : repeatsOf (listed trees) = []) :
    Plain (nodeDocument source field tree) (.full object .object
      (keyed (openedMembers members inner trees (tree.children.filterMap (role? source))))) := by
  have allWhole : repeatsOf (keyed (openedMembers members inner trees
      (tree.children.filterMap (role? source)))) = [] := by
    rw [openedMembers, keyed, List.map_append, ← keyed, repeatsOf_append, areWhole, List.map_cons,
      ← keyed, repeatsOf_cons, repeats_full, treesWhole, repeatsOf_scalars]
    rfl
  have isPlain : Plain _ (.full object .object _) := .object allWhole
  rw [documents_openedMembers, documents_eq, inside_eq] at isPlain
  rw [nodeDocument_eq, isOpen, if_pos rfl]
  exact isPlain

end Nodes

/-! ## Whole trees -/

/-- A tree has been added to the children, and its comments to the comments. -/
theorem Received.tree {before after : Store} {targets : Targets}
    {entries : List (String × Value)} {items : List Value} {marks : List NodeId} {tree : Unfolding}
    (holds : Holds after targets entries (items ++ [tree.value]) (marks ++ commentNodes tree))
    (extended : Extends before after targets.nodes) (stands : Stands after before.size tree) :
    Received before after targets entries items marks [] [tree] where
  holds := by simpa [setMembers, listed, commentNodesOf] using holds
  extended := extended
  standApart := .singleton stands

theorem converts_node {source : String} {tree : SyntaxNode} {targets : Targets}
    (inside : ∀ parent children,
      Converts (convertScopes source targets.comments [⟨parent, children, tree.children⟩])
        ⟨parent, children, targets.comments⟩ (tree.children.filterMap (role? source))
        (nodeDocuments source tree.children)) :
    Converts (convertNode source targets.comments targets.children tree) targets []
      [nodeDocument source tree.label.field tree] := by
  intro before entries items marks holds
  obtain ⟨object, members, middle, add_eq, holdsMiddle, extended, filling, documents_eq,
    areWhole⟩ := addNode_adds tree holds
  have runs : (convertNode source targets.comments targets.children tree).run before =
      (if hasNamedChild tree then do
        let inner ← openNode object
        convertScopes source targets.comments [⟨object, inner, tree.children⟩]
      else pure () : Build Unit).run middle := by
    unfold convertNode
    rw [StateT.run_bind, add_eq]
    rfl
  rw [runs]
  -- Only a node with named children gets a list, and only then its object changes again.
  cases isOpen : hasNamedChild tree with
  | false =>
      have isPlain : Plain _ (.full object .object (keyed members)) :=
        plain_head documents_eq areWhole isOpen
      refine ⟨[.full object .object (keyed members)], .tree ?_ extended filling.stands, ?_, ?_⟩
      · rw [commentNodes_head documents_eq]
        exact holdsMiddle
      · exact congrArg ([·]) isPlain.ordered_eq
      · rw [listed, List.map_singleton, repeatsOf_cons, isPlain.repeats_eq, repeatsOf_nil]
        rfl
  | true =>
      have isOlder : targets.comments < before.size :=
        holds.lt_size _ (by simp [Targets.nodes])
      have isNew : "children" ∉ members.map (·.1) := by
        rw [keys_eq_of_documents_eq documents_eq]
        exact children_notMem_headKeys source tree _
      obtain ⟨inner, trees, after, fill_eq, filled, commentsFound, fillExtends, inside_eq,
        treesWhole⟩ := fill_node filling (roles_areNew documents_eq tree.children) isNew
          holdsMiddle.comments isOlder fun inner => inside object inner
      have isPlain : Plain _ (.full object .object (keyed (openedMembers members inner trees _))) :=
        plain_opened documents_eq areWhole isOpen inside_eq treesWhole
      rw [if_pos rfl, fill_eq]
      refine ⟨[.full object .object _], .tree ?_ ?_ filled.stands, ?_, ?_⟩
      · rw [commentNodes_opened documents_eq, ← List.append_assoc]
        exact holdsMiddle.more fillExtends
          (fun node isTarget => Nat.ne_of_lt
            (Nat.lt_of_lt_of_le (holds.lt_size node isTarget) filling.isNew)) commentsFound
      · refine extended.trans fillExtends fun node isTouched isOld => ?_
        rcases List.mem_cons.mp isTouched with rfl | isComments
        · exact absurd filling.isNew (Nat.not_le.mpr isOld)
        · rw [List.mem_singleton.mp isComments]
          simp [Targets.nodes]
      · exact congrArg ([·]) isPlain.ordered_eq
      · rw [listed, List.map_singleton, repeatsOf_cons, isPlain.repeats_eq, repeatsOf_nil]
        rfl

mutual

/-- What is inside a node is converted as plain recursion writes it down. -/
theorem converts_inside (source : String) (comments : NodeId) : (tree : SyntaxNode) →
    ∀ parent children,
      Converts (convertScopes source comments [⟨parent, children, tree.children⟩])
        ⟨parent, children, comments⟩ (tree.children.filterMap (role? source))
        (nodeDocuments source tree.children)
  | .node _ trees => converts_trees source comments trees

theorem converts_trees (source : String) (comments : NodeId) : (trees : List SyntaxNode) →
    ∀ parent children,
      Converts (convertScopes source comments [⟨parent, children, trees⟩])
        ⟨parent, children, comments⟩ (trees.filterMap (role? source)) (nodeDocuments source trees)
  | [], parent, children => by
      rw [convertScopes, convertScopes, nodeDocuments]
      exact .nil
  | tree :: rest, parent, children => by
      have others := converts_trees source comments rest parent children
      by_cases isNamed : tree.isNamed
      · have hasNoRole : role? source tree = none := if_pos isNamed
        have node : Converts (convertNode source comments children tree)
            ⟨parent, children, comments⟩ [] [nodeDocument source tree.label.field tree] :=
          converts_node (converts_inside source comments tree)
        rw [convertScopes_node isNamed, List.filterMap_cons, hasNoRole, nodeDocuments,
          if_pos isNamed]
        exact node.append others
      · have roles_eq : (tree :: rest).filterMap (role? source) =
            (role? source tree).toList ++ rest.filterMap (role? source) := by
          rw [List.filterMap_cons]
          cases role? source tree <;> rfl
        rw [convertScopes_token isNamed, roles_eq, nodeDocuments, if_neg isNamed]
        exact Converts.setRole.append others

end

end RepoSurvey.Script
