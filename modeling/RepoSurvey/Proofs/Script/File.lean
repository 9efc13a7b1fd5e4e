import RepoSurvey.Proofs.Graph.Positions
import RepoSurvey.Proofs.Script.Walk

/-!
# Graphs of scripts

The graph of a script is a tree, the program, and a list of the comments in it.  The list comes after the
program and refers to the very objects of the program, so none of them is cut open there.
-/

namespace RepoSurvey.Script

open RepoSurvey.Graph Unfolding

/-- The document of a whole tree. -/
def programDocument (source : String) (root : SyntaxNode) : Json.Ordered :=
  if root.isNamed then nodeDocument source none root else .object (headMembers source root none)

/-- How many comments a document shows below its root. -/
def commentsBelow : Json.Ordered → Nat
  | .object members => commentCountOfMembers members
  | _ => 0

def fileDocument (dialect : Dialect) (source : String) (root : SyntaxNode) : Json.Ordered :=
  .object
    [("type", .string "File"), ("dialect", .string dialect.name),
      ("program", programDocument source root),
      ("comments", .array
        (List.replicate (commentsBelow (programDocument source root)) (.string repeatMark)))]

/-- The list of the comments inside a node, as what is already shown there. -/
def commentList (comments : NodeId) (parts : List (Option String × Unfolding)) : Unfolding :=
  .full comments .array (listed ((commentNodesOf parts).map .again))

/-- The members of the object of a script. -/
def fileMembers (dialect : Dialect) (program comments : NodeId)
    (parts : List (Option String × Unfolding)) : List (String × Unfolding) :=
  [("type", .scalar (.string "File")), ("dialect", .scalar (.string dialect.name)),
    ("program", .full program .object parts), ("comments", commentList comments parts)]

/-- The tree of a script: its program without repeated containers, and a list that repeats the comments
of the program. -/
def IsFile (dialect : Dialect) (source : String) (root : SyntaxNode) (tree : Unfolding) : Prop :=
  ∃ file program comments parts,
    tree = .full file .object (keyed (fileMembers dialect program comments parts)) ∧
      Plain (programDocument source root) (.full program .object parts)

theorem IsFile.ordered_eq {dialect : Dialect} {source : String} {root : SyntaxNode}
    {tree : Unfolding} (isFile : IsFile dialect source root tree) :
    tree.ordered = fileDocument dialect source root := by
  obtain ⟨file, program, comments, parts, rfl, isPlain⟩ := isFile
  have count_eq : (commentNodesOf parts).length = commentsBelow (programDocument source root) := by
    rw [← isPlain.ordered_eq, (length_commentNodesOf parts).2, ordered]
    rfl
  have list_eq : (commentList comments parts).ordered = .array
      (List.replicate (commentsBelow (programDocument source root)) (.string repeatMark)) := by
    rw [commentList, ordered_array, List.map_map, ← count_eq, ← List.map_const']
    rfl
  rw [ordered_object]
  change Json.Ordered.object [_, _, ("program", (Unfolding.full program .object parts).ordered),
    ("comments", (commentList comments parts).ordered)] = _
  rw [isPlain.ordered_eq, list_eq]
  rfl

mutual

theorem commentNodes_subset : (tree : Unfolding) → commentNodes tree ⊆ tree.nodes
  | .scalar _ => by simp [commentNodes]
  | .again _ => by simp [commentNodes]
  | .full node kind parts => by
      intro comment isComment
      rw [nodes_full]
      rw [commentNodes, List.mem_append] at isComment
      rcases isComment with isHere | isInside
      · split at isHere
        · rw [List.mem_singleton.mp isHere]
          exact List.mem_cons_self
        · cases isHere
      · exact List.mem_cons_of_mem _ (commentNodesOf_subset parts isInside)

theorem commentNodesOf_subset : (parts : List (Option String × Unfolding)) →
    commentNodesOf parts ⊆ nodesOf parts
  | [] => by simp [commentNodesOf]
  | (key, part) :: rest => by
      rw [commentNodesOf, nodesOf_cons]
      refine List.append_subset.mpr ⟨?_, ?_⟩
      · exact List.subset_append_of_subset_left _ (commentNodes_subset part)
      · exact List.subset_append_of_subset_right _ (commentNodesOf_subset rest)

end

theorem convertTree_eq (source : String) (root : SyntaxNode) :
    convertTree source root = (do
      let comments ← Build.newArray
      let object ← nodeObject source root none
      if root.isNamed && hasNamedChild root then
        let children ← openNode object
        convertScopes source comments [⟨object, children, root.children⟩]
      return (object, comments)) := by
  unfold convertTree
  simp only [walk_root]
  cases root.isNamed && hasNamedChild root <;> rfl

theorem programDocument_closed {source : String} {root : SyntaxNode}
    (isClosed : (root.isNamed && hasNamedChild root) = false) :
    programDocument source root = .object (headMembers source root none) := by
  unfold programDocument
  split
  · rename_i isNamed
    rw [isNamed, Bool.true_and] at isClosed
    rw [nodeDocument_eq, isClosed, if_neg Bool.false_ne_true, List.append_nil]
  · rfl

theorem convertTree_runs (source : String) (root : SyntaxNode) (before : Store) :
    ∃ object parts after,
      (convertTree source root).run before = ((object, before.size), after) ∧
        Filling after (before.size + 1) object .object parts ∧
          after.container? before.size =
            some (.array ((commentNodesOf parts).map Value.container).toArray) ∧
            Extends before after [] ∧
              Plain (programDocument source root) (.full object .object parts) := by
  have listAdded : Extends before (before.add (.array #[])).2 [] := .add before _
  obtain ⟨members, extended, filling, documents_eq, areWhole⟩ :=
    fillingPlain_nodeObject source root none (before.add (.array #[])).2
  have isListed : before.size < (before.add (.array #[])).2.size := by
    rw [Store.size_add]
    exact Nat.lt_succ_self _
  have runs : (convertTree source root).run before = (fun made : NodeId × Store =>
      (((made.1, before.size) : NodeId × NodeId),
        ((if root.isNamed && hasNamedChild root then do
          let children ← openNode made.1
          convertScopes source before.size [⟨made.1, children, root.children⟩]
        else pure () : Build Unit).run made.2).2))
      ((nodeObject source root none).run (before.add (.array #[])).2) := by
    rw [convertTree_eq]
    cases root.isNamed && hasNamedChild root <;> rfl
  -- The list of comments is the first container, so its place is known before the program is built.
  generalize (nodeObject source root none).run (before.add (.array #[])).2 = made
    at extended filling runs
  obtain ⟨object, middle⟩ := made
  have commentsFound : middle.container? before.size =
      some (.array (([] : List NodeId).map Value.container).toArray) := by
    rw [extended.kept _ isListed List.not_mem_nil, Store.container?_add_new]
    rfl
  rw [Store.size_add] at filling
  cases isOpen : root.isNamed && hasNamedChild root with
  | false =>
      have noComments : commentNodesOf (keyed members) = [] :=
        commentNodesOf_keyed_eq_nil (by rw [documents_eq, commentCount_headMembers])
      have isPlain : Plain _ (.full object .object (keyed members)) := .object areWhole
      rw [isOpen] at runs
      refine ⟨object, keyed members, middle, runs, filling, ?_, ?_, ?_⟩
      · rw [noComments, commentsFound]
      · exact listAdded.trans extended (by simp)
      · rw [programDocument_closed isOpen, ← documents_eq]
        exact isPlain
  | true =>
      obtain ⟨isNamed, shows⟩ := Bool.and_eq_true_iff.mp isOpen
      have isNew : "children" ∉ members.map (·.1) := by
        rw [keys_eq_of_documents_eq documents_eq]
        exact children_notMem_headKeys source root none
      obtain ⟨inner, trees, after, fill_eq, filled, found, fillExtends, inside_eq, treesWhole⟩ :=
        fill_node filling (roles_areNew documents_eq root.children) isNew commentsFound
          (Nat.lt_succ_self _) (converts_inside source before.size root object)
      rw [isOpen] at runs
      dsimp only at runs
      rw [if_pos rfl, fill_eq] at runs
      refine ⟨object, _, after, runs, filled, ?_, ?_, ?_⟩
      · rw [found, List.nil_append, commentNodesOf_opened documents_eq]
      · refine (listAdded.trans extended (by simp)).trans fillExtends fun node isTouched isOld => ?_
        rcases List.mem_cons.mp isTouched with rfl | isComments
        · exact absurd filling.isNew (Nat.not_le.mpr (Nat.lt_succ_of_lt isOld))
        · rw [List.mem_singleton.mp isComments] at isOld
          exact absurd isOld (Nat.lt_irrefl _)
      · rw [programDocument, if_pos isNamed]
        exact plain_opened documents_eq areWhole shows inside_eq treesWhole

/-! ## Lists of what is shown already -/

section Again

variable {store : Store} {seen : Finset NodeId} {nodes : List NodeId}

theorem partsFit_again (areFound : ∀ node ∈ nodes, node < store.size) :
    PartsFit store (listed (nodes.map .again)) := by
  induction nodes with
  | nil => trivial
  | cons node rest ih =>
      rw [List.forall_mem_cons] at areFound
      exact ⟨⟨_, Array.getElem?_eq_getElem areFound.1⟩, ih areFound.2⟩

theorem partsSolid_again : PartsSolid (listed (nodes.map .again)) := by
  induction nodes with
  | nil => trivial
  | cons node rest ih => exact ⟨trivial, ih⟩

theorem partsInOrder_again (areSeen : ∀ node ∈ nodes, node ∈ seen) :
    PartsInOrder seen (listed (nodes.map .again)) := by
  induction nodes with
  | nil => trivial
  | cons node rest ih =>
      rw [List.forall_mem_cons] at areSeen
      refine ⟨areSeen.1, ?_⟩
      rw [nodes_again, List.toFinset_nil, Finset.union_empty]
      exact ih areSeen.2

theorem nodesOf_again : nodesOf (listed (nodes.map .again)) = [] := by
  induction nodes with
  | nil => exact nodesOf_nil
  | cons node rest ih =>
      refine (nodesOf_cons none (.again node) _).trans ?_
      rw [nodes_again, List.nil_append]
      exact ih

end Again

theorem nodesOf_fileMembers (dialect : Dialect) (program comments : NodeId)
    (parts : List (Option String × Unfolding)) :
    nodesOf (keyed (fileMembers dialect program comments parts)) =
      (Unfolding.full program .object parts).nodes ++ [comments] := by
  simp [fileMembers, keyed, commentList, nodesOf_again]

/-- The list of comments is older than the program, but it comes after it in the document. -/
theorem stands_file {store : Store} {low file program comments : NodeId} {dialect : Dialect}
    {parts : List (Option String × Unfolding)}
    (filling : Filling store (comments + 1) program .object parts)
    (commentsFound : store.container? comments =
      some (.array ((commentNodesOf parts).map Value.container).toArray))
    (fileFound : store.container? file =
      some (.object (entries (fileMembers dialect program comments parts)).toArray))
    (isLower : low ≤ comments) (areOlder : program < file)
    (notInside : file ∉ nodesOf parts) :
    Stands store low (.full file .object (keyed (fileMembers dialect program comments parts))) := by
  have programStands := filling.stands
  have comments_lt : comments < file := Nat.lt_trans (Nat.lt_of_succ_le filling.isNew) areOlder
  have areInside : ∀ node ∈ commentNodesOf parts, node ∈ nodesOf parts :=
    fun node isComment => commentNodesOf_subset parts isComment
  have notInProgram : comments ∉ (Unfolding.full program .object parts).nodes := fun isIn =>
    absurd (programStands.fresh comments isIn) (Nat.not_succ_le_self _)
  refine ⟨?_, ?_, ?_, ?_⟩
  · have again := partsFit_again fun node isComment =>
      filling.standApart.lt_size (areInside node isComment)
    refine ⟨_, fileFound, rfl, ?_, fun _ => Value.noConfusion, fun _ => Value.noConfusion,
      programStands.fits, ⟨_, commentsFound, rfl, ?_, again⟩, trivial⟩
    · rw [Container.parts, List.toList_toArray, values_keyed]
    · rw [Container.parts, List.toList_toArray, values_listed, List.map_map, List.map_map,
        List.map_map]
      rfl
  · exact ⟨Value.string_ne_container _, Value.string_ne_container _, programStands.solid,
      partsSolid_again, trivial⟩
  · refine ⟨Finset.notMem_empty _, trivial, trivial, ?_, ⟨?_, ?_⟩, trivial⟩
    · refine programStands.inOrder.more (Finset.empty_subset _) fun node isIn isSeen => ?_
      have isFile : node = file := by simpa using isSeen
      rw [isFile, nodes_full, List.mem_cons] at isIn
      rcases isIn with isProgram | isInside
      · exact absurd isProgram (Nat.ne_of_gt areOlder)
      · exact absurd isInside notInside
    · simp only [Finset.mem_union, Finset.mem_insert, nodes_scalar, List.toFinset_nil,
        Finset.notMem_empty, or_false, List.mem_toFinset, not_or]
      exact ⟨Nat.ne_of_lt comments_lt, notInProgram⟩
    · refine partsInOrder_again fun node isComment => ?_
      simp [areInside node isComment]
  · intro node isIn
    rw [nodes_full, List.mem_cons, nodesOf_fileMembers, List.mem_append,
      List.mem_singleton] at isIn
    rcases isIn with rfl | isProgram | rfl
    · exact Nat.le_trans isLower (Nat.le_of_lt comments_lt)
    · exact Nat.le_trans isLower (Nat.le_of_succ_le (programStands.fresh node isProgram))
    · exact isLower

theorem builds_fileObject (dialect : Dialect) (source : String) (root : SyntaxNode) :
    Builds (fileObject dialect source root) (IsFile dialect source root) := by
  intro before
  obtain ⟨program, parts, after, runs, filling, commentsFound, extended, isPlain⟩ :=
    convertTree_runs source root before
  have added : Extends after (after.add (.object
      (entries (fileMembers dialect program before.size parts)).toArray)).2 [] := .add after _
  have fileRuns : (fileObject dialect source root).run before = (.container after.size,
      (after.add (.object
        (entries (fileMembers dialect program before.size parts)).toArray)).2) := by
    have areNew : (([] : List (String × Value)) ++
        entries (fileMembers dialect program before.size parts)).map (·.1) |>.Nodup := by
      change ["type", "dialect", "program", "comments"].Nodup
      decide
    rw [fileObject, StateT.run_bind, runs]
    change (do return .container (← Build.object
      (entries (fileMembers dialect program before.size parts))) : Build Value).run after = _
    rw [StateT.run_bind, Build.run_object, setMembers_of_nodup areNew]
    rfl
  rw [fileRuns]
  have isOlder : program < after.size := filling.lt_size
  have stillFound : _ = some (Container.array _) := 
    (added.kept _ (lt_size_of_container? commentsFound) List.not_mem_nil).trans commentsFound
  refine ⟨.full after.size .object (keyed (fileMembers dialect program before.size parts)), rfl,
    extended.trans added (by simp), ?_, after.size, program, before.size, parts, rfl, isPlain⟩
  refine stands_file (filling.later added (by simp)) stillFound Store.container?_add_new
    (Nat.le_refl _) isOlder fun isIn => ?_
  exact Nat.lt_irrefl _ (filling.standApart.lt_size isIn)

/-! ## Where comments are -/

mutual

/-- Each of the comments in a tree is shown in full somewhere in it. -/
theorem commentNodes_at {node : NodeId} : (tree : Unfolding) → node ∈ commentNodes tree →
    ∃ position kind parts, At tree position (.full node kind parts) ∧
      isComment (Unfolding.full node kind parts).ordered
  | .scalar _, isIn => by simp [commentNodes] at isIn
  | .again _, isIn => by simp [commentNodes] at isIn
  | .full here kind parts, isIn => by
      rw [commentNodes, List.mem_append] at isIn
      rcases isIn with isHere | isInside
      · split at isHere
        · rename_i isComment
          rw [List.mem_singleton.mp isHere]
          exact ⟨[], kind, parts, .here _, isComment⟩
        · cases isHere
      · obtain ⟨key, part, isPart, position, innerKind, inner, isAt, isComment⟩ :=
          commentNodesOf_at parts isInside
        obtain ⟨step, leads⟩ := At.of_mem isPart
        exact ⟨step :: position, innerKind, inner, leads _ _ isAt, isComment⟩

theorem commentNodesOf_at {node : NodeId} : (parts : List (Option String × Unfolding)) →
    node ∈ commentNodesOf parts →
      ∃ key part, (key, part) ∈ parts ∧ ∃ position kind inner,
        At part position (.full node kind inner) ∧
          isComment (Unfolding.full node kind inner).ordered
  | [], isIn => by simp [commentNodesOf] at isIn
  | (key, part) :: rest, isIn => by
      rw [commentNodesOf, List.mem_append] at isIn
      rcases isIn with isHere | isLater
      · exact ⟨key, part, List.mem_cons_self, commentNodes_at part isHere⟩
      · obtain ⟨otherKey, other, isPart, isAt⟩ := commentNodesOf_at rest isLater
        exact ⟨otherKey, other, List.mem_cons_of_mem _ isPart, isAt⟩

end

namespace IsFile

variable {dialect : Dialect} {source : String} {root : SyntaxNode} {tree : Unfolding}

/-- Only the entries of the list of comments are repeated. -/
theorem repeated_at (isFile : IsFile dialect source root tree) {position : List Step}
    {node : NodeId} (isAt : At tree position (.again node)) :
    ∃ place, position = [.member "comments", .element place] := by
  obtain ⟨file, program, comments, parts, rfl, isPlain⟩ := isFile
  obtain ⟨key, part, rest, isMember, rfl, isInside⟩ := isAt.object_cases At.again_ne_full
  have notRepeated : part.repeats ≠ [] := List.ne_nil_of_mem (isInside.mem_repeats rfl)
  simp only [fileMembers, List.mem_cons, Prod.mk.injEq, List.not_mem_nil, or_false] at isMember
  rcases isMember with ⟨rfl, rfl⟩ | ⟨rfl, rfl⟩ | ⟨rfl, rfl⟩ | ⟨rfl, rfl⟩
  · exact absurd (repeats_scalar _) notRepeated
  · exact absurd (repeats_scalar _) notRepeated
  · exact absurd isPlain.repeats_eq notRepeated
  · obtain ⟨place, entry, further, isEntry, rfl, isLast⟩ := isInside.array_cases At.again_ne_full
    obtain ⟨comment, _, rfl⟩ := List.mem_map.mp (List.mem_of_getElem? isEntry)
    cases isLast with
    | here => exact ⟨place, rfl⟩

/-- Every entry of the list of comments is repeated, and it is shown in full inside the program. -/
theorem comment_at (isFile : IsFile dialect source root tree) {place : Nat} {entry : Unfolding}
    (isAt : At tree [.member "comments", .element place] entry) :
    ∃ node, entry = .again node ∧ ∃ step position kind parts,
      At tree (.member "program" :: step :: position) (.full node kind parts) ∧
        isComment (Unfolding.full node kind parts).ordered := by
  obtain ⟨file, program, comments, parts, rfl, isPlain⟩ := isFile
  have areDifferent : ((fileMembers dialect program comments parts).map (·.1)).Nodup := by
    change ["type", "dialect", "program", "comments"].Nodup
    decide
  have programIn : ("program", .full program .object parts) ∈
      fileMembers dialect program comments parts := by simp [fileMembers]
  have commentsIn : ("comments", commentList comments parts) ∈
      fileMembers dialect program comments parts := by simp [fileMembers]
  cases isAt.of_member areDifferent commentsIn with
  | element isEntry last =>
      rw [listed, List.map_map, List.getElem?_map] at isEntry
      obtain ⟨node, isComment, same⟩ := Option.map_eq_some_iff.mp isEntry
      cases same
      cases last with
      | here =>
          obtain ⟨key, part, isPart, position, kind, inner, isAt, isShown⟩ :=
            commentNodesOf_at parts (List.mem_of_getElem? isComment)
          obtain ⟨step, leads⟩ := At.of_mem isPart
          exact ⟨node, rfl, step, position, kind, inner,
            .member (List.mem_map_of_mem programIn) (leads _ _ isAt), isShown⟩

end IsFile

end RepoSurvey.Script
