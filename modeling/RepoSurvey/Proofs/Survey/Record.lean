import RepoSurvey.Proofs.Graph.Positions
import RepoSurvey.Proofs.Markup.Document
import RepoSurvey.Proofs.Schema.Graph
import RepoSurvey.Proofs.Script.File
import RepoSurvey.Proofs.Stylesheet.Document
import RepoSurvey.Proofs.Survey.Lasting

/-!
# Graphs of records

The graph of a record is an object of texts and numbers around the tree of its representation.  Its document
depends on nothing but the record.
-/

namespace RepoSurvey

open RepoSurvey.Graph Unfolding

/-! ## Representations -/

namespace Representation

/-- The document that shows a representation. -/
def written : Representation → Json.Ordered
  | syntaxTree dialect source root => Script.fileDocument dialect source root
  | schema node => node.rootDocument
  | document source tree => Markup.rootDocument source tree
  | ruleTree source root => Stylesheet.rootDocument source root

/-- The tree of a representation. Only the tree of a script repeats containers. -/
def IsTree : Representation → Unfolding → Prop
  | syntaxTree dialect source root => Script.IsFile dialect source root
  | schema node => Plain node.rootDocument
  | document source tree => Plain (Markup.rootDocument source tree)
  | ruleTree source root => Plain (Stylesheet.rootDocument source root)

theorem builds_object : (representation : Representation) →
    Builds representation.object representation.IsTree
  | syntaxTree dialect source root => Script.builds_fileObject dialect source root
  | schema node => node.builds_documentObject
  | document source tree => Markup.builds_rootObject source tree
  | ruleTree source root => Stylesheet.builds_sheetObject source root

theorem IsTree.ordered_eq {representation : Representation} {tree : Unfolding}
    (isTree : representation.IsTree tree) : tree.ordered = representation.written := by
  cases representation with
  | syntaxTree dialect source root => exact Script.IsFile.ordered_eq isTree
  | schema node => exact Plain.ordered_eq isTree
  | document source tree => exact Plain.ordered_eq isTree
  | ruleTree source root => exact Plain.ordered_eq isTree

/-- Only in the list of the comments of a script a container is repeated. -/
theorem IsTree.repeated_at {representation : Representation} {tree : Unfolding}
    (isTree : representation.IsTree tree) {position : List Step} {node : NodeId}
    (isAt : At tree position (.again node)) :
    ∃ dialect source root place, representation = .syntaxTree dialect source root ∧
      position = [.member "comments", .element place] := by
  have isRepeated : tree.repeats ≠ [] := List.ne_nil_of_mem (isAt.mem_repeats rfl)
  cases representation with
  | syntaxTree dialect source root =>
      obtain ⟨place, position_eq⟩ := Script.IsFile.repeated_at isTree isAt
      exact ⟨dialect, source, root, place, rfl, position_eq⟩
  | schema node => exact absurd (Plain.repeats_eq isTree) isRepeated
  | document source tree => exact absurd (Plain.repeats_eq isTree) isRepeated
  | ruleTree source root => exact absurd (Plain.repeats_eq isTree) isRepeated

end Representation

/-! ## Records -/

namespace FileRecord

/-- What a record shows before its outcome. -/
def headEntries (record : FileRecord) : List (String × Value) :=
  [("file", .string record.path), ("type", .string record.category.name)]

/-- What a record shows after its outcome. -/
def tailEntries (record : FileRecord) : List (String × Value) :=
  (record.summary.toList.map fun summary => ("summary", .string summary.text)) ++
    [("sourceSize", .natural record.sourceSize)] ++
    record.sourceCode.toList.map fun code => ("sourceCode", .string code)

/-- What an outcome shows if it is no representation. -/
def plainEntries : FileOutcome → List (String × Value)
  | .parsed _ => []
  | .failed error => [("error", .string error.display)]
  | .skipped reason => [("skipped", .bool true), ("reason", .string reason)]

/-- The members of a record that show its outcome. -/
def IsOutcome (outcome : FileOutcome) (members : List (String × Unfolding)) : Prop :=
  match outcome with
  | .parsed representation =>
      ∃ tree, members = [(representation.key, tree)] ∧ representation.IsTree tree
  | outcome => members = scalars (plainEntries outcome)

def recordMembers (record : FileRecord) (members : List (String × Unfolding)) :
    List (String × Unfolding) :=
  scalars record.headEntries ++ members ++ scalars record.tailEntries

/-- The tree of a record. -/
def IsTree (record : FileRecord) (tree : Unfolding) : Prop :=
  ∃ node members, tree = .full node .object (keyed (record.recordMembers members)) ∧
    IsOutcome record.outcome members

def outcomeMembers : FileOutcome → List (String × Json.Ordered)
  | .parsed representation => [(representation.key, representation.written)]
  | outcome => (plainEntries outcome).map (Prod.map id Value.scalarOrdered)

/-- The document of a record. -/
def document (record : FileRecord) : Json.Ordered :=
  .object
    (record.headEntries.map (Prod.map id Value.scalarOrdered) ++ outcomeMembers record.outcome ++
      record.tailEntries.map (Prod.map id Value.scalarOrdered))

theorem IsOutcome.documents_eq {outcome : FileOutcome} {members : List (String × Unfolding)}
    (isOutcome : IsOutcome outcome members) : documents members = outcomeMembers outcome := by
  cases outcome with
  | parsed representation =>
      obtain ⟨tree, rfl, isTree⟩ := isOutcome
      rw [outcomeMembers, ← isTree.ordered_eq]
      rfl
  | failed error =>
      rw [isOutcome, documents_scalars]
      rfl
  | skipped reason =>
      rw [isOutcome, documents_scalars]
      rfl

theorem IsTree.ordered_eq {record : FileRecord} {tree : Unfolding} (isTree : record.IsTree tree) :
    tree.ordered = record.document := by
  obtain ⟨node, members, rfl, isOutcome⟩ := isTree
  rw [ordered_object, recordMembers, documents, List.map_append, List.map_append, ← documents,
    ← documents, ← documents, documents_scalars, documents_scalars, isOutcome.documents_eq,
    document]

/-! ## How records are built -/

def insertAll (node : NodeId) (entries : List (String × Value)) : Build Unit :=
  entries.forM fun entry => Build.insert node entry.1 entry.2

theorem insertAll_append (node : NodeId) (entries others : List (String × Value)) :
    insertAll node (entries ++ others) = (do
      insertAll node entries
      insertAll node others) := by
  induction entries with
  | nil => rfl
  | cons entry rest ih =>
      change (do Build.insert node entry.1 entry.2; insertAll node (rest ++ others)) = _
      rw [ih]
      rfl

theorem object_eq (record : FileRecord) :
    record.object = (do
      let node ← Build.newObject
      insertAll node record.headEntries
      insertAll node (← outcomeEntries record.outcome)
      insertAll node record.tailEntries
      return .container node) := by
  simp only [tailEntries, insertAll_append, bind_assoc]
  rfl

/-- An object has got these members since a store. -/
structure Grown (before store : Store) (node : NodeId) (members : List (String × Unfolding)) :
    Prop where
  extended : Extends before store []
  filling : Filling store before.size node .object (keyed members)

namespace Grown

variable {before store : Store} {node : NodeId} {members : List (String × Unfolding)}

theorem set (grown : Grown before store node members) {entries : List (String × Value)}
    (areScalar : ∀ entry ∈ entries, ∀ node, entry.2 ≠ .container node) :
    Grown before ((insertAll node entries).run store).2 node
      (setMembers members (scalars entries)) := by
  induction entries generalizing store members with
  | nil => exact grown
  | cons entry rest ih =>
      rw [List.forall_mem_cons] at areScalar
      have inserted : Grown before ((Build.insert node entry.1 entry.2).run store).2 node
          (setMember entry.1 (.scalar entry.2) members) :=
        ⟨grown.extended.update_new grown.filling.isNew _,
          grown.filling.insert_scalar entry.1 areScalar.1⟩
      exact ih inserted areScalar.2

/-- An outcome is built, and then it is shown. -/
theorem outcome (grown : Grown before store node members) (outcome : FileOutcome) :
    ∃ shown, IsOutcome outcome shown ∧
      Grown before
        ((do insertAll node (← outcomeEntries outcome) : Build Unit).run store).2 node
        (setMembers members shown) := by
  cases outcome with
  | parsed representation =>
      obtain ⟨tree, value_eq, extended, stands, isTree⟩ := representation.builds_object store
      refine ⟨[(representation.key, tree)], ⟨tree, rfl, isTree⟩, ?_, ?_⟩
      · exact (grown.extended.trans extended (by simp)).update_new grown.filling.isNew _
      · have inserted := grown.filling.insert extended stands representation.key
        rw [value_eq] at inserted
        exact inserted
  | failed error =>
      have areScalar : ∀ entry ∈ plainEntries (.failed error),
          ∀ node, entry.2 ≠ .container node := by
        simp [plainEntries]
      exact ⟨_, rfl, grown.set areScalar⟩
  | skipped reason =>
      have areScalar : ∀ entry ∈ plainEntries (.skipped reason),
          ∀ node, entry.2 ≠ .container node := by
        simp [plainEntries]
      exact ⟨_, rfl, grown.set areScalar⟩

end Grown

theorem areScalar_headEntries (record : FileRecord) :
    ∀ entry ∈ record.headEntries, ∀ node, entry.2 ≠ .container node := by
  simp [headEntries]

theorem areScalar_tailEntries (record : FileRecord) :
    ∀ entry ∈ record.tailEntries, ∀ node, entry.2 ≠ .container node := by
  unfold tailEntries
  cases record.summary <;> cases record.sourceCode <;> simp [Value.natural]

/-- The keys that an outcome shows. -/
def outcomeKeys : FileOutcome → List String
  | .parsed representation => [representation.key]
  | .failed _ => ["error"]
  | .skipped _ => ["skipped", "reason"]

theorem IsOutcome.keys_eq {outcome : FileOutcome} {members : List (String × Unfolding)}
    (isOutcome : IsOutcome outcome members) : members.map (·.1) = outcomeKeys outcome := by
  cases outcome with
  | parsed representation =>
      obtain ⟨tree, rfl, _⟩ := isOutcome
      rfl
  | failed error =>
      rw [isOutcome]
      rfl
  | skipped reason =>
      rw [isOutcome]
      rfl

theorem tailKeys_sublist (record : FileRecord) :
    (record.tailEntries.map (·.1)).Sublist ["summary", "sourceSize", "sourceCode"] := by
  unfold tailEntries
  cases record.summary <;> cases record.sourceCode <;> simp

theorem recordKeys_eq {record : FileRecord} {members : List (String × Unfolding)}
    (isOutcome : IsOutcome record.outcome members) :
    (record.recordMembers members).map (·.1) =
      ["file", "type"] ++ outcomeKeys record.outcome ++ record.tailEntries.map (·.1) := by
  rw [recordMembers, List.map_append, List.map_append, isOutcome.keys_eq, scalars, scalars,
    List.map_map, List.map_map]
  rfl

/-- The ways to tell what became of a file. -/
def outcomeWays : List (List String) :=
  [["ast"], ["dom"], ["cssAst"], ["error"], ["skipped", "reason"]]

theorem outcomeKeys_mem (outcome : FileOutcome) : outcomeKeys outcome ∈ outcomeWays := by
  cases outcome with
  | parsed representation =>
      cases representation <;> simp [outcomeKeys, outcomeWays, Representation.key]
  | failed error => simp [outcomeKeys, outcomeWays]
  | skipped reason => simp [outcomeKeys, outcomeWays]

/-- The keys that a record shows are different. -/
theorem shownKeys_nodup (record : FileRecord) :
    (["file", "type"] ++ outcomeKeys record.outcome ++ record.tailEntries.map (·.1)).Nodup := by
  have allDiffer : ∀ keys ∈ outcomeWays,
      (["file", "type"] ++ keys ++ ["summary", "sourceSize", "sourceCode"]).Nodup := by decide
  exact (allDiffer _ (outcomeKeys_mem record.outcome)).sublist
    ((List.Sublist.refl _).append record.tailKeys_sublist)

theorem recordKeys_nodup {record : FileRecord} {members : List (String × Unfolding)}
    (isOutcome : IsOutcome record.outcome members) :
    ((record.recordMembers members).map (·.1)).Nodup := by
  rw [recordKeys_eq isOutcome]
  exact record.shownKeys_nodup

theorem builds_object (record : FileRecord) : Builds record.object record.IsTree := by
  intro before
  have made : Grown before (Build.newObject.run before).2 before.size [] := by
    exact ⟨.add before _, .add (Nat.le_refl _) .nil rfl⟩
  obtain ⟨members, isOutcome, grown⟩ :=
    (made.set record.areScalar_headEntries).outcome record.outcome
  have whole := grown.set record.areScalar_tailEntries
  have areNew : (([] : List (String × Unfolding)) ++ record.recordMembers members).map
      (·.1) |>.Nodup := recordKeys_nodup isOutcome
  rw [← setMembers_append, ← setMembers_append, ← List.append_assoc] at whole
  change Grown _ _ _ (setMembers [] (record.recordMembers members)) at whole
  rw [setMembers_of_nodup areNew, List.nil_append] at whole
  rw [object_eq]
  exact ⟨_, rfl, whole.extended, whole.filling.stands, before.size, members, rfl, isOutcome⟩

theorem textAlone_object (record : FileRecord) :
    textAlone record.object = record.document.compact :=
  textAlone_eq record.builds_object fun _ isTree => isTree.ordered_eq

/-! ## Where containers are repeated -/

/-- Only in the list of the comments of a script a container is repeated. -/
theorem IsTree.repeated_at {record : FileRecord} {tree : Unfolding} (isTree : record.IsTree tree)
    {position : List Step} {node : NodeId} (isAt : At tree position (.again node)) :
    ∃ dialect source root place,
      record.outcome = .parsed (.syntaxTree dialect source root) ∧
        position = [.member "ast", .member "comments", .element place] := by
  obtain ⟨object, members, rfl, isOutcome⟩ := isTree
  obtain ⟨key, part, rest, isMember, rfl, isInside⟩ := isAt.object_cases At.again_ne_full
  have isRepeated : part.repeats ≠ [] := List.ne_nil_of_mem (isInside.mem_repeats rfl)
  have notScalar (entries : List (String × Value)) : (key, part) ∉ scalars entries := by
    intro isEntry
    obtain ⟨entry, _, same⟩ := List.mem_map.mp isEntry
    cases same
    exact isRepeated (repeats_scalar _)
  rw [recordMembers, List.mem_append, List.mem_append] at isMember
  rcases isMember with (isHead | isShown) | isTail
  · exact absurd isHead (notScalar _)
  · cases outcome_eq : record.outcome with
    | parsed representation =>
        rw [outcome_eq] at isOutcome
        obtain ⟨shown, rfl, isTree⟩ := isOutcome
        cases List.mem_singleton.mp isShown
        obtain ⟨dialect, source, root, place, rfl, rfl⟩ := isTree.repeated_at isInside
        exact ⟨dialect, source, root, place, rfl, rfl⟩
    | failed error =>
        rw [outcome_eq] at isOutcome
        rw [isOutcome] at isShown
        exact absurd isShown (notScalar _)
    | skipped reason =>
        rw [outcome_eq] at isOutcome
        rw [isOutcome] at isShown
        exact absurd isShown (notScalar _)
  · exact absurd isTail (notScalar _)

/-- Every entry of the list of comments is repeated, and it is shown in full inside the program. -/
theorem IsTree.comment_at {record : FileRecord} {tree : Unfolding} (isTree : record.IsTree tree)
    {dialect : Script.Dialect} {source : String} {root : SyntaxNode}
    (outcome_eq : record.outcome = .parsed (.syntaxTree dialect source root)) {place : Nat}
    {entry : Unfolding}
    (isAt : At tree [.member "ast", .member "comments", .element place] entry) :
    ∃ node, entry = .again node ∧ ∃ step position kind parts,
      At tree (.member "ast" :: .member "program" :: step :: position) (.full node kind parts) ∧
        Script.isComment (Unfolding.full node kind parts).ordered := by
  obtain ⟨object, members, rfl, isOutcome⟩ := isTree
  have areDifferent := recordKeys_nodup isOutcome
  rw [outcome_eq] at isOutcome
  obtain ⟨file, rfl, isFile⟩ := isOutcome
  have fileIn : ("ast", file) ∈ record.recordMembers [("ast", file)] := by simp [recordMembers]
  obtain ⟨node, entry_eq, step, position, kind, parts, isShown, isComment⟩ :=
    Script.IsFile.comment_at isFile (isAt.of_member areDifferent fileIn)
  exact ⟨node, entry_eq, step, position, kind, parts,
    .member (List.mem_map_of_mem fileIn) isShown, isComment⟩

/-- Below the key of a syntax tree the record of a script shows a syntax tree. -/
theorem IsTree.isSyntaxTree {record : FileRecord} {tree : Unfolding} (isTree : record.IsTree tree)
    (suits : record.Suits) (isScript : record.category = .script) {rest : List Step}
    {inner : Unfolding} (isAt : At tree (.member "ast" :: rest) inner) :
    ∃ dialect source root, record.outcome = .parsed (.syntaxTree dialect source root) := by
  obtain ⟨object, members, rfl, isOutcome⟩ := isTree
  have isKey : "ast" ∈ (record.recordMembers members).map (·.1) := by
    cases isAt with
    | member isPart _ =>
        obtain ⟨⟨key, part⟩, isMember, same⟩ := List.mem_map.mp isPart
        cases same
        exact List.mem_map_of_mem isMember
  have notTail : "ast" ∉ record.tailEntries.map (·.1) := fun isTail =>
    absurd (record.tailKeys_sublist.subset isTail) (by decide)
  rw [recordKeys_eq isOutcome, List.mem_append, List.mem_append] at isKey
  have isShown : "ast" ∈ outcomeKeys record.outcome := by
    rcases isKey with (isHead | isShown) | isTail
    · exact absurd isHead (by decide)
    · exact isShown
    · exact absurd isTail notTail
  cases outcome_eq : record.outcome with
  | parsed representation =>
      have isSuited := suits representation outcome_eq
      rw [isScript] at isSuited
      cases representation with
      | syntaxTree dialect source root => exact ⟨dialect, source, root, rfl⟩
      | schema node => exact isSuited.elim
      | document source tree => exact isSuited.elim
      | ruleTree source root => exact isSuited.elim
  | failed error =>
      rw [outcome_eq] at isShown
      exact absurd isShown (by simp [outcomeKeys])
  | skipped reason =>
      rw [outcome_eq] at isShown
      exact absurd isShown (by simp [outcomeKeys])

end FileRecord

end RepoSurvey
