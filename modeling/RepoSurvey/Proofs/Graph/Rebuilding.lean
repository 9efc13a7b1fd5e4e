import RepoSurvey.Graph.Document
import RepoSurvey.Proofs.Graph.Texts

/-!
# Rebuilding a graph

The rebuilder turns a graph into a document value, with a list of its own of open containers.  What it
builds is the document of the unfolding, so the marks stand at the same places as in the texts.
-/

namespace RepoSurvey.Graph

theorem Unfolding.valuesOfItems_orderedItems (parts : List (Option String × Unfolding)) :
    Json.Ordered.valuesOfItems (Unfolding.orderedItems parts) =
      parts.map (·.2.ordered.value) := by
  induction parts with
  | nil => rfl
  | cons part rest ih =>
      rw [Unfolding.orderedItems, Json.Ordered.valuesOfItems, ih, List.map_cons]

theorem Unfolding.valuesOfMembers_orderedMembers (parts : List (Option String × Unfolding)) :
    Json.Ordered.valuesOfMembers (Unfolding.orderedMembers parts) =
      parts.map fun part => (part.1.getD "", part.2.ordered.value) := by
  induction parts with
  | nil => rfl
  | cons part rest ih =>
      rw [Unfolding.orderedMembers, Json.Ordered.valuesOfMembers, ih, List.map_cons]

namespace Rebuilder

variable {store : Store}

theorem run_of_step_ok {rebuilder next : Rebuilder} (stepped : rebuilder.step store = .ok next) :
    rebuilder.run store = next.run store := by
  rw [run]
  split
  · rename_i other
    rw [stepped] at other
    cases other
  · rename_i other
    rw [stepped] at other
    cases other
    rfl

theorem run_of_step_error {rebuilder : Rebuilder} {value : Json.Value}
    (stepped : rebuilder.step store = .error value) : rebuilder.run store = value := by
  rw [run]
  split
  · rename_i other
    rw [stepped] at other
    cases other
    rfl
  · rename_i other
    rw [stepped] at other
    cases other

theorem step_value (visited : Visited) (kind : BracketKind) (key childKey : Option String)
    (value : Value) (rest : List (Option String × Value))
    (done : List (Option String × Json.Value)) (outer : List Partial) :
    step store ⟨visited, ⟨kind, key, (childKey, value) :: rest, done⟩ :: outer⟩ =
      match beginValue store ⟨visited, ⟨kind, key, rest, done⟩ :: outer⟩ childKey value with
      | .ok next => .ok next
      | .error leaf => .ok ⟨visited, ⟨kind, key, rest, (childKey, leaf) :: done⟩ :: outer⟩ := by
  rfl

theorem step_close (visited : Visited) (kind : BracketKind) (key : Option String)
    (done : List (Option String × Json.Value)) (parent : Partial) (outer : List Partial) :
    step store ⟨visited, ⟨kind, key, [], done⟩ :: parent :: outer⟩ =
      .ok ⟨visited, parent.add key (Partial.finish ⟨kind, key, [], done⟩) :: outer⟩ := by
  rfl

section BeginValue

variable {rebuilder : Rebuilder} {key : Option String} {seen : Finset NodeId} {node : NodeId}
  {container : Container}

theorem beginValue_scalar {value : Value}
    (absent : ∀ node, value = .container node → store.container? node = none) :
    rebuilder.beginValue store key value = .error value.scalarDocument := by
  rw [beginValue, visit_scalar absent]

theorem beginValue_again (visits : Writer.Visits rebuilder.visited seen)
    (found : store.container? node = some container) (isSeen : node ∈ seen) :
    rebuilder.beginValue store key (.container node) = .error (.string repeatMark) := by
  rw [beginValue, visit_again visits found isSeen]

theorem beginValue_new (visits : Writer.Visits rebuilder.visited seen)
    (found : store.container? node = some container) (isNew : node ∉ seen) :
    rebuilder.beginValue store key (.container node) =
      .ok ⟨rebuilder.visited.insert node,
        ⟨container.bracketKind, key, container.parts, []⟩ :: rebuilder.frames⟩ := by
  rw [beginValue, visit_new visits found isNew]

end BeginValue

/-- The finished parts of a container, the latest first. -/
def finished (parts : List (Option String × Unfolding)) : List (Option String × Json.Value) :=
  (parts.map fun part => (part.1, part.2.ordered.value)).reverse

theorem finish_finished (node : NodeId) (kind : BracketKind) (key : Option String)
    (parts : List (Option String × Unfolding)) :
    Partial.finish ⟨kind, key, [], finished parts⟩ =
      (Unfolding.full node kind parts).ordered.value := by
  cases kind with
  | array =>
      rw [Unfolding.ordered, Json.Ordered.value, Unfolding.valuesOfItems_orderedItems]
      simp [Partial.finish, finished]
  | object =>
      rw [Unfolding.ordered, Json.Ordered.value, Unfolding.valuesOfMembers_orderedMembers]
      simp [Partial.finish, finished, Function.comp_def]

theorem scalarOrdered_value (value : Value) : value.scalarOrdered.value = value.scalarDocument := by
  cases value <;> rfl

mutual

/-- Going on with a value as the next part of a container adds the document of its tree. -/
theorem run_value {seen : Finset NodeId} {visited : Visited} (visits : Writer.Visits visited seen)
    (kind : BracketKind) (key childKey : Option String) (rest : List (Option String × Value))
    (done : List (Option String × Json.Value)) (outer : List Partial) :
    (tree : Unfolding) → tree.Fits store → tree.InOrder seen →
      ∃ later, Writer.Visits later (seen ∪ tree.nodes.toFinset) ∧
        run store ⟨visited, ⟨kind, key, (childKey, tree.value) :: rest, done⟩ :: outer⟩ =
          run store
            ⟨later, ⟨kind, key, rest, (childKey, tree.ordered.value) :: done⟩ :: outer⟩
  | .scalar value, fits, _ => by
      refine ⟨visited, by simpa using visits, run_of_step_ok ?_⟩
      rw [Unfolding.value, step_value, beginValue_scalar fits, Unfolding.ordered,
        scalarOrdered_value]
  | .again node, ⟨container, found⟩, isSeen => by
      refine ⟨visited, by simpa using visits, run_of_step_ok ?_⟩
      rw [Unfolding.value, step_value, beginValue_again visits found isSeen, Unfolding.ordered,
        Json.Ordered.value]
  | .full node inner parts, ⟨container, found, kind_eq, parts_eq, partsFit⟩,
      ⟨isNew, partsInOrder⟩ => by
      obtain ⟨later, stillVisits, partsRun⟩ := run_parts (visits.insert node) inner childKey []
        (⟨kind, key, rest, done⟩ :: outer) parts partsFit partsInOrder
      refine ⟨later, by simpa using stillVisits, ?_⟩
      have opens : step store
          ⟨visited, ⟨kind, key, (childKey, .container node) :: rest, done⟩ :: outer⟩ =
            .ok ⟨visited.insert node,
              ⟨inner, childKey, Unfolding.values parts, []⟩ :: ⟨kind, key, rest, done⟩ ::
                outer⟩ := by
        rw [step_value, beginValue_new visits found isNew, kind_eq, parts_eq]
      rw [Unfolding.value, run_of_step_ok opens, partsRun, List.append_nil]
      refine run_of_step_ok ?_
      rw [step_close, finish_finished node, Partial.add]

/-- Going on with the parts of a container adds the documents of their trees. -/
theorem run_parts {seen : Finset NodeId} {visited : Visited} (visits : Writer.Visits visited seen)
    (kind : BracketKind) (key : Option String) (done : List (Option String × Json.Value))
    (outer : List Partial) :
    (parts : List (Option String × Unfolding)) → Unfolding.PartsFit store parts →
      Unfolding.PartsInOrder seen parts →
        ∃ later, Writer.Visits later (seen ∪ (Unfolding.nodesOf parts).toFinset) ∧
          run store ⟨visited, ⟨kind, key, Unfolding.values parts, done⟩ :: outer⟩ =
            run store ⟨later, ⟨kind, key, [], finished parts ++ done⟩ :: outer⟩
  | [], _, _ => ⟨visited, by simpa using visits, rfl⟩
  | (childKey, part) :: rest, ⟨fits, restFits⟩, ⟨inOrder, restInOrder⟩ => by
      obtain ⟨between, firstVisits, firstRun⟩ := run_value visits kind key childKey
        (Unfolding.values rest) done outer part fits inOrder
      obtain ⟨later, restVisits, restRun⟩ := run_parts firstVisits kind key
        ((childKey, part.ordered.value) :: done) outer rest restFits restInOrder
      refine ⟨later, ?_, ?_⟩
      · rw [Unfolding.nodesOf_cons, List.toFinset_append, ← Finset.union_assoc]
        exact restVisits
      · refine firstRun.trans (restRun.trans ?_)
        simp [finished]

end

end Rebuilder

/-- The document of a graph is that of its unfolding. -/
theorem document_eq (store : Store) (root : Value) :
    document store root = (unfolding store root).ordered.value := by
  have isTree := unfolding_isTree store root
  cases tree_eq : unfolding store root with
  | scalar value =>
      rw [tree_eq] at isTree
      have value_eq : value = root := isTree.value_eq
      subst value_eq
      rw [document, Rebuilder.beginValue_scalar isTree.fits, Unfolding.ordered,
        Rebuilder.scalarOrdered_value]
  | again node =>
      rw [tree_eq] at isTree
      have isSeen : node ∈ (∅ : Finset NodeId) := isTree.inOrder
      simp at isSeen
  | full node kind parts =>
      rw [tree_eq] at isTree
      obtain ⟨container, found, kind_eq, parts_eq, partsFit⟩ := isTree.fits
      obtain ⟨isNew, partsInOrder⟩ := isTree.inOrder
      obtain ⟨later, _, partsRun⟩ := Rebuilder.run_parts
        (Writer.visits_empty.insert node) kind none [] [] parts partsFit partsInOrder
      have root_eq : Value.container node = root := isTree.value_eq
      rw [document, ← root_eq, Rebuilder.beginValue_new Writer.visits_empty found isNew, kind_eq,
        parts_eq]
      refine partsRun.trans (Rebuilder.run_of_step_error ?_)
      rw [List.append_nil, ← Rebuilder.finish_finished node kind none parts]
      rfl

end RepoSurvey.Graph
