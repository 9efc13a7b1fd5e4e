import Mathlib.Algebra.BigOperators.Group.Finset.Basic
import Mathlib.Algebra.GroupWithZero.Nat
import RepoSurvey.Graph.Session
import RepoSurvey.Proofs.Graph.Unfolding

/-!
# References of an unfolding

Which references of a graph are cut open in its tree, and how many there are.  The containers that are
cut open are those that can be reached, each of them once, and always at the first reference in document
order.
-/

namespace RepoSurvey.Graph

namespace Unfolding

/-! ## The first of several references -/

/-- After the containers `seen`, exactly the first reference to each container is cut open. -/
def OpensFirst (seen : Finset NodeId) : List (NodeId × Bool) → Prop
  | [] => True
  | (node, isOpen) :: rest => (isOpen = true ↔ node ∉ seen) ∧ OpensFirst (insert node seen) rest

theorem mem_places_of_mem_opened {places : List (NodeId × Bool)} {node : NodeId}
    (isOpened : node ∈ opened places) : node ∈ places.map (·.1) :=
  List.map_subset _ (List.filter_subset_self _) isOpened

theorem opensFirst_append {seen : Finset NodeId} {first others : List (NodeId × Bool)} :
    OpensFirst seen (first ++ others) ↔
      OpensFirst seen first ∧ OpensFirst (seen ∪ (first.map (·.1)).toFinset) others := by
  induction first generalizing seen with
  | nil => simp [OpensFirst]
  | cons place rest ih =>
      obtain ⟨node, isOpen⟩ := place
      simp only [List.cons_append, OpensFirst, ih, List.map_cons, List.toFinset_cons,
        Finset.union_insert, Finset.insert_union, and_assoc]

/-- A reference is cut open exactly if no earlier one is to the same container. -/
theorem OpensFirst.isOpen_iff {before after : List (NodeId × Bool)} {node : NodeId}
    {isOpen : Bool} (opensFirst : OpensFirst ∅ (before ++ (node, isOpen) :: after)) :
    isOpen = true ↔ node ∉ before.map (·.1) := by
  have here := (opensFirst_append.mp opensFirst).2.1
  simpa using here

theorem OpensFirst.mem_opened {seen : Finset NodeId} {places : List (NodeId × Bool)}
    (opensFirst : OpensFirst seen places) {node : NodeId} (isPlace : node ∈ places.map (·.1)) :
    node ∈ seen ∨ node ∈ opened places := by
  induction places generalizing seen with
  | nil => cases isPlace
  | cons place rest ih =>
      obtain ⟨first, isOpen⟩ := place
      obtain ⟨opensHere, opensRest⟩ := opensFirst
      rw [List.map_cons, List.mem_cons] at isPlace
      by_cases isSeen : node ∈ seen
      · exact Or.inl isSeen
      rcases isPlace with rfl | isPlace
      · right
        simp [opened, opensHere.mpr isSeen]
      · rcases ih opensRest isPlace with isEarlier | isLater
        · rcases Finset.mem_insert.mp isEarlier with rfl | isEarlier
          · right
            simp [opened, opensHere.mpr isSeen]
          · exact Or.inl isEarlier
        · right
          rw [opened, List.filter_cons]
          split
          · exact List.mem_cons_of_mem _ isLater
          · exact isLater

theorem OpensFirst.nodup_opened {seen : Finset NodeId} {places : List (NodeId × Bool)}
    (opensFirst : OpensFirst seen places) :
    (opened places).Nodup ∧ ∀ node ∈ opened places, node ∉ seen := by
  induction places generalizing seen with
  | nil => simp [opened]
  | cons place rest ih =>
      obtain ⟨first, isOpen⟩ := place
      obtain ⟨opensHere, opensRest⟩ := opensFirst
      obtain ⟨nodup, isNew⟩ := ih opensRest
      have stillNew : ∀ node ∈ opened rest, node ≠ first ∧ node ∉ seen := by
        intro node isOpened
        simpa using isNew node isOpened
      cases isOpen with
      | false =>
          have same : opened ((first, false) :: rest) = opened rest := by simp [opened]
          rw [same]
          exact ⟨nodup, fun node isOpened => (stillNew node isOpened).2⟩
      | true =>
          have more : opened ((first, true) :: rest) = first :: opened rest := by simp [opened]
          rw [more]
          refine ⟨List.nodup_cons.mpr ⟨fun isOpened => (stillNew first isOpened).1 rfl, nodup⟩, ?_⟩
          intro node isOpened
          rcases List.mem_cons.mp isOpened with rfl | isOpened
          · exact opensHere.mp rfl
          · exact (stillNew node isOpened).2

/-- Every reference is either cut open or repeated. -/
theorem length_opened_add_repeated (places : List (NodeId × Bool)) :
    (opened places).length + (repeated places).length = places.length := by
  rw [opened, repeated, List.length_map, List.length_map]
  exact (List.length_eq_length_filter_add fun place : NodeId × Bool => place.2).symm

mutual

theorem union_places_eq {seen : Finset NodeId} :
    (tree : Unfolding) → tree.InOrder seen →
      seen ∪ (tree.places.map (·.1)).toFinset = seen ∪ tree.nodes.toFinset
  | scalar _, _ => by simp [places]
  | again node, isSeen => by
      have isSeen : node ∈ seen := isSeen
      simp [places, isSeen]
  | full node kind parts, ⟨_, partsInOrder⟩ => by
      have inner := union_placesOf_eq parts partsInOrder
      simpa [places] using inner

theorem union_placesOf_eq {seen : Finset NodeId} :
    (parts : List (Option String × Unfolding)) → PartsInOrder seen parts →
      seen ∪ ((placesOf parts).map (·.1)).toFinset = seen ∪ (nodesOf parts).toFinset
  | [], _ => by simp [placesOf]
  | (_, part) :: rest, ⟨inOrder, restInOrder⟩ => by
      have first := union_places_eq part inOrder
      have others := union_placesOf_eq rest restInOrder
      rw [placesOf, nodesOf_cons, List.map_append, List.toFinset_append, List.toFinset_append,
        ← Finset.union_assoc, first, others, Finset.union_assoc]

end

mutual

/-- In a tree whose references are in order, the first reference to each container is cut open. -/
theorem InOrder.opensFirst {seen : Finset NodeId} :
    {tree : Unfolding} → tree.InOrder seen → OpensFirst seen tree.places
  | scalar _, _ => by simp [places, OpensFirst]
  | again node, isSeen => by
      have isSeen : node ∈ seen := isSeen
      simp [places, OpensFirst, isSeen]
  | full node kind parts, ⟨isNew, partsInOrder⟩ => by
      rw [places]
      exact ⟨by simp [isNew], PartsInOrder.opensFirst partsInOrder⟩

theorem PartsInOrder.opensFirst {seen : Finset NodeId} :
    {parts : List (Option String × Unfolding)} → PartsInOrder seen parts →
      OpensFirst seen (placesOf parts)
  | [], _ => by simp [placesOf, OpensFirst]
  | (_, part) :: rest, ⟨inOrder, restInOrder⟩ => by
      rw [placesOf, opensFirst_append, union_places_eq part inOrder]
      exact ⟨inOrder.opensFirst, PartsInOrder.opensFirst restInOrder⟩

end

end Unfolding

/-! ## Reachable containers -/

/-- A container can be reached from a value. -/
inductive Reachable (store : Store) (root : Value) : NodeId → Prop
  | root {node : NodeId} (refers : root.container? store = some node) : Reachable store root node
  | part {outer node : NodeId} {container : Container} {value : Value}
      (reached : Reachable store root outer) (found : store.container? outer = some container)
      (isPart : value ∈ container.values) (refers : value.container? store = some node) :
      Reachable store root node

theorem Store.valuesAt_eq {store : Store} {node : NodeId} {container : Container}
    (found : store.container? node = some container) :
    store.valuesAt node = container.values := by
  rw [Store.valuesAt, found, Option.map_some, Option.getD_some]

theorem Container.values_eq (container : Container) :
    container.values = container.parts.map (·.2) := by
  cases container with
  | array items => simp [values, parts, Function.comp_def]
  | object entries => simp [values, parts, Function.comp_def]

theorem Value.container?_eq_some_iff {store : Store} {value : Value} {node : NodeId} :
    value.container? store = some node ↔
      value = .container node ∧ ∃ container, store.container? node = some container := by
  cases value with
  | container other =>
      rw [Value.container?]
      constructor
      · intro refers
        split at refers
        · rename_i isThere
          cases refers
          exact ⟨rfl, Option.isSome_iff_exists.mp isThere⟩
        · cases refers
      · rintro ⟨same, found⟩
        cases same
        exact if_pos (Option.isSome_iff_exists.mpr found)
  | _ => simp [Value.container?]

/-- How many of some values refer to containers. -/
def references (store : Store) (values : List Value) : Nat :=
  values.countP fun value => (value.container? store).isSome

namespace Unfolding

/-- What a tree is the tree of stands among its references. -/
theorem Fits.mem_places {store : Store} {tree : Unfolding} {node : NodeId}
    (fits : tree.Fits store) (refers : tree.value.container? store = some node) :
    node ∈ tree.places.map (·.1) := by
  obtain ⟨value_eq, container, found⟩ := Value.container?_eq_some_iff.mp refers
  cases tree with
  | scalar value =>
      have absent := fits node value_eq
      rw [absent] at found
      cases found
  | again other =>
      cases value_eq
      simp [places]
  | full other kind parts =>
      cases value_eq
      simp [places]

theorem places_subset_of_mem {key : Option String} {part : Unfolding}
    {parts : List (Option String × Unfolding)} (isPart : (key, part) ∈ parts) :
    part.places ⊆ placesOf parts := by
  induction parts with
  | nil => cases isPart
  | cons first rest ih =>
      obtain ⟨firstKey, firstPart⟩ := first
      rw [placesOf]
      rcases List.mem_cons.mp isPart with same | isLater
      · cases same
        exact List.subset_append_left _ _
      · exact List.subset_append_of_subset_right _ (ih isLater)

theorem PartsFit.fits_of_mem {store : Store} {key : Option String} {part : Unfolding}
    {parts : List (Option String × Unfolding)} (partsFit : PartsFit store parts)
    (isPart : (key, part) ∈ parts) : part.Fits store := by
  induction parts with
  | nil => cases isPart
  | cons first rest ih =>
      rcases List.mem_cons.mp isPart with same | isLater
      · cases same
        exact partsFit.1
      · exact ih partsFit.2 isLater

/-- What the parts of a container refer to stands among the references of their trees. -/
theorem PartsFit.mem_placesOf {store : Store} {parts : List (Option String × Unfolding)}
    {container : Container} {inner : Value} {node : NodeId} (partsFit : PartsFit store parts)
    (parts_eq : container.parts = values parts) (isPart : inner ∈ container.values)
    (refers : inner.container? store = some node) : node ∈ (placesOf parts).map (·.1) := by
  rw [Container.values_eq, parts_eq] at isPart
  obtain ⟨⟨key, part⟩, isMember, rfl⟩ : ∃ part ∈ parts, part.2.value = inner := by
    simpa [values] using isPart
  have fits : part.Fits store := partsFit.fits_of_mem isMember
  exact List.map_subset _ (places_subset_of_mem isMember) (fits.mem_places refers)

mutual

/-- What a container that is cut open refers to stands among the references of the tree. -/
theorem Fits.mem_places_of_mem_nodes {store : Store} {outer node : NodeId}
    {container : Container} {inner : Value} (found : store.container? outer = some container)
    (isPart : inner ∈ container.values) (refers : inner.container? store = some node) :
    {tree : Unfolding} → tree.Fits store → outer ∈ tree.nodes → node ∈ tree.places.map (·.1)
  | scalar _, _, isNode => by simp at isNode
  | again _, _, isNode => by simp at isNode
  | full here kind parts, ⟨other, isThere, _, parts_eq, partsFit⟩, isNode => by
      rw [nodes_full] at isNode
      rw [places, List.map_cons]
      rcases List.mem_cons.mp isNode with rfl | isInner
      · rw [found] at isThere
        cases isThere
        exact List.mem_cons_of_mem _ (partsFit.mem_placesOf parts_eq isPart refers)
      · exact List.mem_cons_of_mem _
          (PartsFit.mem_placesOf_of_mem_nodesOf found isPart refers partsFit isInner)

theorem PartsFit.mem_placesOf_of_mem_nodesOf {store : Store} {outer node : NodeId}
    {container : Container} {inner : Value} (found : store.container? outer = some container)
    (isPart : inner ∈ container.values) (refers : inner.container? store = some node) :
    {parts : List (Option String × Unfolding)} → PartsFit store parts → outer ∈ nodesOf parts →
      node ∈ (placesOf parts).map (·.1)
  | [], _, isNode => by simp at isNode
  | (_, part) :: rest, ⟨fits, restFits⟩, isNode => by
      rw [nodesOf_cons] at isNode
      rw [placesOf, List.map_append]
      rcases List.mem_append.mp isNode with isFirst | isLater
      · exact List.mem_append_left _
          (Fits.mem_places_of_mem_nodes found isPart refers fits isFirst)
      · exact List.mem_append_right _
          (PartsFit.mem_placesOf_of_mem_nodesOf found isPart refers restFits isLater)

end

mutual

/-- All references of a tree are to containers that can be reached, if its root is. -/
theorem Fits.reachable {store : Store} {root : Value} {node : NodeId} :
    {tree : Unfolding} → tree.Fits store →
      (∀ first, tree.value.container? store = some first → Reachable store root first) →
        node ∈ tree.places.map (·.1) → Reachable store root node
  | scalar _, _, _, isPlace => by simp [places] at isPlace
  | again other, ⟨container, found⟩, reached, isPlace => by
      have same : node = other := by simpa [places] using isPlace
      subst same
      exact reached node (Value.container?_eq_some_iff.mpr ⟨rfl, container, found⟩)
  | full here kind parts, ⟨container, found, _, parts_eq, partsFit⟩, reached, isPlace => by
      have hereReached : Reachable store root here :=
        reached here (Value.container?_eq_some_iff.mpr ⟨rfl, container, found⟩)
      rw [places, List.map_cons] at isPlace
      rcases List.mem_cons.mp isPlace with rfl | isInner
      · exact hereReached
      · refine PartsFit.reachable partsFit ?_ isInner
        intro inner isPart first refers
        refine Reachable.part hereReached found ?_ refers
        rw [Container.values_eq, parts_eq]
        exact isPart

theorem PartsFit.reachable {store : Store} {root : Value} {node : NodeId} :
    {parts : List (Option String × Unfolding)} → PartsFit store parts →
      (∀ inner ∈ (values parts).map (·.2), ∀ first, inner.container? store = some first →
        Reachable store root first) →
        node ∈ (placesOf parts).map (·.1) → Reachable store root node
  | [], _, _, isPlace => by simp [placesOf] at isPlace
  | (_, part) :: rest, ⟨fits, restFits⟩, reached, isPlace => by
      rw [placesOf, List.map_append] at isPlace
      rcases List.mem_append.mp isPlace with isFirst | isLater
      · exact Fits.reachable fits (reached part.value (by simp [values])) isFirst
      · refine PartsFit.reachable restFits ?_ isLater
        intro inner isPart
        exact reached inner (List.mem_cons_of_mem _ isPart)

end

mutual

/-- The references of a tree are its root and those in the containers that are cut open. -/
theorem Fits.length_places {store : Store} :
    {tree : Unfolding} → tree.Fits store →
      tree.places.length = references store [tree.value] +
        (tree.nodes.map fun node => references store (store.valuesAt node)).sum
  | scalar value, fits => by
      have absent : value.container? store = none := by
        cases refers : value.container? store with
        | none => rfl
        | some node =>
            obtain ⟨same, container, found⟩ := Value.container?_eq_some_iff.mp refers
            rw [fits node same] at found
            cases found
      simp [places, references, Unfolding.value, absent]
  | again node, ⟨container, found⟩ => by
      simp [places, references, Unfolding.value, Value.container?, found]
  | full node kind parts, ⟨container, found, _, parts_eq, partsFit⟩ => by
      have inner := PartsFit.length_placesOf partsFit
      rw [← parts_eq, ← Container.values_eq, ← Store.valuesAt_eq found] at inner
      simp only [places, nodes_full, List.length_cons, List.map_cons, List.sum_cons, inner,
        references, List.countP_singleton, Unfolding.value, Value.container?, found]
      simp
      omega

theorem PartsFit.length_placesOf {store : Store} :
    {parts : List (Option String × Unfolding)} → PartsFit store parts →
      (placesOf parts).length = references store ((values parts).map (·.2)) +
        ((nodesOf parts).map fun node => references store (store.valuesAt node)).sum
  | [], _ => by simp [placesOf, values, references]
  | (_, part) :: rest, ⟨fits, restFits⟩ => by
      have first := Fits.length_places fits
      have others := PartsFit.length_placesOf restFits
      simp only [references, values, List.map_cons, List.countP_cons, List.countP_nil, placesOf,
        nodesOf_cons, List.length_append, List.map_append, List.sum_append] at first others ⊢
      omega

end

end Unfolding

/-! ## The containers of an unfolding -/

section Unfolded

variable (store : Store) (root : Value)

theorem unfolding_isTree :
    IsTree store ∅ (unfoldValue store ∅ root).met root (unfolding store root) :=
  unfoldValue_isTree store ∅ root

theorem opensFirst_unfolding : Unfolding.OpensFirst ∅ (unfolding store root).places :=
  (unfolding_isTree store root).inOrder.opensFirst

/-- Each container is cut open at most once. -/
theorem nodup_nodes_unfolding : (unfolding store root).nodes.Nodup :=
  (opensFirst_unfolding store root).nodup_opened.1

variable {store root}

theorem mem_nodes_of_mem_places {node : NodeId}
    (isPlace : node ∈ (unfolding store root).places.map (·.1)) :
    node ∈ (unfolding store root).nodes := by
  rcases (opensFirst_unfolding store root).mem_opened isPlace with isSeen | isOpened
  · simp at isSeen
  · exact isOpened

/-- The containers that are cut open are those that can be reached. -/
theorem mem_nodes_unfolding_iff {node : NodeId} :
    node ∈ (unfolding store root).nodes ↔ Reachable store root node := by
  have isTree := unfolding_isTree store root
  constructor
  · intro isNode
    refine isTree.fits.reachable ?_ (Unfolding.mem_places_of_mem_opened isNode)
    intro first refers
    rw [isTree.value_eq] at refers
    exact Reachable.root refers
  · intro reached
    induction reached with
    | root refers =>
        rw [← isTree.value_eq] at refers
        exact mem_nodes_of_mem_places (isTree.fits.mem_places refers)
    | part _ found isPart refers ih =>
        exact mem_nodes_of_mem_places
          (isTree.fits.mem_places_of_mem_nodes found isPart refers ih)

variable (store root)

open Classical in
/-- The containers that can be reached. -/
noncomputable def reachableNodes : Finset NodeId :=
  (Finset.range store.size).filter (Reachable store root)

/-- How many references to containers can be met: the root, and those in all reachable containers. -/
noncomputable def reachableReferences : Nat :=
  references store [root] +
    ∑ node ∈ reachableNodes store root, references store (store.valuesAt node)

theorem toFinset_nodes_unfolding :
    (unfolding store root).nodes.toFinset = reachableNodes store root := by
  ext node
  simp only [List.mem_toFinset, mem_nodes_unfolding_iff, reachableNodes, Finset.mem_filter,
    Finset.mem_range]
  constructor
  · intro reached
    refine ⟨?_, reached⟩
    cases reached with
    | root refers =>
        obtain ⟨_, container, found⟩ := Value.container?_eq_some_iff.mp refers
        exact lt_size_of_container? found
    | part _ _ _ refers =>
        obtain ⟨_, container, found⟩ := Value.container?_eq_some_iff.mp refers
        exact lt_size_of_container? found
  · exact And.right

theorem length_nodes_unfolding :
    (unfolding store root).nodes.length = (reachableNodes store root).card := by
  rw [← toFinset_nodes_unfolding,
    List.toFinset_card_of_nodup (nodup_nodes_unfolding store root)]

theorem length_places_unfolding :
    (unfolding store root).places.length = reachableReferences store root := by
  have isTree := unfolding_isTree store root
  rw [isTree.fits.length_places, isTree.value_eq, reachableReferences,
    ← toFinset_nodes_unfolding, List.sum_toFinset _ (nodup_nodes_unfolding store root)]

/-- The references that can be met are the containers that are cut open and the repeats. -/
theorem length_repeats_unfolding :
    (unfolding store root).repeats.length + (reachableNodes store root).card =
      reachableReferences store root := by
  have total := Unfolding.length_opened_add_repeated (unfolding store root).places
  rw [length_places_unfolding] at total
  rw [← length_nodes_unfolding, Nat.add_comm]
  exact total

end Unfolded

end RepoSurvey.Graph
