import Mathlib.Data.Set.Function
import RepoSurvey.Proofs.Graph.RoundTrip

/-!
# Identities do not show

The identity of a container tells which references lead to the same container, and nothing else.  When
the containers of a graph get other identities, the tree of the graph gets them too and stays the same
otherwise (`Renames.unfolding_eq`).  No text of a graph and no document tells an identity.

What a traversal has visited is carried along by the renaming.  So the renaming has to be injective on
all that can be reached, arrays and objects together.
-/

namespace RepoSurvey.Graph

/-- A value with another identity if it is a container. -/
def Value.renamed (rename : NodeId → NodeId) : Value → Value
  | container node => container (rename node)
  | scalar => scalar

/-- A container with the same entries, whose containers have other identities. -/
def Container.renamed (rename : NodeId → NodeId) : Container → Container
  | array items => array (items.map (·.renamed rename))
  | object entries => object (entries.map (Prod.map id (·.renamed rename)))

/-- A graph becomes another one when its containers get other identities.  What cannot be reached does
not count, and a reference to nothing stays one. -/
structure Renames (rename : NodeId → NodeId) (first : Store) (root : Value) (second : Store)
    (other : Value) : Prop where
  root_eq : other = root.renamed rename
  injective : Set.InjOn rename {node | Reachable first root node}
  found : ∀ node container, Reachable first root node → first.container? node = some container →
    second.container? (rename node) = some (container.renamed rename)
  absent : ∀ node, first.container? node = none → second.container? (rename node) = none

section Renamed

variable (rename : NodeId → NodeId)

@[simp] theorem Container.bracketKind_renamed (container : Container) :
    (container.renamed rename).bracketKind = container.bracketKind := by
  cases container <;> rfl

theorem Container.parts_renamed (container : Container) :
    (container.renamed rename).parts =
      container.parts.map (Prod.map id (Value.renamed rename)) := by
  cases container with
  | array items => simp [renamed, parts]
  | object entries => simp [renamed, parts]

@[simp] theorem Value.scalarOrdered_renamed (value : Value) :
    (value.renamed rename).scalarOrdered = value.scalarOrdered := by
  cases value <;> rfl

namespace Unfolding

mutual

/-- A tree with other identities. -/
def renamed : Unfolding → Unfolding
  | scalar value => scalar (value.renamed rename)
  | again node => again (rename node)
  | full node kind parts => full (rename node) kind (renamedParts parts)

def renamedParts : List (Option String × Unfolding) → List (Option String × Unfolding)
  | [] => []
  | (key, part) :: rest => (key, renamed part) :: renamedParts rest

end

@[simp] theorem value_renamed (tree : Unfolding) :
    (tree.renamed rename).value = tree.value.renamed rename := by
  cases tree <;> rfl

theorem values_renamedParts (parts : List (Option String × Unfolding)) :
    values (renamedParts rename parts) =
      (values parts).map (Prod.map id (Value.renamed rename)) := by
  induction parts with
  | nil => rfl
  | cons part rest ih =>
      rw [renamedParts, values, List.map_cons, value_renamed]
      exact congrArg _ ih

mutual

/-- The containers that are cut open are the same, with other identities. -/
theorem nodes_renamed : (tree : Unfolding) → (tree.renamed rename).nodes = tree.nodes.map rename
  | scalar _ => by simp [renamed]
  | again _ => by simp [renamed]
  | full node kind parts => by
      rw [renamed, nodes_full, nodes_full, List.map_cons, nodesOf_renamedParts parts]

theorem nodesOf_renamedParts : (parts : List (Option String × Unfolding)) →
    nodesOf (renamedParts rename parts) = (nodesOf parts).map rename
  | [] => by simp [renamedParts]
  | (key, part) :: rest => by
      rw [renamedParts, nodesOf_cons, nodesOf_cons, List.map_append, nodes_renamed part,
        nodesOf_renamedParts rest]

end

mutual

/-- No identity is shown. -/
theorem ordered_renamed : (tree : Unfolding) → (tree.renamed rename).ordered = tree.ordered
  | scalar value => value.scalarOrdered_renamed rename
  | again _ => rfl
  | full _ .array parts => by
      rw [renamed, ordered, ordered, (orderedParts_renamed parts).1]
  | full _ .object parts => by
      rw [renamed, ordered, ordered, (orderedParts_renamed parts).2]

theorem orderedParts_renamed : (parts : List (Option String × Unfolding)) →
    orderedItems (renamedParts rename parts) = orderedItems parts ∧
      orderedMembers (renamedParts rename parts) = orderedMembers parts
  | [] => ⟨rfl, rfl⟩
  | (key, part) :: rest => by
      obtain ⟨items_eq, members_eq⟩ := orderedParts_renamed rest
      rw [renamedParts, orderedItems, orderedItems, orderedMembers, orderedMembers,
        ordered_renamed part, items_eq, members_eq]
      exact ⟨rfl, rfl⟩

end

end Unfolding

end Renamed

namespace Unfolding

variable {rename : NodeId → NodeId}

mutual

/-- A tree that fits one store fits another one when it is renamed, if the containers that it refers to
are there under their new identities. -/
theorem Fits.renamed {first second : Store}
    (absent : ∀ node, first.container? node = none → second.container? (rename node) = none) :
    {tree : Unfolding} → tree.Fits first →
      (∀ node ∈ tree.places.map (·.1), ∀ container, first.container? node = some container →
        second.container? (rename node) = some (container.renamed rename)) →
        (tree.renamed rename).Fits second
  | scalar value, fits, _ => by
      intro node value_eq
      cases value with
      | container other =>
          cases value_eq
          exact absent other (fits other rfl)
      | _ => cases value_eq
  | again node, ⟨container, isThere⟩, found =>
      ⟨_, found node (by simp [places]) container isThere⟩
  | full node kind parts, ⟨container, isThere, kind_eq, parts_eq, partsFit⟩, found => by
      rw [places, List.map_cons, List.forall_mem_cons] at found
      refine ⟨_, found.1 container isThere, ?_, ?_,
        PartsFit.renamedParts absent partsFit found.2⟩
      · rw [Container.bracketKind_renamed, kind_eq]
      · rw [Container.parts_renamed, parts_eq, values_renamedParts]

theorem PartsFit.renamedParts {first second : Store}
    (absent : ∀ node, first.container? node = none → second.container? (rename node) = none) :
    {parts : List (Option String × Unfolding)} → PartsFit first parts →
      (∀ node ∈ (placesOf parts).map (·.1), ∀ container,
        first.container? node = some container →
          second.container? (rename node) = some (container.renamed rename)) →
        PartsFit second (renamedParts rename parts)
  | [], _, _ => trivial
  | (_, part) :: rest, ⟨fits, restFits⟩, found => by
      rw [placesOf, List.map_append, List.forall_mem_append] at found
      exact ⟨fits.renamed absent found.1, PartsFit.renamedParts absent restFits found.2⟩

end

mutual

/-- A renaming that keeps containers apart keeps their references in order.  The containers that were
seen are renamed as well. -/
theorem InOrder.renamed {known : Set NodeId} (injective : Set.InjOn rename known)
    {seen : Finset NodeId} (areSeen : ∀ node ∈ seen, node ∈ known) :
    {tree : Unfolding} → tree.InOrder seen → (∀ node ∈ tree.nodes, node ∈ known) →
      (tree.renamed rename).InOrder (seen.image rename)
  | scalar _, _, _ => trivial
  | again node, isSeen, _ => Finset.mem_image_of_mem rename isSeen
  | full node kind parts, ⟨isNew, partsInOrder⟩, areKnown => by
      rw [nodes_full, List.forall_mem_cons] at areKnown
      constructor
      · intro isImage
        obtain ⟨other, isSeen, same⟩ := Finset.mem_image.mp isImage
        rw [injective (areSeen other isSeen) areKnown.1 same] at isSeen
        exact isNew isSeen
      · rw [← Finset.image_insert]
        have areMet := (Finset.forall_mem_insert _ _ _).mpr ⟨areKnown.1, areSeen⟩
        exact PartsInOrder.renamedParts injective areMet partsInOrder areKnown.2

theorem PartsInOrder.renamedParts {known : Set NodeId} (injective : Set.InjOn rename known)
    {seen : Finset NodeId} (areSeen : ∀ node ∈ seen, node ∈ known) :
    {parts : List (Option String × Unfolding)} → PartsInOrder seen parts →
      (∀ node ∈ nodesOf parts, node ∈ known) →
        PartsInOrder (seen.image rename) (renamedParts rename parts)
  | [], _, _ => trivial
  | (_, part) :: rest, ⟨inOrder, restInOrder⟩, areKnown => by
      rw [nodesOf_cons, List.forall_mem_append] at areKnown
      refine ⟨inOrder.renamed injective areSeen areKnown.1, ?_⟩
      have met_eq : seen.image rename ∪ (part.renamed rename).nodes.toFinset =
          (seen ∪ part.nodes.toFinset).image rename := by
        ext node
        simp [nodes_renamed, or_and_right, exists_or]
      rw [met_eq]
      refine PartsInOrder.renamedParts injective ?_ restInOrder areKnown.2
      intro node isMet
      rcases Finset.mem_union.mp isMet with isSeen | isNode
      · exact areSeen node isSeen
      · exact areKnown.1 node (List.mem_toFinset.mp isNode)

end

end Unfolding

namespace Renames

variable {rename : NodeId → NodeId} {first second : Store} {root other : Value}

/-- The tree of a renamed graph is the renamed tree. -/
theorem unfolding_eq (renames : Renames rename first root second other) :
    unfolding second other = (unfolding first root).renamed rename := by
  have isTree := unfolding_isTree first root
  have areReached : ∀ node ∈ (unfolding first root).places.map (·.1), Reachable first root node :=
    fun node isPlace => mem_nodes_unfolding_iff.mp (mem_nodes_of_mem_places isPlace)
  refine unfoldValue_eq_iff.mpr ⟨?_, ?_, ?_⟩
  · rw [Unfolding.value_renamed, isTree.value_eq, renames.root_eq]
  · exact isTree.fits.renamed renames.absent fun node isPlace container =>
      renames.found node container (areReached node isPlace)
  · exact isTree.inOrder.renamed renames.injective (by simp)
      fun node isNode => mem_nodes_unfolding_iff.mp isNode

/-- The renaming is a bijection between the containers of the two graphs. -/
theorem bijOn (renames : Renames rename first root second other) :
    Set.BijOn rename {node | Reachable first root node} {node | Reachable second other node} := by
  have image_eq : rename '' {node | Reachable first root node} =
      {node | Reachable second other node} := by
    ext node
    simp only [Set.mem_image, Set.mem_ofPred_eq, ← mem_nodes_unfolding_iff, renames.unfolding_eq,
      Unfolding.nodes_renamed, List.mem_map]
  rw [← image_eq]
  exact renames.injective.bijOn_image

end Renames

/-- Both texts of a graph and its document are the same for all identities of its containers. -/
theorem texts_tell_no_identities {rename : NodeId → NodeId} {first second : Store}
    {root other : Value} (renames : Renames rename first root second other) :
    compactText second other = compactText first root ∧
      prettyText second other = prettyText first root ∧
        document second other = document first root := by
  have ordered_eq : (unfolding second other).ordered = (unfolding first root).ordered := by
    rw [renames.unfolding_eq, Unfolding.ordered_renamed]
  refine ⟨?_, ?_, ?_⟩
  · rw [compactText_eq, compactText_eq, ordered_eq]
  · rw [prettyText_eq, prettyText_eq, ordered_eq]
  · rw [document_eq, document_eq, ordered_eq]

/-- The containers of `knot` at other places, behind one that cannot be reached. -/
def scatteredKnot : Store :=
  ⟨#[.array #[.container 2], .array #[.number (.integer (-7)), .null, .string "\\"],
    .object #[("self", .container 2), ("list", .container 1), ("a \"key\"\n", .container 1)]]⟩

/-- Where the containers of `knot` stand in `scatteredKnot`. -/
def scatter : NodeId → NodeId
  | 0 => 2
  | 1 => 1
  | node + 2 => node + 3

theorem renames_scatter :
    Renames scatter knot (.container 0) scatteredKnot (.container 2) where
  root_eq := rfl
  injective := by
    intro first _ second _ same
    rcases first with _ | _ | first <;> rcases second with _ | _ | second <;>
      simp_all [scatter]
  found node container _ found := by
    rcases node with _ | _ | node
    · cases found
      simp [knot, scatteredKnot, scatter, Store.container?, Container.renamed, Value.renamed]
    · cases found
      simp [knot, scatteredKnot, scatter, Store.container?, Container.renamed, Value.renamed]
    · cases found
  absent node absent := by
    rcases node with _ | _ | node
    · cases absent
    · cases absent
    · rfl

theorem texts_of_scatteredKnot :
    Renames scatter knot (.container 0) scatteredKnot (.container 2) ∧
      compactText scatteredKnot (.container 2) = compactText knot (.container 0) ∧
        prettyText scatteredKnot (.container 2) = prettyText knot (.container 0) ∧
          document scatteredKnot (.container 2) = document knot (.container 0) :=
  ⟨renames_scatter, texts_tell_no_identities renames_scatter⟩

end RepoSurvey.Graph
