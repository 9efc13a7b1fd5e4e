import Mathlib.Data.Finset.Card
import RepoSurvey.Graph.Render

/-!
# Unfoldings

A graph cut open into a tree by plain recursion: depth first, from left to right, with the containers
met so far handed on from each part to the next.  A container is cut open where it is met first, and
every later reference to it is a leaf of the tree.

A tree is the unfolding of a graph exactly if it fits the store and its references stand in the right
order (`unfoldValue_eq_iff`), so what follows about unfoldings is proved by recursion on trees.
-/

namespace RepoSurvey.Graph

/-- A graph cut open into a tree. -/
inductive Unfolding
  | scalar (value : Value)
  /-- A container that is cut open at an earlier place. -/
  | again (node : NodeId)
  | full (node : NodeId) (kind : BracketKind) (parts : List (Option String × Unfolding))
  deriving Inhabited

namespace Unfolding

/-- The value that a tree is the unfolding of. -/
def value : Unfolding → Value
  | scalar value => value
  | again node | full node _ _ => .container node

/-- The keys and values of some parts. -/
def values (parts : List (Option String × Unfolding)) : List (Option String × Value) :=
  parts.map fun part => (part.1, part.2.value)

mutual

/-- The references of a tree in document order, and whether the container is cut open there. -/
def places : Unfolding → List (NodeId × Bool)
  | scalar _ => []
  | again node => [(node, false)]
  | full node _ parts => (node, true) :: placesOf parts

def placesOf : List (Option String × Unfolding) → List (NodeId × Bool)
  | [] => []
  | (_, part) :: rest => places part ++ placesOf rest

end

/-- The containers that are cut open at some places. -/
def opened (places : List (NodeId × Bool)) : List NodeId := (places.filter (·.2)).map (·.1)

/-- The containers that stand as leaves at some places. -/
def repeated (places : List (NodeId × Bool)) : List NodeId := (places.filter (!·.2)).map (·.1)

/-- The containers that are cut open in a tree, in document order. -/
def nodes (tree : Unfolding) : List NodeId := opened tree.places

def nodesOf (parts : List (Option String × Unfolding)) : List NodeId := opened (placesOf parts)

/-- The containers that are leaves of a tree, each as often as it is one. -/
def repeats (tree : Unfolding) : List NodeId := repeated tree.places

def repeatsOf (parts : List (Option String × Unfolding)) : List NodeId :=
  repeated (placesOf parts)

@[simp] theorem nodes_scalar (value : Value) : (scalar value).nodes = [] := by
  simp [nodes, opened, places]

@[simp] theorem nodes_again (node : NodeId) : (again node).nodes = [] := by
  simp [nodes, opened, places]

@[simp] theorem nodes_full (node : NodeId) (kind : BracketKind)
    (parts : List (Option String × Unfolding)) :
    (full node kind parts).nodes = node :: nodesOf parts := by
  simp [nodes, nodesOf, opened, places]

@[simp] theorem nodesOf_nil : nodesOf [] = [] := by
  simp [nodesOf, opened, placesOf]

@[simp] theorem nodesOf_cons (key : Option String) (part : Unfolding)
    (rest : List (Option String × Unfolding)) :
    nodesOf ((key, part) :: rest) = part.nodes ++ nodesOf rest := by
  simp [nodes, nodesOf, opened, placesOf]

@[simp] theorem repeats_scalar (value : Value) : (scalar value).repeats = [] := by
  simp [repeats, repeated, places]

@[simp] theorem repeats_again (node : NodeId) : (again node).repeats = [node] := by
  simp [repeats, repeated, places]

@[simp] theorem repeats_full (node : NodeId) (kind : BracketKind)
    (parts : List (Option String × Unfolding)) :
    (full node kind parts).repeats = repeatsOf parts := by
  simp [repeats, repeatsOf, repeated, places]

@[simp] theorem repeatsOf_nil : repeatsOf [] = [] := by
  simp [repeatsOf, repeated, placesOf]

@[simp] theorem repeatsOf_cons (key : Option String) (part : Unfolding)
    (rest : List (Option String × Unfolding)) :
    repeatsOf ((key, part) :: rest) = part.repeats ++ repeatsOf rest := by
  simp [repeats, repeatsOf, repeated, placesOf]

mutual

/-- A tree holds what a store holds: each container has its parts wherever it is cut open. -/
def Fits (store : Store) : Unfolding → Prop
  | scalar value => ∀ node, value = .container node → store.container? node = none
  | again node => ∃ container, store.container? node = some container
  | full node kind parts =>
      ∃ container, store.container? node = some container ∧ container.bracketKind = kind ∧
        container.parts = values parts ∧ PartsFit store parts

def PartsFit (store : Store) : List (Option String × Unfolding) → Prop
  | [] => True
  | (_, part) :: rest => Fits store part ∧ PartsFit store rest

end

mutual

/-- After the containers `seen`, a container is cut open where it comes first, and nowhere else. -/
def InOrder (seen : Finset NodeId) : Unfolding → Prop
  | scalar _ => True
  | again node => node ∈ seen
  | full node _ parts => node ∉ seen ∧ PartsInOrder (insert node seen) parts

def PartsInOrder (seen : Finset NodeId) : List (Option String × Unfolding) → Prop
  | [] => True
  | (_, part) :: rest =>
      InOrder seen part ∧ PartsInOrder (seen ∪ part.nodes.toFinset) rest

end

end Unfolding

/-! ## Plain recursion -/

/-- What unfolding gives, and the containers met by then. None of `seen` is forgotten. -/
structure Unfolded (seen : Finset NodeId) (α : Type) where
  result : α
  met : Finset NodeId
  seen_subset : seen ⊆ met

/-- How many containers of a store have not been met. -/
def unmet (store : Store) (seen : Finset NodeId) : Nat := (Finset.range store.size \ seen).card

theorem unmet_le_of_subset (store : Store) {seen met : Finset NodeId} (subset : seen ⊆ met) :
    unmet store met ≤ unmet store seen :=
  Finset.card_le_card (Finset.sdiff_subset_sdiff (Finset.Subset.refl _) subset)

theorem unmet_insert_lt {store : Store} {seen : Finset NodeId} {node : NodeId}
    (isIn : node < store.size) (isNew : node ∉ seen) :
    unmet store (insert node seen) < unmet store seen := by
  apply Finset.card_lt_card
  refine Finset.ssubset_iff_subset_ne.mpr
    ⟨Finset.sdiff_subset_sdiff (Finset.Subset.refl _) (Finset.subset_insert _ _), ?_⟩
  intro same
  have isLeft : node ∈ Finset.range store.size \ seen := by simp [isIn, isNew]
  rw [← same] at isLeft
  simp at isLeft

theorem lt_size_of_container? {store : Store} {node : NodeId} {container : Container}
    (found : store.container? node = some container) : node < store.size :=
  (Array.getElem?_eq_some_iff.mp found).1

mutual

/-- Unfolds a value after the containers `seen`. -/
def unfoldValue (store : Store) (seen : Finset NodeId) (value : Value) :
    Unfolded seen Unfolding :=
  match value with
  | .container node =>
      match _ : store.container? node with
      | none => ⟨.scalar (.container node), seen, Finset.Subset.refl _⟩
      | some container =>
          if _ : node ∈ seen then ⟨.again node, seen, Finset.Subset.refl _⟩
          else
            let inner := unfoldParts store (insert node seen) container.parts
            ⟨.full node container.bracketKind inner.result, inner.met,
              (Finset.subset_insert _ _).trans inner.seen_subset⟩
  | scalar => ⟨.scalar scalar, seen, Finset.Subset.refl _⟩
  termination_by (unmet store seen, 0)
  decreasing_by
    exact Prod.Lex.left _ _ (unmet_insert_lt (lt_size_of_container? (by assumption)) (by assumption))

/-- Unfolds parts one after the other. -/
def unfoldParts (store : Store) (seen : Finset NodeId) (parts : List (Option String × Value)) :
    Unfolded seen (List (Option String × Unfolding)) :=
  match parts with
  | [] => ⟨[], seen, Finset.Subset.refl _⟩
  | (key, value) :: rest =>
      let first := unfoldValue store seen value
      let others := unfoldParts store first.met rest
      ⟨(key, first.result) :: others.result, others.met,
        first.seen_subset.trans others.seen_subset⟩
  termination_by (unmet store seen, parts.length + 1)
  decreasing_by
    · exact Prod.Lex.right _ (by simp)
    · have fewer := unmet_le_of_subset store first.seen_subset
      rcases Nat.lt_or_eq_of_le fewer with isLess | same
      · exact Prod.Lex.left _ _ isLess
      · rw [same]
        exact Prod.Lex.right _ (by simp)

end

/-- The tree of a graph. -/
def unfolding (store : Store) (root : Value) : Unfolding := (unfoldValue store ∅ root).result

section Equations

variable {store : Store} {seen : Finset NodeId} {node : NodeId} {container : Container}

theorem unfoldValue_absent (absent : store.container? node = none) :
    unfoldValue store seen (.container node) =
      ⟨.scalar (.container node), seen, Finset.Subset.refl _⟩ := by
  rw [unfoldValue]
  split
  · rfl
  · rename_i found
    rw [absent] at found
    cases found

theorem unfoldValue_seen (found : store.container? node = some container)
    (isSeen : node ∈ seen) :
    unfoldValue store seen (.container node) = ⟨.again node, seen, Finset.Subset.refl _⟩ := by
  rw [unfoldValue]
  split
  · rename_i absent
    rw [absent] at found
    cases found
  · rw [dif_pos isSeen]

theorem unfoldValue_new (found : store.container? node = some container)
    (isNew : node ∉ seen) :
    unfoldValue store seen (.container node) =
      ⟨.full node container.bracketKind
          (unfoldParts store (insert node seen) container.parts).result,
        (unfoldParts store (insert node seen) container.parts).met,
        (Finset.subset_insert _ _).trans
          (unfoldParts store (insert node seen) container.parts).seen_subset⟩ := by
  rw [unfoldValue]
  split
  · rename_i absent
    rw [absent] at found
    cases found
  · rename_i other isOther
    rw [found] at isOther
    cases isOther
    rw [dif_neg isNew]

theorem unfoldValue_scalar {value : Value} (isScalar : ∀ other, value = .container other → False) :
    unfoldValue store seen value = ⟨.scalar value, seen, Finset.Subset.refl _⟩ := by
  cases value with
  | container node => exact (isScalar node rfl).elim
  | _ =>
      rw [unfoldValue]
      exact isScalar

theorem unfoldParts_nil :
    unfoldParts store seen [] = ⟨[], seen, Finset.Subset.refl _⟩ := by
  rw [unfoldParts]

theorem unfoldParts_cons (key : Option String) (value : Value)
    (rest : List (Option String × Value)) :
    unfoldParts store seen ((key, value) :: rest) =
      ⟨(key, (unfoldValue store seen value).result) ::
          (unfoldParts store (unfoldValue store seen value).met rest).result,
        (unfoldParts store (unfoldValue store seen value).met rest).met,
        (unfoldValue store seen value).seen_subset.trans
          (unfoldParts store (unfoldValue store seen value).met rest).seen_subset⟩ := by
  rw [unfoldParts]

end Equations

/-! ## What makes a tree the unfolding of a graph -/

/-- A tree is what a value becomes after the containers `seen`, and `met` are those met by then. -/
structure IsTree (store : Store) (seen met : Finset NodeId) (value : Value) (tree : Unfolding) :
    Prop where
  value_eq : tree.value = value
  fits : tree.Fits store
  inOrder : tree.InOrder seen
  met_eq : met = seen ∪ tree.nodes.toFinset

/-- The same for trees of values that come one after the other. -/
structure AreTrees (store : Store) (seen met : Finset NodeId)
    (parts : List (Option String × Value)) (trees : List (Option String × Unfolding)) : Prop where
  values_eq : Unfolding.values trees = parts
  fit : Unfolding.PartsFit store trees
  inOrder : Unfolding.PartsInOrder seen trees
  met_eq : met = seen ∪ (Unfolding.nodesOf trees).toFinset

open Unfolding in
private theorem unfold_isTree (store : Store) :
    (∀ seen value, IsTree store seen (unfoldValue store seen value).met value
        (unfoldValue store seen value).result) ∧
      ∀ seen parts, AreTrees store seen (unfoldParts store seen parts).met parts
        (unfoldParts store seen parts).result := by
  -- A container may be absent, seen before or new; then come the other values, and parts that are none or
  -- begin with one.
  apply unfoldValue.mutual_induct store
  · intro seen node absent
    rw [unfoldValue_absent absent]
    refine ⟨rfl, ?_, trivial, by simp⟩
    intro other same
    cases same
    exact absent
  · intro seen node container found isSeen
    rw [unfoldValue_seen found isSeen]
    exact ⟨rfl, ⟨container, found⟩, isSeen, by simp⟩
  · intro seen node container found isNew inner
    rw [unfoldValue_new found isNew]
    refine ⟨rfl, ⟨container, found, rfl, inner.values_eq.symm, inner.fit⟩,
      ⟨isNew, inner.inOrder⟩, ?_⟩
    rw [nodes_full, List.toFinset_cons, Finset.union_insert, ← Finset.insert_union]
    exact inner.met_eq
  · intro seen value isScalar
    rw [unfoldValue_scalar isScalar]
    refine ⟨rfl, ?_, trivial, by simp⟩
    intro node same
    exact (isScalar node same).elim
  · intro seen
    rw [unfoldParts_nil]
    exact ⟨rfl, trivial, trivial, by simp⟩
  · intro seen key value rest _ first others _
    rw [unfoldParts_cons]
    refine ⟨?_, ⟨first.fits, others.fit⟩, ⟨first.inOrder, ?_⟩, ?_⟩
    · exact congrArg₂ (· :: ·) (congrArg (key, ·) first.value_eq) others.values_eq
    · rw [← first.met_eq]
      exact others.inOrder
    · rw [nodesOf_cons, List.toFinset_append, ← Finset.union_assoc, ← first.met_eq]
      exact others.met_eq

theorem unfoldValue_isTree (store : Store) (seen : Finset NodeId) (value : Value) :
    IsTree store seen (unfoldValue store seen value).met value
      (unfoldValue store seen value).result :=
  (unfold_isTree store).1 seen value

namespace Unfolding

mutual

/-- A tree that fits and whose references are in order is what unfolding gives. -/
theorem unfoldValue_value {store : Store} {seen : Finset NodeId} :
    (tree : Unfolding) → tree.Fits store → tree.InOrder seen →
      (unfoldValue store seen tree.value).result = tree
  | scalar value, fits, _ => by
      change (unfoldValue store seen value).result = scalar value
      cases value with
      | container node => rw [unfoldValue_absent (fits node rfl)]
      | _ => rw [unfoldValue_scalar (by intro other same; cases same)]
  | again node, ⟨container, found⟩, isSeen => by
      rw [value, unfoldValue_seen found isSeen]
  | full node kind parts, ⟨container, found, kind_eq, parts_eq, partsFit⟩,
      ⟨isNew, partsInOrder⟩ => by
      rw [value, unfoldValue_new found isNew, parts_eq, kind_eq,
        unfoldParts_values parts partsFit partsInOrder]

theorem unfoldParts_values {store : Store} {seen : Finset NodeId} :
    (parts : List (Option String × Unfolding)) → PartsFit store parts →
      PartsInOrder seen parts → (unfoldParts store seen (values parts)).result = parts
  | [], _, _ => by rw [values, List.map_nil, unfoldParts_nil]
  | (key, part) :: rest, ⟨fits, restFits⟩, ⟨inOrder, restInOrder⟩ => by
      have first := unfoldValue_value part fits inOrder
      have met_eq := (unfoldValue_isTree store seen part.value).met_eq
      rw [first] at met_eq
      rw [← met_eq] at restInOrder
      have others := unfoldParts_values rest restFits restInOrder
      rw [values, List.map_cons, unfoldParts_cons]
      exact congrArg₂ (fun tree trees => (key, tree) :: trees) first others

end

end Unfolding

/-- A tree is the unfolding of a value exactly if it fits the store and a container is cut open at the
first reference to it and nowhere else. -/
theorem unfoldValue_eq_iff {store : Store} {seen : Finset NodeId} {value : Value}
    {tree : Unfolding} :
    (unfoldValue store seen value).result = tree ↔
      tree.value = value ∧ tree.Fits store ∧ tree.InOrder seen := by
  constructor
  · rintro rfl
    have isTree := unfoldValue_isTree store seen value
    exact ⟨isTree.value_eq, isTree.fits, isTree.inOrder⟩
  · rintro ⟨rfl, fits, inOrder⟩
    exact tree.unfoldValue_value fits inOrder

end RepoSurvey.Graph
