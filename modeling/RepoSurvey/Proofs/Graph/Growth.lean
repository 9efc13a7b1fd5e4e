import RepoSurvey.Proofs.Graph.Members
import RepoSurvey.Proofs.Graph.References

/-!
# Growing stores

A store grows while a graph is built.  What a builder leaves behind is described by trees that stand in
the store: they share no containers with each other or with what was there before, so they go on
standing whatever is built next, and side by side they are in the order of one unfolding.
-/

namespace RepoSurvey.Graph

/-! ## Adding and changing containers -/

namespace Store

variable {store : Store} {node other : NodeId} {container : Container}

theorem container?_add_new : (store.add container).2.container? store.size = some container :=
  Array.getElem?_push_size

theorem container?_add_of_lt (isOld : node < store.size) :
    (store.add container).2.container? node = store.container? node := by
  have differs : node ≠ store.containers.size := Nat.ne_of_lt isOld
  rw [container?, add, Array.getElem?_push, if_neg differs]
  rfl

@[simp] theorem size_add : (store.add container).2.size = store.size + 1 :=
  Array.size_push container

theorem container?_update_same (change : Container → Container)
    (found : store.container? node = some container) :
    (store.update node change).container? node = some (change container) := by
  rw [container?] at found
  rw [container?, update, Array.getElem?_modify, if_pos rfl, found]
  rfl

theorem container?_update_of_ne (change : Container → Container) (differs : other ≠ node) :
    (store.update node change).container? other = store.container? other := by
  rw [container?, update, Array.getElem?_modify, if_neg (Ne.symm differs)]
  rfl

@[simp] theorem size_update (change : Container → Container) :
    (store.update node change).size = store.size :=
  Array.size_modify

end Store

/-- A later store. Containers stay what they were, except for those that are being filled. -/
structure Extends (before after : Store) (touched : List NodeId) : Prop where
  size_le : before.size ≤ after.size
  kept : ∀ node < before.size, node ∉ touched → after.container? node = before.container? node

namespace Extends

variable {before middle after : Store} {touched others : List NodeId}

theorem refl (store : Store) (touched : List NodeId) : Extends store store touched :=
  ⟨Nat.le_refl _, fun _ _ _ => rfl⟩

theorem mono (extended : Extends before after touched) (areKnown : touched ⊆ others) :
    Extends before after others :=
  ⟨extended.size_le, fun node isOld untouched =>
    extended.kept node isOld fun isTouched => untouched (areKnown isTouched)⟩

/-- What is filled later is new, or known to be filled. -/
theorem trans (first : Extends before middle touched) (second : Extends middle after others)
    (areKnown : ∀ node ∈ others, node < before.size → node ∈ touched) :
    Extends before after touched := by
  refine ⟨Nat.le_trans first.size_le second.size_le, ?_⟩
  intro node isOld untouched
  have notOther : node ∉ others := fun isOther => untouched (areKnown node isOther isOld)
  rw [second.kept node (Nat.lt_of_lt_of_le isOld first.size_le) notOther,
    first.kept node isOld untouched]

theorem add (store : Store) (container : Container) :
    Extends store (store.add container).2 [] := by
  refine ⟨?_, fun node isOld _ => Store.container?_add_of_lt isOld⟩
  rw [Store.size_add]
  exact Nat.le_succ _

theorem update (store : Store) (node : NodeId) (change : Container → Container) :
    Extends store (store.update node change) [node] := by
  refine ⟨Nat.le_of_eq (Store.size_update change).symm, ?_⟩
  intro other _ untouched
  exact Store.container?_update_of_ne change (by simpa using untouched)

theorem update_new (extended : Extends before after []) {node : NodeId}
    (isNew : before.size ≤ node) (change : Container → Container) :
    Extends before (after.update node change) [] := by
  refine extended.trans (.update after node change) fun other isTouched isOld => ?_
  rw [List.mem_singleton.mp isTouched] at isOld
  exact absurd isNew (Nat.not_le.mpr isOld)

end Extends

/-! ## Trees that stand in a store -/

theorem Value.string_ne_container (text : String) (node : NodeId) :
    Value.string text ≠ .container node :=
  Value.noConfusion

theorem Value.natural_ne_container (number : Nat) (node : NodeId) :
    Value.natural number ≠ .container node :=
  Value.noConfusion

namespace Unfolding

mutual

/-- No leaf of a tree refers to a container. -/
def Solid : Unfolding → Prop
  | scalar value => ∀ node, value ≠ .container node
  | again _ => True
  | full _ _ parts => PartsSolid parts

def PartsSolid : List (Option String × Unfolding) → Prop
  | [] => True
  | (_, part) :: rest => Solid part ∧ PartsSolid rest

end

mutual

/-- A tree fits every store that holds the same containers for it. -/
theorem Fits.later {before after : Store} :
    {tree : Unfolding} → tree.Fits before → tree.Solid →
      (∀ node ∈ tree.places.map (·.1), after.container? node = before.container? node) →
        tree.Fits after
  | scalar value, _, solid, _ => fun node isContainer => absurd isContainer (solid node)
  | again node, ⟨container, found⟩, _, same => by
      refine ⟨container, ?_⟩
      rw [same node (by simp [places]), found]
  | full node kind parts, ⟨container, found, kind_eq, parts_eq, partsFit⟩, solid, same => by
      have here : after.container? node = some container := by
        rw [same node (by simp [places]), found]
      refine ⟨container, here, kind_eq, parts_eq, PartsFit.later partsFit solid ?_⟩
      intro inner isInner
      refine same inner ?_
      rw [places, List.map_cons]
      exact List.mem_cons_of_mem _ isInner

theorem PartsFit.later {before after : Store} :
    {parts : List (Option String × Unfolding)} → PartsFit before parts → PartsSolid parts →
      (∀ node ∈ (placesOf parts).map (·.1), after.container? node = before.container? node) →
        PartsFit after parts
  | [], _, _, _ => trivial
  | (_, part) :: rest, ⟨fits, restFits⟩, ⟨solid, restSolid⟩, same => by
      rw [placesOf, List.map_append, List.forall_mem_append] at same
      exact ⟨Fits.later fits solid same.1, PartsFit.later restFits restSolid same.2⟩

end

mutual

/-- A tree that is in order stays in order if more containers have been met that are not its own. -/
theorem InOrder.more {seen met : Finset NodeId} (subset : seen ⊆ met) :
    {tree : Unfolding} → tree.InOrder seen → (∀ node ∈ tree.nodes, node ∈ met → node ∈ seen) →
      tree.InOrder met
  | scalar _, _, _ => trivial
  | again _, isSeen, _ => subset isSeen
  | full node kind parts, ⟨isNew, inOrder⟩, notMet => by
      rw [nodes_full, List.forall_mem_cons] at notMet
      refine ⟨fun isMet => isNew (notMet.1 isMet), ?_⟩
      refine PartsInOrder.more (Finset.insert_subset_insert node subset) inOrder ?_
      intro inner isInner isMet
      rcases Finset.mem_insert.mp isMet with rfl | isMet
      · exact Finset.mem_insert_self _ _
      · exact Finset.mem_insert_of_mem (notMet.2 inner isInner isMet)

theorem PartsInOrder.more {seen met : Finset NodeId} (subset : seen ⊆ met) :
    {parts : List (Option String × Unfolding)} → PartsInOrder seen parts →
      (∀ node ∈ nodesOf parts, node ∈ met → node ∈ seen) → PartsInOrder met parts
  | [], _, _ => trivial
  | (_, part) :: rest, ⟨inOrder, restInOrder⟩, notMet => by
      rw [nodesOf_cons, List.forall_mem_append] at notMet
      refine ⟨InOrder.more subset inOrder notMet.1, ?_⟩
      refine PartsInOrder.more (Finset.union_subset_union_left subset) restInOrder ?_
      intro node isIn isMet
      rcases Finset.mem_union.mp isMet with isMet | isHere
      · exact Finset.mem_union_left _ (notMet.2 node isIn isMet)
      · exact Finset.mem_union_right _ isHere

end

mutual

theorem Fits.found {store : Store} {node : NodeId} :
    {tree : Unfolding} → tree.Fits store → node ∈ tree.nodes → node < store.size
  | scalar _, _, isIn => by simp at isIn
  | again _, _, isIn => by simp at isIn
  | full here kind parts, ⟨container, found, _, _, partsFit⟩, isIn => by
      rw [nodes_full, List.mem_cons] at isIn
      rcases isIn with rfl | isInner
      · exact lt_size_of_container? found
      · exact PartsFit.found partsFit isInner

theorem PartsFit.found {store : Store} {node : NodeId} :
    {parts : List (Option String × Unfolding)} → PartsFit store parts → node ∈ nodesOf parts →
      node < store.size
  | [], _, isIn => by simp at isIn
  | (_, part) :: rest, ⟨fits, restFits⟩, isIn => by
      rw [nodesOf_cons, List.mem_append] at isIn
      rcases isIn with isHere | isLater
      · exact Fits.found fits isHere
      · exact PartsFit.found restFits isLater

end

end Unfolding

/-- A tree whose containers are all in a store, from a place on, and that repeats none but its own. -/
structure Stands (store : Store) (low : Nat) (tree : Unfolding) : Prop where
  fits : tree.Fits store
  solid : tree.Solid
  inOrder : tree.InOrder ∅
  fresh : ∀ node ∈ tree.nodes, low ≤ node

/-- Trees that stand side by side and share nothing. -/
structure StandApart (store : Store) (low : Nat) (parts : List (Option String × Unfolding)) :
    Prop where
  stand : ∀ part ∈ parts, Stands store low part.2
  apart : parts.Pairwise fun first second => first.2.nodes.Disjoint second.2.nodes

namespace Stands

variable {store before after : Store} {low : Nat} {tree : Unfolding} {touched : List NodeId}

theorem scalar {value : Value} (isScalar : ∀ node, value ≠ .container node) :
    Stands store low (.scalar value) where
  fits node isContainer := absurd isContainer (isScalar node)
  solid := isScalar
  inOrder := trivial
  fresh := by simp

theorem lt_size (stands : Stands store low tree) {node : NodeId} (isIn : node ∈ tree.nodes) :
    node < store.size :=
  stands.fits.found isIn

/-- A tree goes on standing as long as none of its containers is filled. -/
theorem later (stands : Stands before low tree) (extended : Extends before after touched)
    (untouched : ∀ node ∈ touched, node ∉ tree.nodes) : Stands after low tree := by
  refine ⟨stands.fits.later stands.solid ?_, stands.solid, stands.inOrder, stands.fresh⟩
  intro node isPlace
  have isIn : node ∈ tree.nodes := by
    rcases stands.inOrder.opensFirst.mem_opened isPlace with isSeen | isOpened
    · simp at isSeen
    · exact isOpened
  exact extended.kept node (stands.lt_size isIn) fun isTouched => untouched node isTouched isIn

/-- New containers and changes to containers that are not new leave a tree alone. -/
theorem later_of_lt (stands : Stands before low tree) (extended : Extends before after touched)
    (areOlder : ∀ node ∈ touched, node < low) : Stands after low tree := by
  refine stands.later extended fun node isTouched isIn => ?_
  exact absurd (stands.fresh node isIn) (Nat.not_le.mpr (areOlder node isTouched))

theorem lower {bound : Nat} (stands : Stands store low tree) (isLower : bound ≤ low) :
    Stands store bound tree :=
  ⟨stands.fits, stands.solid, stands.inOrder, fun node isIn =>
    Nat.le_trans isLower (stands.fresh node isIn)⟩

/-- What stands is the unfolding of its value. -/
theorem unfolding_eq (stands : Stands store low tree) : unfolding store tree.value = tree :=
  unfoldValue_eq_iff.mpr ⟨rfl, stands.fits, stands.inOrder⟩

end Stands

namespace StandApart

variable {store before after : Store} {low : Nat}
  {parts others : List (Option String × Unfolding)} {touched : List NodeId}

theorem nil : StandApart store low [] := ⟨by simp, .nil⟩

theorem singleton {key : Option String} {tree : Unfolding} (stands : Stands store low tree) :
    StandApart store low [(key, tree)] := by
  refine ⟨?_, List.pairwise_singleton _ _⟩
  intro part isPart
  rw [List.mem_singleton] at isPart
  rw [isPart]
  exact stands

theorem mem_nodesOf {node : NodeId} :
    node ∈ Unfolding.nodesOf parts ↔ ∃ part ∈ parts, node ∈ part.2.nodes := by
  induction parts with
  | nil => simp
  | cons part rest ih =>
      obtain ⟨key, tree⟩ := part
      rw [Unfolding.nodesOf_cons, List.mem_append, ih]
      simp

theorem lt_size (standApart : StandApart store low parts) {node : NodeId}
    (isIn : node ∈ Unfolding.nodesOf parts) : node < store.size := by
  obtain ⟨part, isPart, isIn⟩ := mem_nodesOf.mp isIn
  exact (standApart.stand part isPart).lt_size isIn

theorem fresh (standApart : StandApart store low parts) {node : NodeId}
    (isIn : node ∈ Unfolding.nodesOf parts) : low ≤ node := by
  obtain ⟨part, isPart, isIn⟩ := mem_nodesOf.mp isIn
  exact (standApart.stand part isPart).fresh node isIn

theorem later_of_lt (standApart : StandApart before low parts)
    (extended : Extends before after touched) (areOlder : ∀ node ∈ touched, node < low) :
    StandApart after low parts :=
  ⟨fun part isPart => (standApart.stand part isPart).later_of_lt extended areOlder,
    standApart.apart⟩

theorem lower {bound : Nat} (standApart : StandApart store low parts) (isLower : bound ≤ low) :
    StandApart store bound parts :=
  ⟨fun part isPart => (standApart.stand part isPart).lower isLower, standApart.apart⟩

/-- What was built first and what was built later stand apart. -/
theorem append {middle : Nat} (standApart : StandApart store low parts)
    (othersApart : StandApart store middle others) (isLower : low ≤ middle)
    (areOlder : ∀ node ∈ Unfolding.nodesOf parts, node < middle) :
    StandApart store low (parts ++ others) := by
  constructor
  · intro part isPart
    rcases List.mem_append.mp isPart with isFirst | isLater
    · exact standApart.stand part isFirst
    · exact (othersApart.stand part isLater).lower isLower
  · refine List.pairwise_append.mpr ⟨standApart.apart, othersApart.apart, ?_⟩
    intro part isPart other isOther node isIn isInOther
    have isOld := areOlder node (mem_nodesOf.mpr ⟨part, isPart, isIn⟩)
    exact absurd ((othersApart.stand other isOther).fresh node isInOther) (Nat.not_le.mpr isOld)

/-- Some of the trees in another order stand apart as well. -/
theorem subperm (standApart : StandApart store low parts) (isSubperm : others.Subperm parts) :
    StandApart store low others := by
  obtain ⟨between, isPerm, isSublist⟩ := isSubperm
  refine ⟨fun part isPart => standApart.stand part ?_, ?_⟩
  · exact isSublist.subset (isPerm.symm.subset isPart)
  · exact (isPerm.pairwise_iff fun disjoint => disjoint.symm).mp
      (standApart.apart.sublist isSublist)

/-- Trees that stand apart are in order one after the other. -/
theorem partsInOrder (standApart : StandApart store low parts) {seen : Finset NodeId}
    (areNew : ∀ node ∈ Unfolding.nodesOf parts, node ∉ seen) :
    Unfolding.PartsInOrder seen parts := by
  induction parts generalizing seen with
  | nil => trivial
  | cons part rest ih =>
      obtain ⟨key, tree⟩ := part
      obtain ⟨stands, apart⟩ := standApart
      rw [List.forall_mem_cons] at stands
      rw [List.pairwise_cons] at apart
      rw [Unfolding.nodesOf_cons, List.forall_mem_append] at areNew
      refine ⟨?_, ih ⟨stands.2, apart.2⟩ ?_⟩
      · refine stands.1.inOrder.more (Finset.empty_subset _) ?_
        intro node isIn isSeen
        exact absurd isSeen (areNew.1 node isIn)
      · intro node isIn isMet
        rcases Finset.mem_union.mp isMet with isSeen | isHere
        · exact areNew.2 node isIn isSeen
        · obtain ⟨other, isOther, isInOther⟩ := mem_nodesOf.mp isIn
          exact apart.1 other isOther (by simpa using isHere) isInOther

theorem partsFit (standApart : StandApart store low parts) : Unfolding.PartsFit store parts := by
  induction parts with
  | nil => trivial
  | cons part rest ih =>
      obtain ⟨stands, apart⟩ := standApart
      rw [List.forall_mem_cons] at stands
      exact ⟨stands.1.fits, ih ⟨stands.2, (List.pairwise_cons.mp apart).2⟩⟩

theorem partsSolid (standApart : StandApart store low parts) : Unfolding.PartsSolid parts := by
  induction parts with
  | nil => trivial
  | cons part rest ih =>
      obtain ⟨stands, apart⟩ := standApart
      rw [List.forall_mem_cons] at stands
      exact ⟨stands.1.solid, ih ⟨stands.2, (List.pairwise_cons.mp apart).2⟩⟩

/-- A container whose parts stand apart stands itself. -/
theorem full {node : NodeId} {container : Container} (standApart : StandApart store low parts)
    (found : store.container? node = some container)
    (parts_eq : container.parts = Unfolding.values parts) (isFresh : low ≤ node)
    (isNew : node ∉ Unfolding.nodesOf parts) :
    Stands store low (.full node container.bracketKind parts) where
  fits := ⟨container, found, rfl, parts_eq, standApart.partsFit⟩
  solid := standApart.partsSolid
  inOrder := by
    refine ⟨Finset.notMem_empty node, standApart.partsInOrder ?_⟩
    intro inner isInner isSeen
    rw [Finset.mem_insert] at isSeen
    rcases isSeen with rfl | isSeen
    · exact isNew isInner
    · exact Finset.notMem_empty _ isSeen
  fresh := by
    intro inner isInner
    rw [Unfolding.nodes_full, List.mem_cons] at isInner
    rcases isInner with rfl | isInner
    · exact isFresh
    · exact standApart.fresh isInner

end StandApart

end RepoSurvey.Graph
