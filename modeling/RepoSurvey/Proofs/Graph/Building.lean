import RepoSurvey.Proofs.Graph.Growth
import RepoSurvey.Proofs.Graph.Texts

/-!
# Building graphs

What the steps of a builder leave behind, as trees that stand in the store.  An action that builds a tree
in every store gives the same document in all of them, so what was built before does not show.
-/

namespace RepoSurvey.Graph

namespace Unfolding

/-- The parts of an object. -/
def keyed (members : List (String × Unfolding)) : List (Option String × Unfolding) :=
  members.map fun member => (some member.1, member.2)

/-- The parts of an array. -/
def listed (trees : List Unfolding) : List (Option String × Unfolding) :=
  trees.map fun tree => (none, tree)

/-- The entries of an object with these members. -/
def entries (members : List (String × Unfolding)) : List (String × Value) :=
  members.map (Prod.map id value)

/-- The members of the document of an object. -/
def documents (members : List (String × Unfolding)) : List (String × Json.Ordered) :=
  members.map (Prod.map id ordered)

theorem values_keyed (members : List (String × Unfolding)) :
    values (keyed members) = (entries members).map fun entry => (some entry.1, entry.2) := by
  rw [values, keyed, entries, List.map_map, List.map_map]
  rfl

theorem values_listed (trees : List Unfolding) :
    values (listed trees) = (trees.map value).map fun value => (none, value) := by
  rw [values, listed, List.map_map, List.map_map]
  rfl

theorem ordered_object (node : NodeId) (members : List (String × Unfolding)) :
    (full node .object (keyed members)).ordered = .object (documents members) := by
  rw [ordered, orderedMembers_eq_map, keyed, documents, List.map_map]
  rfl

theorem ordered_array (node : NodeId) (trees : List Unfolding) :
    (full node .array (listed trees)).ordered = .array (trees.map ordered) := by
  rw [ordered, orderedItems_eq_map, listed, List.map_map]
  rfl

theorem entries_setMembers (start members : List (String × Unfolding)) :
    entries (setMembers start members) = setMembers (entries start) (entries members) :=
  map_setMembers value start members

theorem documents_setMembers (start members : List (String × Unfolding)) :
    documents (setMembers start members) = setMembers (documents start) (documents members) :=
  map_setMembers ordered start members

theorem keyed_setMembers_subperm (start members : List (String × Unfolding)) :
    (keyed (setMembers start members)).Subperm (keyed start ++ keyed members) := by
  obtain ⟨between, isPerm, isSublist⟩ := setMembers_subperm start members
  rw [keyed, keyed, keyed, ← List.map_append]
  exact ⟨between.map _, isPerm.map _, isSublist.map _⟩

/-- Members that are no containers. -/
def scalars (entries : List (String × Value)) : List (String × Unfolding) :=
  entries.map (Prod.map id scalar)

theorem entries_scalars (entries : List (String × Value)) :
    Unfolding.entries (scalars entries) = entries := by
  rw [Unfolding.entries, scalars, List.map_map]
  exact List.map_id entries

theorem documents_scalars (entries : List (String × Value)) :
    documents (scalars entries) = entries.map (Prod.map id Value.scalarOrdered) := by
  induction entries with
  | nil => rfl
  | cons entry rest ih =>
      change (entry.1, (scalar entry.2).ordered) :: documents (scalars rest) = _
      rw [ordered, ih]
      rfl

theorem nodesOf_append (parts others : List (Option String × Unfolding)) :
    nodesOf (parts ++ others) = nodesOf parts ++ nodesOf others := by
  induction parts with
  | nil => rw [List.nil_append, nodesOf_nil, List.nil_append]
  | cons part rest ih =>
      obtain ⟨key, tree⟩ := part
      rw [List.cons_append, nodesOf_cons, nodesOf_cons, ih, List.append_assoc]

theorem repeatsOf_append (parts others : List (Option String × Unfolding)) :
    repeatsOf (parts ++ others) = repeatsOf parts ++ repeatsOf others := by
  induction parts with
  | nil => rw [List.nil_append, repeatsOf_nil, List.nil_append]
  | cons part rest ih =>
      obtain ⟨key, tree⟩ := part
      rw [List.cons_append, repeatsOf_cons, repeatsOf_cons, ih, List.append_assoc]

theorem repeatsOf_eq_nil_iff {parts : List (Option String × Unfolding)} :
    repeatsOf parts = [] ↔ ∀ part ∈ parts, part.2.repeats = [] := by
  induction parts with
  | nil => simp
  | cons part rest ih =>
      obtain ⟨key, tree⟩ := part
      rw [repeatsOf_cons, List.append_eq_nil_iff, ih, List.forall_mem_cons]

theorem repeatsOf_scalars (entries : List (String × Value)) :
    repeatsOf (keyed (scalars entries)) = [] := by
  rw [repeatsOf_eq_nil_iff]
  intro part isPart
  obtain ⟨member, isMember, rfl⟩ := List.mem_map.mp isPart
  obtain ⟨entry, _, rfl⟩ := List.mem_map.mp isMember
  exact repeats_scalar entry.2

end Unfolding

open Unfolding

theorem areScalar_strings (texts : List (String × String)) :
    ∀ entry ∈ texts.map (Prod.map id Value.string), ∀ node, entry.2 ≠ .container node := by
  intro entry isEntry node
  obtain ⟨text, _, rfl⟩ := List.mem_map.mp isEntry
  exact Value.string_ne_container text.2 node

namespace StandApart

variable {store : Store} {low : Nat} {parts : List (Option String × Unfolding)}

theorem cons {key : Option String} {tree : Unfolding} (stands : Stands store low tree)
    (standApart : StandApart store low parts)
    (disjoint : ∀ node ∈ tree.nodes, node ∉ nodesOf parts) :
    StandApart store low ((key, tree) :: parts) := by
  refine ⟨List.forall_mem_cons.mpr ⟨stands, standApart.stand⟩,
    List.pairwise_cons.mpr ⟨?_, standApart.apart⟩⟩
  intro other isOther node isIn isInOther
  exact disjoint node isIn (mem_nodesOf.mpr ⟨other, isOther, isInOther⟩)

theorem cons_scalar (standApart : StandApart store low parts) (key : Option String) {value : Value}
    (isScalar : ∀ node, value ≠ .container node) :
    StandApart store low ((key, .scalar value) :: parts) :=
  cons (.scalar isScalar) standApart (by simp)

/-- Members that are no containers stand anywhere. -/
theorem scalars {entries : List (String × Value)}
    (areScalar : ∀ entry ∈ entries, ∀ node, entry.2 ≠ .container node) :
    StandApart store low (keyed (Unfolding.scalars entries)) := by
  induction entries with
  | nil => exact .nil
  | cons entry rest ih =>
      rw [List.forall_mem_cons] at areScalar
      exact (ih areScalar.2).cons_scalar (some entry.1) areScalar.1

end StandApart

/-! ## Steps of builders -/

namespace Build

variable {store : Store}

theorem run_object (entries : List (String × Value)) :
    (Build.object entries).run store = store.add (.object (setMembers [] entries).toArray) := by
  change store.add _ = _
  rw [← Container.foldl_setEntry]

theorem run_push (node : NodeId) (value : Value) :
    (push node value).run store = ((), store.update node (.pushItem value)) := rfl

theorem run_insert (node : NodeId) (key : String) (value : Value) :
    (insert node key value).run store = ((), store.update node (.setEntry key value)) := rfl

/-- Something else is put at the end of an array. -/
theorem container?_push {node : NodeId} {values : List Value}
    (found : store.container? node = some (.array values.toArray)) (value : Value) :
    ((push node value).run store).2.container? node =
      some (.array (values ++ [value]).toArray) := by
  rw [run_push, Store.container?_update_same _ found, Container.pushItem, List.push_toArray]

/-- A member of an object is set. -/
theorem container?_insert {node : NodeId} {entries : List (String × Value)}
    (found : store.container? node = some (.object entries.toArray)) (key : String)
    (value : Value) :
    ((insert node key value).run store).2.container? node =
      some (.object (setMember key value entries).toArray) := by
  rw [run_insert, Store.container?_update_same _ found, Container.setEntry_object]

theorem extends_push (node : NodeId) (value : Value) :
    Extends store ((push node value).run store).2 [node] :=
  .update store node _

theorem extends_insert (node : NodeId) (key : String) (value : Value) :
    Extends store ((insert node key value).run store).2 [node] :=
  .update store node _

end Build

/-! ## Builders -/

/-- Whatever was built before, an action builds a tree that is accepted, and leaves all else alone. -/
def Builds (action : Build Value) (accepts : Unfolding → Prop) : Prop :=
  ∀ before, ∃ tree, tree.value = (action.run before).1 ∧
    Extends before (action.run before).2 [] ∧
      Stands (action.run before).2 before.size tree ∧ accepts tree

theorem Builds.mono {action : Build Value} {accepts others : Unfolding → Prop}
    (builds : Builds action accepts) (isWider : ∀ tree, accepts tree → others tree) :
    Builds action others := by
  intro before
  obtain ⟨tree, value_eq, extended, stands, isAccepted⟩ := builds before
  exact ⟨tree, value_eq, extended, stands, isWider tree isAccepted⟩

/-- What is built is unfolded as the tree that was built. -/
theorem Builds.unfolds {action : Build Value} {accepts : Unfolding → Prop}
    (builds : Builds action accepts) (before : Store) :
    let built := action.run before
    let tree := unfolding built.2 built.1
    accepts tree ∧ Stands built.2 before.size tree ∧ Extends before built.2 [] := by
  intro built tree
  obtain ⟨found, value_eq, extended, stands, isAccepted⟩ := builds before
  have tree_eq : tree = found := (congrArg _ value_eq.symm).trans stands.unfolding_eq
  rw [tree_eq]
  exact ⟨isAccepted, stands, extended⟩

theorem Builds.build {action : Build Value} {accepts : Unfolding → Prop}
    (builds : Builds action accepts) : accepts (unfolding (build action).2 (build action).1) :=
  (builds.unfolds {}).1

end RepoSurvey.Graph

namespace RepoSurvey

open RepoSurvey.Graph

/-- The document of what is built from nothing, in one line. -/
def textAlone (action : Build Value) : String :=
  compactText (build action).2 (build action).1

theorem textAlone_eq {action : Build Value} {accepts : Unfolding → Prop}
    (builds : Builds action accepts) {document : Json.Ordered}
    (isDocument : ∀ tree, accepts tree → tree.ordered = document) :
    textAlone action = document.compact := by
  rw [textAlone, compactText_eq, isDocument _ builds.build]

end RepoSurvey
