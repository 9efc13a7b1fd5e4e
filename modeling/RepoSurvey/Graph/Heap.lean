import RepoSurvey.Graph.Store

/-!
# Counted references

A container is kept as long as something refers to it, so it is counted how often each one is referred to.
A container that is given up by the last that refers to it is emptied, and all that it held is given up
too.  What is to be given up waits in a list, so a chain of containers may be of any length.
-/

namespace RepoSurvey.Graph

/-- A container of the same kind that holds nothing. -/
def Container.emptied : Container → Container
  | array _ => array #[]
  | object _ => object #[]

@[simp] theorem Container.values_emptied (container : Container) : container.emptied.values = [] := by
  cases container <;> rfl

namespace Store

/-- What all containers hold. -/
def contents (store : Store) : List Value := store.containers.toList.flatMap Container.values

theorem flatMap_modify_perm {α β : Type} (parts : α → List β) (change : α → α) {items : List α}
    {index : Nat} {item : α} (found : items[index]? = some item) :
    (parts item ++ (items.modify index change).flatMap parts).Perm
      (parts (change item) ++ items.flatMap parts) := by
  induction items generalizing index with
  | nil => cases found
  | cons first rest ih =>
      cases index with
      | zero =>
          cases found
          rw [List.modify_zero_cons, List.flatMap_cons, List.flatMap_cons, ← List.append_assoc,
            ← List.append_assoc]
          exact List.perm_append_comm.append_right _
      | succ index =>
          rw [List.modify_succ_cons, List.flatMap_cons, List.flatMap_cons]
          exact (List.perm_append_comm_assoc ..).trans
            (((ih found).append_left _).trans (List.perm_append_comm_assoc ..))

/-- What a container held is replaced by what it holds. -/
theorem contents_update {store : Store} {node : NodeId} {container : Container}
    (found : store.container? node = some container) (change : Container → Container) :
    (container.values ++ (store.update node change).contents).Perm
      ((change container).values ++ store.contents) := by
  have found : store.containers.toList[node]? = some container := by
    rwa [Array.getElem?_toList]
  rw [contents, update, Array.toList_modify]
  exact flatMap_modify_perm Container.values change found

theorem update_of_absent {store : Store} {node : NodeId} (absent : store.container? node = none)
    (change : Container → Container) : store.update node change = store := by
  apply congrArg Store.mk
  apply Array.ext_getElem?
  intro other
  rw [Array.getElem?_modify]
  split
  · rename_i same
    subst same
    have absent : store.containers[node]? = none := absent
    rw [absent, Option.map_none]
  · rfl

/-- Emptying a container takes out what it held. -/
theorem contents_emptied (store : Store) (node : NodeId) :
    (store.valuesAt node ++ (store.update node .emptied).contents).Perm store.contents := by
  cases found : store.container? node with
  | none =>
      rw [valuesAt, found, update_of_absent found]
      exact List.Perm.refl _
  | some container =>
      have replaced := contents_update found .emptied
      rw [valuesAt, found]
      rwa [Container.values_emptied, List.nil_append] at replaced

end Store

/-- A store, and how often each of its containers is referred to. -/
structure Heap where
  store : Store := {}
  counts : Array Nat := #[]
  areCounted : counts.size = store.size := by rfl

namespace Heap

/-- How often a container is referred to. -/
def count (heap : Heap) (node : NodeId) : Nat := heap.counts[node]?.getD 0

/-- A new container, which is referred to once. -/
def add (heap : Heap) (container : Container) : NodeId × Heap :=
  (heap.store.size,
    { store := (heap.store.add container).2
      counts := heap.counts.push 1
      areCounted := by simp [Store.add, Store.size, heap.areCounted] })

def update (heap : Heap) (node : NodeId) (change : Container → Container) : Heap :=
  { heap with
    store := heap.store.update node change
    areCounted := by simp [Store.update, Store.size, heap.areCounted] }

/-- Counts anew how often the container that a value refers to is referred to. -/
def recount (change : Nat → Nat) (heap : Heap) : Value → Heap
  | .container node =>
      { heap with
        counts := heap.counts.modify node change
        areCounted := by rw [Array.size_modify, heap.areCounted] }
  | _ => heap

/-- One reference more. -/
def retain : Heap → Value → Heap := recount (· + 1)

/-- One reference less. -/
def forget : Heap → Value → Heap := recount (· - 1)

@[simp] theorem store_recount (change : Nat → Nat) (heap : Heap) (value : Value) :
    (heap.recount change value).store = heap.store := by
  cases value <;> rfl

@[simp] theorem store_retain (heap : Heap) (value : Value) : (heap.retain value).store = heap.store :=
  heap.store_recount _ value

@[simp] theorem store_forget (heap : Heap) (value : Value) : (heap.forget value).store = heap.store :=
  heap.store_recount _ value

/-! ## Giving up -/

/-- Takes out what a container holds, if only one reference to it is left. -/
@[inline]
def takeUnique? (heap : Heap) (node : NodeId) : Option (List Value × Heap) :=
  if heap.count node = 1 then some (heap.store.valuesAt node, heap.update node .emptied) else none

/-- What is taken out of a container is no longer in the store. -/
theorem contents_of_takeUnique? {heap emptied : Heap} {node : NodeId} {taken : List Value}
    (isUnique : heap.takeUnique? node = some (taken, emptied)) :
    (taken ++ emptied.store.contents).Perm heap.store.contents := by
  rw [takeUnique?] at isUnique
  split at isUnique
  · cases isUnique
    exact heap.store.contents_emptied node
  · cases isUnique

/-- Gives up all references in a list, the first one first.  When the last reference to a container is
given up, what the container held is given up next.  These containers are told, too. -/
def release (heap : Heap) : List Value → List NodeId × Heap
  | [] => ([], heap)
  | .container node :: rest =>
      match _ : heap.takeUnique? node with
      | some (taken, emptied) =>
          let (others, after) := (emptied.forget (.container node)).release (taken.reverse ++ rest)
          (node :: others, after)
      | none => (heap.forget (.container node)).release rest
  | _ :: rest => heap.release rest
  termination_by waiting => waiting.length + heap.store.contents.length
  decreasing_by
    · rename_i isUnique
      have size_eq := (contents_of_takeUnique? isUnique).length_eq
      rw [List.length_append] at size_eq
      simp only [store_forget, List.length_append, List.length_reverse, List.length_cons]
      omega
    · simp
    · simp

/-- Gives up one reference.  If it is the last one to a container, all that the container held is given up
before it. -/
def giveUp (heap : Heap) : Value → List NodeId × Heap
  | .container node =>
      match heap.takeUnique? node with
      | some (taken, emptied) =>
          let (others, after) := emptied.release taken.reverse
          (node :: others, after.forget (.container node))
      | none => ([], heap.forget (.container node))
  | _ => ([], heap)

/-- What is left when a reference is given up. -/
def drop (value : Value) (heap : Heap) : Heap := (heap.giveUp value).2

end Heap

end RepoSurvey.Graph
