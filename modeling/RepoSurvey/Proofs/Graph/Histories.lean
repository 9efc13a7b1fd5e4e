import RepoSurvey.Proofs.Graph.Building
import RepoSurvey.Proofs.Graph.Handles

/-!
# What containers hold

What a container holds is told by what was stored in it.  An array holds all of it in order.  An object
holds its keys in the order in which they were stored first, and under each key what was stored there last.
Through which handle something was stored makes no difference.
-/

namespace RepoSurvey.Graph

namespace Change

/-- What a change appends to an array. -/
def element? (node : NodeId) : Change → Option Value
  | push array value => if array = node then some value else none
  | insert _ _ _ => none

/-- What a change stores in an object, and under which key. -/
def member? (node : NodeId) : Change → Option (String × Value)
  | push _ _ => none
  | insert object key value => if object = node then some (key, value) else none

/-- All that was appended to an array. -/
def elements (node : NodeId) (changes : List Change) : List Value := changes.filterMap (element? node)

/-- All that was stored in an object. -/
def members (node : NodeId) (changes : List Change) : List (String × Value) :=
  changes.filterMap (member? node)

/-- What becomes of a container when changes are made one after the other. -/
def replay (node : NodeId) (changes : List Change) (container : Container) : Container :=
  changes.foldl (fun container change =>
    if change.node = node then change.apply container else container) container

variable {node : NodeId} {changes : List Change}

theorem replay_append (others : List Change) (container : Container) :
    replay node (changes ++ others) container = replay node others (replay node changes container) :=
  List.foldl_append

theorem replay_of_untouched (untouched : ∀ change ∈ changes, change.node ≠ node)
    (container : Container) : replay node changes container = container := by
  induction changes with
  | nil => rfl
  | cons change rest ih =>
      rw [List.forall_mem_cons] at untouched
      rw [replay, List.foldl_cons, if_neg untouched.1]
      exact ih untouched.2

/-- A change leaves an array an array, and an object an object. -/
theorem emptied_apply (change : Change) (container : Container) :
    (change.apply container).emptied = container.emptied := by
  cases change with
  | push array value => cases container <;> rfl
  | insert object key value =>
      cases container with
      | array items => rfl
      | object entries =>
          rw [apply, Container.setEntry]
          split <;> rfl

theorem replay_cons (change : Change) (container : Container) :
    replay node (change :: changes) container =
      replay node changes (if change.node = node then change.apply container else container) :=
  rfl

theorem elements_cons (change : Change) :
    elements node (change :: changes) = (change.element? node).toList ++ elements node changes := by
  rw [elements, List.filterMap_cons]
  cases change.element? node <;> rfl

theorem members_cons (change : Change) :
    members node (change :: changes) = (change.member? node).toList ++ members node changes := by
  rw [members, List.filterMap_cons]
  cases change.member? node <;> rfl

/-- An array holds all that was appended to it, in order. -/
theorem replay_array (items : List Value) :
    replay node changes (.array items.toArray) = .array (items ++ elements node changes).toArray := by
  induction changes generalizing items with
  | nil => rw [elements, List.filterMap_nil, List.append_nil, replay, List.foldl_nil]
  | cons change rest ih =>
      rw [replay_cons, elements_cons, ← List.append_assoc]
      cases change with
      | push array value =>
          rw [element?, Change.node]
          split
          · rw [Option.toList_some, ← ih, apply, Container.pushItem, List.push_toArray]
          · rw [Option.toList_none, List.append_nil, ih]
      | insert object key value =>
          rw [element?, Option.toList_none, List.append_nil, ← ih]
          exact congrArg (replay node rest) (ite_self _)

/-- An object holds what was stored in it as if it had been set all at once. -/
theorem replay_object (entries : List (String × Value)) :
    replay node changes (.object entries.toArray) =
      .object (setMembers entries (members node changes)).toArray := by
  induction changes generalizing entries with
  | nil => rfl
  | cons change rest ih =>
      rw [replay_cons, members_cons, setMembers_append]
      cases change with
      | push array value =>
          rw [member?, Option.toList_none, ← ih]
          exact congrArg (replay node rest) (ite_self _)
      | insert object key value =>
          rw [member?, Change.node]
          split
          · rw [apply, Container.setEntry_object, ih]
            rfl
          · rw [ih]
            rfl

end Change

namespace Session

variable {session keeping : Session} {past : List Change} {operation : Operation} {node : NodeId}

/-! ## Remembering -/

/-- What operations change, one after the other. -/
def history : List Operation → (session : Session := {}) → List Change
  | [], _ => []
  | operation :: rest, session =>
      (session.change? operation).toList ++ history rest (session.perform operation)

/-- The containers of a session hold what was stored in them, and nothing was stored elsewhere. -/
structure Remembers (session : Session) (past : List Change) : Prop where
  known : ∀ change ∈ past, change.node < session.heap.store.size
  holds : ∀ node container, session.heap.store.container? node = some container →
    container = Change.replay node past container.emptied

namespace Remembers

theorem start : Remembers {} [] where
  known _ isIn := (List.not_mem_nil isIn).elim
  holds _ _ found := by cases found

theorem create (remembers : Remembers session past) {container : Container}
    (isEmpty : container.emptied = container) : Remembers (session.create container) past where
  known change isIn := by
    have isOld := remembers.known change isIn
    change change.node < (session.heap.store.add container).2.size
    rw [Store.size_add]
    exact Nat.lt_succ_of_lt isOld
  holds node other found := by
    change (session.heap.store.add container).2.container? node = some other at found
    rw [Store.container?_add] at found
    split at found
    · rename_i isNew
      cases found
      rw [isEmpty, Change.replay_of_untouched]
      exact fun change isIn => Nat.ne_of_lt (isNew ▸ remembers.known change isIn)
    · exact remembers.holds node other found

theorem of_store (remembers : Remembers session past) {after : Session}
    (store_eq : after.heap.store = session.heap.store) : Remembers after past := by
  refine ⟨?_, ?_⟩
  · rw [store_eq]
    exact remembers.known
  · rw [store_eq]
    exact remembers.holds

theorem keep (remembers : Remembers session past) (found : Option Value) :
    Remembers (session.keep found) past :=
  remembers.of_store (store_keep found)

theorem store (remembers : Remembers session past) {change : Change}
    (isThere : change.node < session.heap.store.size) :
    Remembers (session.store Heap.leave change) (past ++ [change]) := by
  refine ⟨?_, ?_⟩
  · intro other isIn
    rw [store_change, Store.size_update]
    rcases List.mem_append.mp isIn with isOld | isNew
    · exact remembers.known other isOld
    · rwa [List.mem_singleton.mp isNew]
  · intro node container found
    rw [store_change, Store.container?_update] at found
    rw [Change.replay_append]
    split at found
    · rename_i isChanged
      obtain ⟨before, foundBefore, rfl⟩ := Option.map_eq_some_iff.mp found
      rw [Change.emptied_apply, ← remembers.holds node before foundBefore]
      exact (if_pos isChanged).symm
    · rename_i isOther
      rw [← remembers.holds node container found]
      exact (if_neg isOther).symm

theorem drop (remembers : Remembers session past) (handle : HandleId) :
    Remembers (session.drop Heap.leave handle) past :=
  remembers.of_store (store_drop handle)

theorem perform (remembers : Remembers session past) (operation : Operation) :
    Remembers (session.performWith Heap.leave operation)
      (past ++ (session.change? operation).toList) := by
  have unchanged {after : Session} (remembers : Remembers after past) :
      Remembers after (past ++ (none : Option Change).toList) := by
    rwa [Option.toList_none, List.append_nil]
  cases operation with
  | newArray | newObject => exact unchanged (remembers.create rfl)
  | hold | clone | item | entry => exact unchanged (remembers.keep _)
  | push | insert =>
      rw [performWith]
      split
      · rename_i change changes
        rw [changes]
        obtain ⟨container, found, _⟩ := (change?_spec changes).1.moved
        exact remembers.store (Array.getElem?_eq_some_iff.mp found).1
      · rename_i nothing
        rw [nothing]
        exact unchanged remembers
  | drop handle => exact unchanged (remembers.drop handle)

/-- A run remembers what was stored before, and what is stored by the run. -/
theorem run (follows : Follows session keeping) (remembers : Remembers keeping past)
    (operations : List Operation) :
    Remembers (runKeeping operations keeping) (past ++ history operations session) := by
  induction operations generalizing session keeping past with
  | nil =>
      rw [history, List.append_nil]
      exact remembers
  | cons operation rest ih =>
      rw [history, ← List.append_assoc, ← follows.change?_eq]
      exact ih (follows.perform operation) (remembers.perform operation)

end Remembers

/-! ## What is held after a run -/

section Run

variable (operations : List Operation)

theorem follows_run : Follows (Session.run operations) (runKeeping operations) :=
  Follows.start.run operations

/-- What is referred to after a run holds what was stored in it by the run. -/
theorem container_of_run {container : Container}
    (found : (Session.run operations).heap.store.container? node = some container)
    (isCounted : (Session.run operations).heap.count node ≠ 0) :
    container = Change.replay node (history operations) container.emptied := by
  have remembers := Remembers.start.run Follows.start operations
  rw [List.nil_append] at remembers
  refine remembers.holds node container ?_
  rw [(follows_run operations).kept node isCounted, found]

variable {operations} {handle : HandleId}

theorem entries_of_run (isObject : (Session.run operations).object? handle = some node) :
    (Session.run operations).heap.store.container? node =
      some (.object (setMembers [] (Change.members node (history operations))).toArray) := by
  obtain ⟨isHeld, entries, found⟩ := object?_eq_some_iff.mp isObject
  have isCounted := (follows_run operations).exact.count_of_held (mem_held_iff.mpr ⟨handle, isHeld⟩)
  rw [found, container_of_run operations found isCounted]
  exact congrArg some (Change.replay_object [])

theorem items_of_run (isArray : (Session.run operations).array? handle = some node) :
    (Session.run operations).heap.store.container? node =
      some (.array (Change.elements node (history operations)).toArray) := by
  obtain ⟨isHeld, items, found⟩ := array?_eq_some_iff.mp isArray
  have isCounted := (follows_run operations).exact.count_of_held (mem_held_iff.mpr ⟨handle, isHeld⟩)
  rw [found, container_of_run operations found isCounted]
  exact congrArg some (Change.replay_array [])

end Run

/-! ## What one operation changes -/

/-- A handle holds the same until it is dropped. -/
theorem value?_perform {handle : HandleId} {value : Value}
    (isHeld : session.value? handle = some value) (isKept : operation ≠ .drop handle) :
    (session.perform operation).value? handle = some value := by
  have pushed (heap : Heap) (found : Option Value) :
      ({ heap, handles := session.handles.push found } : Session).value? handle = some value := by
    rw [value?_eq_some_iff] at isHeld ⊢
    rwa [Array.getElem?_push_lt (Array.getElem?_eq_some_iff.mp isHeld).1,
      ← Array.getElem?_eq_getElem]
  cases operation with
  | newArray | newObject => exact pushed _ _
  | hold | clone | item | entry =>
      rw [perform, performWith, keep.eq_def]
      split <;> exact pushed _ _
  | push | insert =>
      rw [perform, performWith]
      split
      · rw [store]
        split <;> exact isHeld
      · exact isHeld
  | drop other =>
      rw [perform, performWith, drop]
      split
      · have differs : other ≠ handle := fun same => isKept (same ▸ rfl)
        rw [value?_eq_some_iff] at isHeld ⊢
        rwa [Array.getElem?_setIfInBounds_ne differs]
      · exact isHeld

/-- If nothing is given up, an operation changes only the container that it stores something in. -/
theorem container?_keeping (operation : Operation) (isThere : node < session.heap.store.size) :
    (session.performWith Heap.leave operation).heap.store.container? node =
      (session.heap.store.container? node).map
        (Change.replay node (session.change? operation).toList) := by
  have unchanged : session.heap.store.container? node =
      (session.heap.store.container? node).map (Change.replay node []) := Option.map_id'.symm
  cases operation with
  | newArray | newObject =>
      exact (Store.container?_add_of_lt isThere).trans unchanged
  | hold | clone | item | entry =>
      exact (congrArg (·.container? node) (store_keep _)).trans unchanged
  | push | insert =>
      rw [performWith]
      split
      · rename_i change changes
        rw [store_change, changes, Store.container?_update]
        split
        · rename_i isChanged
          exact congrArg (Option.map · _) (funext fun container => (if_pos isChanged).symm)
        · rename_i isOther
          exact Option.map_id'.symm.trans
            (congrArg (Option.map · _) (funext fun container => (if_neg isOther).symm))
      · rename_i nothing
        rw [nothing]
        exact unchanged
  | drop handle =>
      exact (congrArg (·.container? node) (store_drop handle)).trans unchanged

/-- What is referred to before and after an operation changes only if the operation stores something in
it. -/
theorem container?_perform (follows : Follows session keeping) (operation : Operation)
    (isCounted : session.heap.count node ≠ 0)
    (staysCounted : (session.perform operation).heap.count node ≠ 0) :
    (session.perform operation).heap.store.container? node =
      (session.heap.store.container? node).map
        (Change.replay node (session.change? operation).toList) := by
  obtain ⟨container, found⟩ := Heap.found_of_count isCounted
  have isThere : node < keeping.heap.store.size := by
    rw [follows.size_eq]
    exact (Array.getElem?_eq_some_iff.mp found).1
  rw [← (follows.perform operation).kept node staysCounted, container?_keeping operation isThere,
    follows.kept node isCounted, follows.change?_eq]

/-- Handles that hold the same are the same to an operation that stores something through them. -/
theorem perform_through {handle other : HandleId} (same : session.value? handle = session.value? other)
    (key : String) (value : HandleId) :
    session.perform (.insert handle key value) = session.perform (.insert other key value) ∧
      session.perform (.push handle value) = session.perform (.push other value) := by
  have sameObject : session.object? handle = session.object? other := by
    rw [object?, object?, same]
  have sameArray : session.array? handle = session.array? other := by
    rw [array?, array?, same]
  simp only [perform, performWith, change?, sameObject, sameArray, and_self]

end Session

/-! ## Reading what was stored -/

namespace Store

variable {store : Store} {node : NodeId}

section Object

variable {members : List (String × Value)}
  (found : store.container? node = some (.object (setMembers [] members).toArray))

include found

theorem entries_of_members : store.entries node = setMembers [] members := by
  rw [entries, found]

theorem keys_of_members : store.keys node = (members.map (·.1)).eraseDups := by
  rw [keys, entries_of_members found, keys_setMembers]

theorem nodup_keys_of_members : (store.keys node).Nodup := by
  have start : (([] : List (String × Value)).map (·.1)).Nodup := List.nodup_nil
  rw [keys, entries_of_members found]
  exact nodup_setMembers start members

/-- Under each key stands what was stored there last. -/
theorem entry?_of_members (key : String) : store.entry? node key = members.reverse.lookup key := by
  rw [Store.entry?, entries_of_members found, lookup_setMembers, List.append_nil]

theorem hasKey_of_members (key : String) :
    store.hasKey node key = true ↔ key ∈ members.map (·.1) := by
  rw [← List.mem_eraseDups, ← keys_of_members found, keys, hasKey, List.any_eq_true, List.mem_map]
  simp only [beq_iff_eq]

/-- The entries are what is found under the keys. -/
theorem mem_entries_of_members (key : String) (value : Value) :
    (key, value) ∈ store.entries node ↔ store.entry? node key = some value := by
  constructor
  · exact lookup_of_mem (nodup_keys_of_members found)
  · intro isEntry
    obtain ⟨before, after, parts, _⟩ := List.lookup_eq_some_iff.mp isEntry
    rw [parts]
    exact List.mem_append_right _ (List.mem_cons_self ..)

theorem length_of_members : store.length node = (store.keys node).length := by
  rw [keys, entries_of_members found, length, found, List.length_map]
  rfl

end Object

section Array

variable {elements : List Value} (found : store.container? node = some (.array elements.toArray))

include found

theorem items_of_elements : store.items node = elements := by
  rw [items, found]

theorem item?_of_elements (index : Nat) : store.item? node index = elements[index]? := by
  rw [item?, found]
  exact List.getElem?_toArray ..

theorem length_of_elements : store.length node = elements.length := by
  rw [length, found]
  rfl

end Array

end Store

/-! ## Building all at once -/

theorem update_add (store : Store) (container : Container) (change : Container → Container) :
    (store.add container).2.update store.size change = (store.add (change container)).2 := by
  refine congrArg Store.mk (Array.ext_getElem? fun node => ?_)
  change ((store.add container).2.update store.size change).container? node =
    (store.add (change container)).2.container? node
  rw [Store.container?_update, Store.container?_add, Store.container?_add]
  by_cases isNew : node = store.size
  · rw [if_pos isNew.symm, if_pos isNew, if_pos isNew, Option.map_some]
  · rw [if_neg (Ne.symm isNew), if_neg isNew, if_neg isNew]

/-- An object that is built with its entries is one that they are stored in, one after the other. -/
theorem object_eq_inserts (entries : List (String × Value)) :
    Build.object entries = do
      let node ← Build.newObject
      entries.forM fun entry => Build.insert node entry.1 entry.2
      return node := by
  funext store
  have general : ∀ container : Container,
      (entries.forM fun entry => Build.insert store.size entry.1 entry.2).run (store.add container).2 =
        ((), (store.add (entries.foldl (fun container entry =>
          container.setEntry entry.1 entry.2) container)).2) := by
    induction entries with
    | nil => exact fun container => rfl
    | cons entry rest ih =>
        intro container
        rw [List.foldl_cons, ← ih, ← update_add store container]
        rfl
  have built := general (.object #[])
  exact congrArg (fun result : Unit × Store => (store.size, result.2)) built.symm

/-- After any operations, an object that a handle holds is an ordered map.  Its keys differ, and stand in
the order in which something was stored under them first.  Under each key stands what was stored there last,
through whichever handle, and nothing stands under other keys.  An array holds what was appended to it.
Whatever is done next, only the container changes that something is stored in, and each handle of it sees
the change.  Building an object with entries is the same as storing them. -/
theorem objects_are_ordered_maps (operations : List Operation) :
    let session := Session.run operations
    let store := session.heap.store
    let history := Session.history operations
    (∀ handle node, session.object? handle = some node →
      (store.keys node).Nodup ∧
        store.keys node = ((Change.members node history).map (·.1)).eraseDups ∧
        (∀ key, store.entry? node key = (Change.members node history).reverse.lookup key) ∧
        (∀ key, store.hasKey node key = true ↔ key ∈ (Change.members node history).map (·.1)) ∧
        (∀ key value, (key, value) ∈ store.entries node ↔ store.entry? node key = some value) ∧
        (store.entries node).map (·.1) = store.keys node ∧
        store.length node = (store.keys node).length) ∧
      (∀ handle node, session.array? handle = some node →
        store.items node = Change.elements node history ∧
          (∀ index, store.item? node index = (Change.elements node history)[index]?) ∧
          store.length node = (Change.elements node history).length) ∧
      (∀ operation,
        (∀ handle node, operation ≠ .drop handle → session.value? handle = some (.container node) →
          (session.perform operation).value? handle = some (.container node) ∧
            (session.perform operation).heap.store.container? node =
              (store.container? node).map
                (Change.replay node (session.change? operation).toList)) ∧
        ∀ node, session.heap.count node ≠ 0 → (session.perform operation).heap.count node ≠ 0 →
          (∀ change, session.change? operation = some change → change.node ≠ node) →
            (session.perform operation).heap.store.container? node = store.container? node) ∧
      (∀ handle other, session.value? handle = session.value? other → ∀ key value,
        session.perform (.insert handle key value) = session.perform (.insert other key value) ∧
          session.perform (.push handle value) = session.perform (.push other value)) ∧
      ∀ entries, Build.object entries = do
        let node ← Build.newObject
        entries.forM fun entry => Build.insert node entry.1 entry.2
        return node := by
  intro session store history
  have follows : Session.Follows session _ := Session.follows_run operations
  refine ⟨fun handle node isObject => ?_, fun handle node isArray => ?_, fun operation => ⟨?_, ?_⟩,
    fun _ _ => Session.perform_through, object_eq_inserts⟩
  · have found := Session.entries_of_run isObject
    exact ⟨Store.nodup_keys_of_members found, Store.keys_of_members found,
      Store.entry?_of_members found, Store.hasKey_of_members found,
      Store.mem_entries_of_members found, rfl, Store.length_of_members found⟩
  · have found := Session.items_of_run isArray
    exact ⟨Store.items_of_elements found, Store.item?_of_elements found,
      Store.length_of_elements found⟩
  · intro handle node isKept isHeld
    have stays := Session.value?_perform isHeld isKept
    have isCounted := follows.exact.count_of_held (Session.mem_held_iff.mpr ⟨handle, isHeld⟩)
    have staysCounted := (follows.perform operation).exact.count_of_held
      (Session.mem_held_iff.mpr ⟨handle, stays⟩)
    exact ⟨stays, Session.container?_perform follows operation isCounted staysCounted⟩
  · intro node isCounted staysCounted isOther
    rw [Session.container?_perform follows operation isCounted staysCounted]
    refine (congrArg (Option.map · _) (funext fun container => ?_)).trans Option.map_id'
    refine Change.replay_of_untouched (fun change isIn => isOther change ?_) container
    exact Option.mem_toList.mp isIn

/-- An object with two handles, and an array that is read out of it into another handle. -/
def storingThroughBoth : List Operation :=
  [.newObject, .newArray, .clone 0, .hold (.string "x"), .hold (.natural 1), .insert 0 "b" 3,
    .insert 2 "a" 1, .insert 2 "b" 4, .push 1 0, .entry 0 "a", .push 5 3]

theorem objects_are_ordered_maps_of_storingThroughBoth :
    let session := Session.run storingThroughBoth
    let store := session.heap.store
    session.object? 2 = some 0 ∧ session.array? 5 = some 1 ∧ store.keys 0 = ["b", "a"] ∧
      (∀ key, store.entry? 0 key =
        [("b", .natural 1), ("a", .container 1), ("b", .string "x")].lookup key) ∧
      store.items 1 = [.container 0, .string "x"] ∧
      session.value? 2 = some (.container 0) ∧
      (session.perform (.insert 0 "c" 4)).value? 2 = some (.container 0) ∧
      session.perform (.insert 0 "c" 4) = session.perform (.insert 2 "c" 4) ∧
      session.heap.count 1 ≠ 0 ∧ (session.perform (.insert 0 "c" 4)).heap.count 1 ≠ 0 ∧
      (session.perform (.insert 0 "c" 4)).heap.store.container? 1 = store.container? 1 := by
  intro session store
  obtain ⟨objects, arrays, changes, aliases, _⟩ := objects_are_ordered_maps storingThroughBoth
  obtain ⟨keeps, others⟩ := changes (.insert 0 "c" 4)
  have isObject : session.object? 2 = some 0 := by decide +kernel
  have isArray : session.array? 5 = some 1 := by decide +kernel
  have isHeld : session.value? 2 = some (.container 0) := by decide +kernel
  have sameValue : session.value? 0 = session.value? 2 := by decide +kernel
  have isCounted : session.heap.count 1 ≠ 0 := by decide +kernel
  have staysCounted : (session.perform (.insert 0 "c" 4)).heap.count 1 ≠ 0 := by decide +kernel
  have isOther : session.change? (.insert 0 "c" 4) = some (.insert 0 "c" (.natural 1)) := by
    decide +kernel
  have members_eq : Change.members 0 (Session.history storingThroughBoth) =
      [("b", .string "x"), ("a", .container 1), ("b", .natural 1)] := by decide +kernel
  have elements_eq : Change.elements 1 (Session.history storingThroughBoth) =
      [.container 0, .string "x"] := by decide +kernel
  obtain ⟨_, keys_eq, entry_eq, _⟩ := objects 2 0 isObject
  obtain ⟨items_eq, _⟩ := arrays 5 1 isArray
  rw [members_eq] at keys_eq entry_eq
  rw [elements_eq] at items_eq
  refine ⟨isObject, isArray, keys_eq, entry_eq, items_eq, isHeld, (keeps 2 0 (by decide) isHeld).1,
    (aliases 0 2 sameValue "c" 4).1, isCounted, staysCounted, others 1 isCounted staysCounted ?_⟩
  intro change isChange
  cases isOther.symm.trans isChange
  decide

end RepoSurvey.Graph
