import RepoSurvey.Graph.Session
import RepoSurvey.Proofs.Graph.Members
import RepoSurvey.Proofs.Graph.Releasing

/-!
# Handles

Whatever is done with handles, the counts of a graph stay exact, with the values that the handles hold.
So a container that a handle leads to is never emptied: what is seen of it is what would be seen if
nothing were ever given up (`Follows`).
-/

namespace RepoSurvey.Graph

/-! ## Reading and changing containers -/

theorem Value.array?_eq_some_iff {store : Store} {value : Value} {node : NodeId} :
    value.array? store = some node ↔
      value = .container node ∧ ∃ items, store.container? node = some (.array items) := by
  rw [array?, Option.filter_eq_some_iff, container?_eq_some_iff, Store.isArray, and_assoc]
  refine and_congr_right fun _ => ?_
  constructor
  · rintro ⟨⟨container, found⟩, isArray⟩
    rw [found] at isArray
    cases container with
    | array items => exact ⟨items, found⟩
    | object entries => cases isArray
  · rintro ⟨items, found⟩
    rw [found]
    exact ⟨⟨_, rfl⟩, rfl⟩

theorem Value.object?_eq_some_iff {store : Store} {value : Value} {node : NodeId} :
    value.object? store = some node ↔
      value = .container node ∧ ∃ entries, store.container? node = some (.object entries) := by
  rw [object?, Option.filter_eq_some_iff, container?_eq_some_iff, Store.isObject, and_assoc]
  refine and_congr_right fun _ => ?_
  constructor
  · rintro ⟨⟨container, found⟩, isObject⟩
    rw [found] at isObject
    cases container with
    | array items => cases isObject
    | object entries => exact ⟨entries, found⟩
  · rintro ⟨entries, found⟩
    rw [found]
    exact ⟨⟨_, rfl⟩, rfl⟩

namespace Store

variable {store : Store} {node : NodeId}

theorem container?_add (container : Container) :
    (store.add container).2.container? node =
      if node = store.size then some container else store.container? node :=
  Array.getElem?_push

theorem container?_update (target : NodeId) (change : Container → Container) :
    (store.update target change).container? node =
      if target = node then (store.container? node).map change else store.container? node :=
  Array.getElem?_modify

theorem item?_mem {index : Nat} {value : Value} (isItem : store.item? node index = some value) :
    value ∈ store.valuesAt node := by
  rw [item?] at isItem
  split at isItem
  · rename_i items found
    rw [valuesAt_eq found]
    exact Array.mem_toList_iff.mpr (Array.mem_of_getElem? isItem)
  · cases isItem

theorem entry?_mem {key : String} {value : Value} (isEntry : store.entry? node key = some value) :
    value ∈ store.valuesAt node := by
  rw [Store.entry?, entries] at isEntry
  split at isEntry
  · rename_i entries found
    obtain ⟨before, after, entries_eq, _⟩ := List.lookup_eq_some_iff.mp isEntry
    rw [valuesAt_eq found, Container.values, entries_eq]
    simp
  · cases isEntry

end Store

/-- What is stored under a key is exchanged for the value that was stored there. -/
theorem values_setMember {α : Type} (key : String) (value : α) (members : List (String × α)) :
    ((setMember key value members).map (·.2) ++ (members.lookup key).toList).Perm
      (members.map (·.2) ++ [value]) := by
  induction members with
  | nil => exact .refl _
  | cons member rest ih =>
      obtain ⟨name, old⟩ := member
      rw [setMember, List.lookup_cons]
      by_cases isKey : name = key
      · subst isKey
        simp only [BEq.rfl, if_true, Option.toList_some, List.map_cons, List.cons_append]
        exact ((List.perm_append_singleton ..).cons value).trans
          ((List.Perm.swap ..).trans ((List.perm_append_singleton ..).symm.cons old))
      · have differs : (name == key) = false := beq_eq_false_iff_ne.mpr isKey
        have differsToo : (key == name) = false := beq_eq_false_iff_ne.mpr (Ne.symm isKey)
        rw [differs, differsToo]
        exact ih.cons old

namespace Change

/-- The container that changes is there, and of the right kind. -/
def Suits (store : Store) : Change → Prop
  | push array _ => ∃ items, store.container? array = some (.array items)
  | insert object _ _ => ∃ entries, store.container? object = some (.object entries)

/-- What is stored goes into the container, what is replaced comes out. -/
theorem Suits.moved {store : Store} {change : Change} (suits : change.Suits store) :
    ∃ container, store.container? change.node = some container ∧
      ((change.apply container).values ++ (change.replaced? store).toList).Perm
        (container.values ++ [change.value]) := by
  cases change with
  | push array value =>
      obtain ⟨items, found⟩ := suits
      refine ⟨_, found, ?_⟩
      simp [apply, Container.pushItem, Container.values, replaced?, Change.value]
  | insert object key value =>
      obtain ⟨⟨entries⟩, found⟩ := suits
      refine ⟨_, found, ?_⟩
      have replaced : store.entry? object key = entries.lookup key := by
        rw [Store.entry?, Store.entries, found]
      rw [apply, Container.setEntry_object, replaced?, replaced]
      exact values_setMember key value entries

end Change

/-! ## What handles hold -/

/-- A place in a list is cleared. -/
theorem filterMap_set_none {α : Type} {list : List (Option α)} {index : Nat} {value : α}
    (found : list[index]? = some (some value)) :
    (list.filterMap id).Perm (value :: (list.set index none).filterMap id) := by
  induction list generalizing index with
  | nil => cases found
  | cons first rest ih =>
      cases index with
      | zero =>
          cases found
          exact .refl _
      | succ index =>
          cases first with
          | none => exact ih found
          | some other => exact ((ih found).cons other).trans (.swap ..)

/-- What is left when a reference is not given up. -/
def Heap.leave (_ : Value) (heap : Heap) : Heap := heap

namespace Session

variable {session : Session} {handle : HandleId} {value : Value} {node : NodeId}

/-- What the handles hold. -/
def held (session : Session) : List Value := session.handles.toList.filterMap id

/-- What the other handles hold. -/
def heldBeside (session : Session) (handle : HandleId) : List Value :=
  (session.handles.setIfInBounds handle none).toList.filterMap id

theorem value?_eq_some_iff :
    session.value? handle = some value ↔ session.handles[handle]? = some (some value) := by
  rw [value?, Option.join_eq_some_iff]

theorem mem_held_iff : value ∈ session.held ↔ ∃ handle, session.value? handle = some value := by
  simp only [held, value?_eq_some_iff, List.mem_filterMap, id_eq, exists_eq_right,
    Array.mem_toList_iff, Array.mem_iff_getElem?]

/-- A new handle is added to those that there are. -/
theorem held_push (heap : Heap) (found : Option Value) :
    ({ heap, handles := session.handles.push found } : Session).held =
      session.held ++ found.toList := by
  rw [held, held, Array.toList_push, List.filterMap_append]
  cases found <;> rfl

theorem held_perm (isHeld : session.value? handle = some value) :
    session.held.Perm (value :: session.heldBeside handle) := by
  rw [heldBeside, Array.toList_setIfInBounds]
  apply filterMap_set_none
  rwa [Array.getElem?_toList, ← value?_eq_some_iff]

theorem array?_eq_some_iff : session.array? handle = some node ↔
    session.value? handle = some (.container node) ∧
      ∃ items, session.heap.store.container? node = some (.array items) := by
  simp only [array?, Option.bind_eq_some_iff, Value.array?_eq_some_iff]
  constructor
  · rintro ⟨_, isHeld, rfl, found⟩
    exact ⟨isHeld, found⟩
  · rintro ⟨isHeld, found⟩
    exact ⟨_, isHeld, rfl, found⟩

theorem object?_eq_some_iff : session.object? handle = some node ↔
    session.value? handle = some (.container node) ∧
      ∃ entries, session.heap.store.container? node = some (.object entries) := by
  simp only [object?, Option.bind_eq_some_iff, Value.object?_eq_some_iff]
  constructor
  · rintro ⟨_, isHeld, rfl, found⟩
    exact ⟨isHeld, found⟩
  · rintro ⟨isHeld, found⟩
    exact ⟨_, isHeld, rfl, found⟩

/-- What changes is a container that a handle holds, and what is stored is held by a handle, too. -/
theorem change?_spec {operation : Operation} {change : Change}
    (changes : session.change? operation = some change) :
    change.Suits session.heap.store ∧ .container change.node ∈ session.held ∧
      change.value ∈ session.held := by
  cases operation with
  | push array value =>
      simp only [change?, bind, pure, Option.bind_eq_some_iff, Option.some_inj] at changes
      obtain ⟨node, isArray, value, isHeld, rfl⟩ := changes
      obtain ⟨holds, found⟩ := array?_eq_some_iff.mp isArray
      exact ⟨found, mem_held_iff.mpr ⟨_, holds⟩, mem_held_iff.mpr ⟨_, isHeld⟩⟩
  | insert object key value =>
      simp only [change?, bind, pure, Option.bind_eq_some_iff, Option.some_inj] at changes
      obtain ⟨node, isObject, value, isHeld, rfl⟩ := changes
      obtain ⟨holds, found⟩ := object?_eq_some_iff.mp isObject
      exact ⟨found, mem_held_iff.mpr ⟨_, holds⟩, mem_held_iff.mpr ⟨_, isHeld⟩⟩
  | _ => cases changes

/-- What is read is held by a handle, or stored in a container. -/
theorem found?_spec {operation : Operation}
    (found : session.found? operation = some (.container node)) :
    .container node ∈ session.held ∨
      ∃ parent, .container node ∈ session.heap.store.valuesAt parent := by
  cases operation with
  | hold scalar => cases scalar <;> cases found
  | clone handle => exact .inl (mem_held_iff.mpr ⟨handle, found⟩)
  | item array index =>
      obtain ⟨parent, _, isItem⟩ := Option.bind_eq_some_iff.mp found
      exact .inr ⟨parent, Store.item?_mem isItem⟩
  | entry object key =>
      obtain ⟨parent, _, isEntry⟩ := Option.bind_eq_some_iff.mp found
      exact .inr ⟨parent, Store.entry?_mem isEntry⟩
  | _ => cases found

/-! ## Giving nothing up -/

/-- Does one operation after the other, and never gives anything up. -/
def runKeeping (operations : List Operation) (session : Session := {}) : Session :=
  operations.foldl (performWith Heap.leave) session

theorem store_leave (change : Change) :
    session.store Heap.leave change =
      { session with
        heap := (session.heap.retain change.value).update change.node change.apply } := by
  rw [store]
  split <;> rfl

/-- A new handle changes no container. -/
theorem store_keep (found : Option Value) : (session.keep found).heap.store = session.heap.store := by
  cases found with
  | none => rfl
  | some value => exact Heap.store_retain _ value

/-- Without giving anything up, dropping a handle changes no container. -/
theorem store_drop (handle : HandleId) :
    (session.drop Heap.leave handle).heap.store = session.heap.store := by
  rw [drop]
  split <;> rfl

theorem store_change (change : Change) :
    (session.store Heap.leave change).heap.store =
      session.heap.store.update change.node change.apply := by
  rw [store_leave]
  exact congrArg (·.update change.node change.apply) (Heap.store_retain _ _)

/-- A session is like another one in which nothing was given up: the handles hold the same, and what is
referred to is the same. -/
structure Follows (session keeping : Session) : Prop where
  exact : session.heap.Exact session.held
  handles_eq : keeping.handles = session.handles
  size_eq : keeping.heap.store.size = session.heap.store.size
  kept : ∀ node, session.heap.count node ≠ 0 →
    keeping.heap.store.container? node = session.heap.store.container? node

namespace Follows

variable {keeping : Session}

theorem start : Follows {} {} :=
  ⟨.start, rfl, rfl, fun _ _ => rfl⟩

theorem value?_eq (follows : Follows session keeping) (handle : HandleId) :
    keeping.value? handle = session.value? handle := by
  rw [value?, value?, follows.handles_eq]

theorem kept_of_held (follows : Follows session keeping)
    (isHeld : session.value? handle = some (.container node)) :
    keeping.heap.store.container? node = session.heap.store.container? node :=
  follows.kept node (follows.exact.count_of_held (mem_held_iff.mpr ⟨handle, isHeld⟩))

theorem array?_eq (follows : Follows session keeping) (handle : HandleId) :
    keeping.array? handle = session.array? handle := by
  ext node
  simp only [array?_eq_some_iff, follows.value?_eq]
  exact and_congr_right fun isHeld => by rw [follows.kept_of_held isHeld]

theorem object?_eq (follows : Follows session keeping) (handle : HandleId) :
    keeping.object? handle = session.object? handle := by
  ext node
  simp only [object?_eq_some_iff, follows.value?_eq]
  exact and_congr_right fun isHeld => by rw [follows.kept_of_held isHeld]

theorem change?_eq (follows : Follows session keeping) (operation : Operation) :
    keeping.change? operation = session.change? operation := by
  cases operation <;>
    simp only [change?, follows.array?_eq, follows.object?_eq, follows.value?_eq]

theorem found?_eq (follows : Follows session keeping) (operation : Operation) :
    keeping.found? operation = session.found? operation := by
  cases operation with
  | hold scalar => cases scalar <;> rfl
  | clone handle => exact follows.value?_eq handle
  | item array index =>
      rw [found?, found?, follows.array?_eq]
      refine Option.bind_congr fun node isArray => ?_
      rw [Store.item?, Store.item?, follows.kept_of_held (array?_eq_some_iff.mp isArray).1]
  | entry object key =>
      rw [found?, found?, follows.object?_eq]
      refine Option.bind_congr fun node isObject => ?_
      rw [Store.entry?, Store.entry?, Store.entries, Store.entries,
        follows.kept_of_held (object?_eq_some_iff.mp isObject).1]
  | _ => rfl

theorem create (follows : Follows session keeping) {container : Container}
    (isEmpty : container.values = []) :
    Follows (session.create container) (keeping.create container) where
  exact := by
    refine (follows.exact.add isEmpty).perm ?_
    rw [Session.create, held_push]
    exact (List.perm_append_singleton ..).symm
  handles_eq := by
    rw [Session.create, Session.create, follows.handles_eq, Heap.add, Heap.add, follows.size_eq]
  size_eq := by
    change (keeping.heap.store.add container).2.size = (session.heap.store.add container).2.size
    rw [Store.size_add, Store.size_add, follows.size_eq]
  kept node isCounted := by
    have isCounted : (session.heap.add container).2.count node ≠ 0 := isCounted
    change (keeping.heap.store.add container).2.container? node =
      (session.heap.store.add container).2.container? node
    rw [Heap.count_add] at isCounted
    rw [Store.container?_add, Store.container?_add, follows.size_eq]
    split_ifs at isCounted ⊢ with isNew
    · rfl
    · exact follows.kept node isCounted

theorem keep (follows : Follows session keeping) {found : Option Value}
    (isThere : ∀ node, found = some (.container node) → session.heap.count node ≠ 0) :
    Follows (session.keep found) (keeping.keep found) := by
  cases found with
  | none =>
      refine { follows with exact := follows.exact.perm ?_, handles_eq := ?_ }
      · rw [Session.keep, held_push, Option.toList_none, List.append_nil]
      · rw [Session.keep, Session.keep, follows.handles_eq]
  | some value =>
      have isThere : ∀ node, value = .container node → session.heap.count node ≠ 0 :=
        fun node same => isThere node (same ▸ rfl)
      refine { exact := (follows.exact.retain isThere).perm ?_, handles_eq := ?_, size_eq := ?_
               kept := fun node isCounted => ?_ }
      · rw [Session.keep, held_push]
        exact (List.perm_append_singleton ..).symm
      · rw [Session.keep, Session.keep, follows.handles_eq]
      · rw [store_keep, store_keep, follows.size_eq]
      · rw [store_keep, store_keep]
        exact follows.kept node (Heap.count_of_retain isThere isCounted)

/-- What no handle holds any more is given up, or it is not. -/
theorem giveUp (before : Session) (value : Value)
    (exact : before.heap.Exact (value :: before.held)) (handles_eq : keeping.handles = before.handles)
    (size_eq : keeping.heap.store.size = before.heap.store.size)
    (kept : ∀ node, before.heap.count node ≠ 0 →
      keeping.heap.store.container? node = before.heap.store.container? node) :
    Follows { before with heap := (before.heap.giveUp value).2 } keeping := by
  have released := Heap.giveUp_released exact
  refine ⟨released.exact, handles_eq, size_eq.trans released.size_eq.symm, ?_⟩
  intro node isCounted
  have notFreed : node ∉ (before.heap.giveUp value).1 := fun isFreed =>
    isCounted ((released.mem_iff node).mp isFreed).2
  have wasCounted : before.heap.count node ≠ 0 := by
    have fewer := released.fewer node
    change (before.heap.giveUp value).2.count node ≠ 0 at isCounted
    omega
  exact (kept node wasCounted).trans (released.kept node notFreed).symm

/-- A change that is made without giving up what was replaced. -/
theorem changed (follows : Follows session keeping) {change : Change}
    (suits : change.Suits session.heap.store) (changes : .container change.node ∈ session.held)
    (isStored : change.value ∈ session.held) :
    let stored := (session.heap.retain change.value).update change.node change.apply
    let storedToo := (keeping.heap.retain change.value).update change.node change.apply
    stored.Exact ((change.replaced? session.heap.store).toList ++ session.held) ∧
      storedToo.store.size = stored.store.size ∧
      ∀ node, stored.count node ≠ 0 →
        storedToo.store.container? node = stored.store.container? node := by
  have isThere : ∀ node, change.value = .container node → session.heap.count node ≠ 0 :=
    fun node same => follows.exact.count_of_held (same ▸ isStored)
  obtain ⟨container, found, moved⟩ := suits.moved
  have retained := follows.exact.retain isThere
  refine ⟨?_, ?_, ?_⟩
  · have isCounted := retained.count_of_held (List.mem_cons_of_mem _ changes)
    refine retained.update [change.value] isCounted ?_ moved
    rw [Heap.store_retain, found]
  · simp [Heap.update, follows.size_eq]
  · intro node isCounted
    have wasCounted := Heap.count_of_retain isThere isCounted
    simp only [Heap.update, Heap.store_retain, Store.container?_update, follows.kept node wasCounted]

theorem store (follows : Follows session keeping) {operation : Operation} {change : Change}
    (changes : session.change? operation = some change) :
    Follows (session.store Heap.drop change) (keeping.store Heap.leave change) := by
  obtain ⟨suits, isHeld, isStored⟩ := change?_spec changes
  obtain ⟨exact, size_eq, kept⟩ := follows.changed suits isHeld isStored
  rw [store_leave, Session.store]
  cases replaced : change.replaced? session.heap.store with
  | none =>
      rw [replaced] at exact
      exact ⟨exact, follows.handles_eq, size_eq, kept⟩
  | some value =>
      rw [replaced] at exact
      let stored := (session.heap.retain change.value).update change.node change.apply
      exact giveUp { session with heap := stored } value exact follows.handles_eq size_eq kept

theorem drop (follows : Follows session keeping) (handle : HandleId) :
    Follows (session.drop Heap.drop handle) (keeping.drop Heap.leave handle) := by
  rw [Session.drop, Session.drop, follows.value?_eq]
  cases isHeld : session.value? handle with
  | none => exact follows
  | some value =>
      have exact := follows.exact.perm (held_perm isHeld)
      exact giveUp { session with handles := session.handles.setIfInBounds handle none } value exact
        (congrArg (·.setIfInBounds handle none) follows.handles_eq) follows.size_eq follows.kept

theorem found (follows : Follows session keeping) (operation : Operation) :
    Follows (session.keep (session.found? operation)) (keeping.keep (keeping.found? operation)) := by
  rw [follows.found?_eq]
  exact follows.keep fun node found => follows.exact.count_ne_zero_iff.mpr (found?_spec found)

theorem change (follows : Follows session keeping) (operation : Operation) :
    Follows
      (match session.change? operation with
      | some change => session.store Heap.drop change
      | none => session)
      (match keeping.change? operation with
      | some change => keeping.store Heap.leave change
      | none => keeping) := by
  rw [follows.change?_eq]
  cases changes : session.change? operation with
  | none => exact follows
  | some change => exact follows.store changes

theorem perform (follows : Follows session keeping) (operation : Operation) :
    Follows (session.perform operation) (keeping.performWith Heap.leave operation) := by
  cases operation with
  | newArray | newObject => exact follows.create rfl
  | hold | clone | item | entry => exact follows.found _
  | push | insert => exact follows.change _
  | drop handle => exact follows.drop handle

theorem run (follows : Follows session keeping) (operations : List Operation) :
    Follows (Session.run operations session) (runKeeping operations keeping) := by
  induction operations generalizing session keeping with
  | nil => exact follows
  | cons operation rest ih => exact ih (follows.perform operation)

end Follows

end Session

end RepoSurvey.Graph
