import RepoSurvey.Proofs.Graph.Handles
import RepoSurvey.Proofs.Graph.Seeing

/-!
# Dropping handles

When a handle is dropped, the containers are emptied that nothing else keeps.  The other handles do not
notice: what they hold, and all that can be seen of it, is the same as if the handle had been kept, also
after more is done.  Both runs are compared with runs in which nothing is given up.
-/

namespace RepoSurvey.Graph

/-- The handles that an operation is done with. -/
def Operation.handles : Operation → List HandleId
  | newArray => []
  | newObject => []
  | hold _ => []
  | clone handle => [handle]
  | push array value => [array, value]
  | insert object _ value => [object, value]
  | item array _ => [array]
  | entry object _ => [object]
  | drop handle => [handle]

namespace Session

variable {first second : Session} {handle other : HandleId} {operation : Operation} {value : Value}

/-! ## Runs that differ in one handle -/

/-- Two sessions whose containers are the same, and all handles but one. -/
structure AlikeBeside (handle : HandleId) (first second : Session) : Prop where
  store_eq : second.heap.store = first.heap.store
  size_eq : second.handles.size = first.handles.size
  others : ∀ other, other ≠ handle → second.handles[other]? = first.handles[other]?

namespace AlikeBeside

theorem value?_eq (alike : AlikeBeside handle first second) (isOther : other ≠ handle) :
    second.value? other = first.value? other := by
  rw [value?, value?, alike.others other isOther]

theorem array?_eq (alike : AlikeBeside handle first second) (isOther : other ≠ handle) :
    second.array? other = first.array? other := by
  rw [array?, array?, alike.value?_eq isOther, alike.store_eq]

theorem object?_eq (alike : AlikeBeside handle first second) (isOther : other ≠ handle) :
    second.object? other = first.object? other := by
  rw [object?, object?, alike.value?_eq isOther, alike.store_eq]

theorem change?_eq (alike : AlikeBeside handle first second) (notUsed : handle ∉ operation.handles) :
    second.change? operation = first.change? operation := by
  cases operation with
  | push array value =>
      simp only [Operation.handles, List.mem_cons, List.not_mem_nil, or_false, not_or] at notUsed
      rw [change?, change?, alike.array?_eq (Ne.symm notUsed.1), alike.value?_eq (Ne.symm notUsed.2)]
  | insert object key value =>
      simp only [Operation.handles, List.mem_cons, List.not_mem_nil, or_false, not_or] at notUsed
      rw [change?, change?, alike.object?_eq (Ne.symm notUsed.1), alike.value?_eq (Ne.symm notUsed.2)]
  | _ => rfl

theorem found?_eq (alike : AlikeBeside handle first second) (notUsed : handle ∉ operation.handles) :
    second.found? operation = first.found? operation := by
  cases operation with
  | hold scalar => cases scalar <;> rfl
  | clone other => exact alike.value?_eq (Ne.symm (List.mem_singleton.not.mp notUsed))
  | item array index =>
      have isOther := Ne.symm (List.mem_singleton.not.mp notUsed)
      rw [found?, found?, alike.array?_eq isOther, alike.store_eq]
  | entry object key =>
      have isOther := Ne.symm (List.mem_singleton.not.mp notUsed)
      rw [found?, found?, alike.object?_eq isOther, alike.store_eq]
  | _ => rfl

theorem push (alike : AlikeBeside handle first second) {heap heapToo : Heap} {found : Option Value}
    (store_eq : heapToo.store = heap.store) :
    AlikeBeside handle ⟨heap, first.handles.push found⟩ ⟨heapToo, second.handles.push found⟩ where
  store_eq
  size_eq := by rw [Array.size_push, Array.size_push, alike.size_eq]
  others other isOther := by
    rw [Array.getElem?_push, Array.getElem?_push, alike.size_eq, alike.others other isOther]

theorem create (alike : AlikeBeside handle first second) (container : Container) :
    AlikeBeside handle (first.create container) (second.create container) := by
  have store_eq : (second.heap.add container).2.store = (first.heap.add container).2.store :=
    congrArg (·.add container |>.2) alike.store_eq
  have node_eq : (second.heap.add container).1 = (first.heap.add container).1 :=
    congrArg Store.size alike.store_eq
  change AlikeBeside handle
    ⟨_, first.handles.push (some (.container (first.heap.add container).1))⟩
    ⟨_, second.handles.push (some (.container (second.heap.add container).1))⟩
  rw [node_eq]
  exact alike.push store_eq

theorem keep (alike : AlikeBeside handle first second) (found : Option Value) :
    AlikeBeside handle (first.keep found) (second.keep found) := by
  cases found with
  | none => exact alike.push alike.store_eq
  | some value => exact alike.push (by rw [Heap.store_retain, Heap.store_retain, alike.store_eq])

theorem store (alike : AlikeBeside handle first second) (change : Change) :
    AlikeBeside handle (first.store Heap.leave change) (second.store Heap.leave change) := by
  refine ⟨?_, ?_, ?_⟩
  · rw [store_change, store_change, alike.store_eq]
  · rw [store_leave, store_leave]
    exact alike.size_eq
  · rw [store_leave, store_leave]
    exact alike.others

theorem drop (alike : AlikeBeside handle first second) (isOther : other ≠ handle) :
    AlikeBeside handle (first.drop Heap.leave other) (second.drop Heap.leave other) := by
  rw [Session.drop, Session.drop, alike.value?_eq isOther]
  split
  · refine ⟨alike.store_eq, ?_, fun third isThird => ?_⟩
    · rw [Array.size_setIfInBounds, Array.size_setIfInBounds, alike.size_eq]
    · rw [Array.getElem?_setIfInBounds, Array.getElem?_setIfInBounds, alike.size_eq,
        alike.others third isThird]
  · exact alike

theorem perform (alike : AlikeBeside handle first second) (notUsed : handle ∉ operation.handles) :
    AlikeBeside handle (first.performWith Heap.leave operation)
      (second.performWith Heap.leave operation) := by
  cases operation with
  | newArray | newObject => exact alike.create _
  | hold | clone | item | entry =>
      rw [performWith, performWith, alike.found?_eq notUsed]
      exact alike.keep _
  | push | insert =>
      rw [performWith, performWith, alike.change?_eq notUsed]
      split
      · exact alike.store _
      · exact alike
  | drop other => exact alike.drop (Ne.symm (List.mem_singleton.not.mp notUsed))

theorem run (alike : AlikeBeside handle first second) {operations : List Operation}
    (notUsed : ∀ operation ∈ operations, handle ∉ operation.handles) :
    AlikeBeside handle (runKeeping operations first) (runKeeping operations second) := by
  induction operations generalizing first second with
  | nil => exact alike
  | cons operation rest ih =>
      rw [List.forall_mem_cons] at notUsed
      exact ih (alike.perform notUsed.1) notUsed.2

/-- Dropping a handle, without giving anything up, changes nothing but this handle. -/
theorem of_drop (session : Session) (handle : HandleId) :
    AlikeBeside handle (session.drop Heap.leave handle) session := by
  rw [Session.drop]
  split
  · refine ⟨rfl, (Array.size_setIfInBounds ..).symm, fun other isOther => ?_⟩
    rw [Array.getElem?_setIfInBounds_ne (Ne.symm isOther)]
  · exact ⟨rfl, rfl, fun _ _ => rfl⟩

end AlikeBeside

/-! ## What the other handles see -/

theorem Follows.count_of_reachable {session keeping : Session} (follows : Follows session keeping)
    (isHeld : session.value? handle = some value) {node : NodeId}
    (reached : Reachable session.heap.store value node) : session.heap.count node ≠ 0 := by
  induction reached with
  | root refers =>
      obtain ⟨rfl, _⟩ := Value.container?_eq_some_iff.mp refers
      exact follows.exact.count_of_held (mem_held_iff.mpr ⟨handle, isHeld⟩)
  | part _ found isPart refers _ =>
      obtain ⟨rfl, _⟩ := Value.container?_eq_some_iff.mp refers
      rw [← Store.valuesAt_eq found] at isPart
      exact follows.exact.count_of_part isPart

/-- Two sessions that are like each other but for one handle, if nothing is given up, are seen alike through
the other handles. -/
theorem seenAlike {dropped kept keepingDropped keepingKept : Session}
    (followsDropped : Follows dropped keepingDropped) (followsKept : Follows kept keepingKept)
    (alike : AlikeBeside handle keepingDropped keepingKept) (isOther : other ≠ handle) :
    dropped.value? other = kept.value? other ∧
      ∀ value, kept.value? other = some value →
        SeenAlike kept.heap.store dropped.heap.store value := by
  have value_eq : dropped.value? other = kept.value? other := by
    rw [← followsDropped.value?_eq, ← followsKept.value?_eq, alike.value?_eq isOther]
  refine ⟨value_eq, fun value isHeld => Agree.seenAlike ⟨?_, ?_⟩⟩
  · rw [← followsDropped.size_eq, ← followsKept.size_eq, alike.store_eq]
  · have same (node : NodeId) (isCounted : kept.heap.count node ≠ 0)
        (isCountedToo : dropped.heap.count node ≠ 0) :
        dropped.heap.store.container? node = kept.heap.store.container? node := by
      rw [← followsDropped.kept node isCountedToo, ← followsKept.kept node isCounted, alike.store_eq]
    have counted (node : NodeId) (reached : Reachable kept.heap.store value node) :
        dropped.heap.count node ≠ 0 := by
      induction reached with
      | root refers =>
          obtain ⟨rfl, _⟩ := Value.container?_eq_some_iff.mp refers
          exact followsDropped.exact.count_of_held (mem_held_iff.mpr ⟨other, value_eq.trans isHeld⟩)
      | @part outer node container inner reached found isPart refers isCounted =>
          obtain ⟨rfl, _⟩ := Value.container?_eq_some_iff.mp refers
          rw [← same outer (followsKept.count_of_reachable isHeld reached) isCounted] at found
          rw [← Store.valuesAt_eq found] at isPart
          exact followsDropped.exact.count_of_part isPart
    exact fun node reached =>
      same node (followsKept.count_of_reachable isHeld reached) (counted node reached)

end Session

open Session in
/-- Wherever a handle is dropped in a run: the containers that are emptied are the least set of those all of
whose references come from the handle or from members of the set.  Each is emptied once, nothing else is,
and recursion would empty the same ones.  After any further operations with other handles, each other handle
holds what it would hold if the handle had been kept, and nothing different is seen of it. -/
theorem dropping_leaves_others (before : List Operation) (handle : HandleId) :
    let session := Session.run before
    session.heap.Exact session.held ∧
      (∀ value, session.value? handle = some value →
        ∃ freed after, session.heap.giveUp value = (freed, after) ∧
          session.perform (.drop handle) =
            ⟨after, session.handles.setIfInBounds handle none⟩ ∧
          after.Exact (session.heldBeside handle) ∧ freed.Nodup ∧
          (∀ node, node ∈ freed ↔ session.heap.Orphaned (session.heldBeside handle) node) ∧
          (∀ node ∈ freed, session.heap.count node ≠ 0 ∧ after.count node = 0 ∧
            after.store.container? node =
              (session.heap.store.container? node).map Container.emptied) ∧
          (∀ node, node ∉ freed →
            after.store.container? node = session.heap.store.container? node) ∧
          (∃ recursively last, Heap.Drops session.heap [value] recursively last) ∧
          ∀ recursively last, Heap.Drops session.heap [value] recursively last →
            recursively.Perm freed ∧ last = after) ∧
      ∀ after, (∀ operation ∈ after, handle ∉ operation.handles) → ∀ other, other ≠ handle →
        let dropped := Session.run (before ++ .drop handle :: after)
        let kept := Session.run (before ++ after)
        dropped.value? other = kept.value? other ∧
          ∀ value, kept.value? other = some value →
            SeenAlike kept.heap.store dropped.heap.store value := by
  intro session
  have follows : Follows session (runKeeping before) := Follows.start.run before
  refine ⟨follows.exact, fun value isHeld => ?_, fun after notUsed other isOther => ?_⟩
  · have exact := follows.exact.perm (held_perm isHeld)
    have released := Heap.giveUp_released exact
    refine ⟨_, _, Prod.mk.eta.symm, ?_, released.exact, released.nodup,
      fun _ => released.mem_iff_orphaned, ?_, released.kept, Heap.Drops.exists_drops _ _,
      fun recursively last drops => ?_⟩
    · rw [perform, performWith, Session.drop, isHeld]
      rfl
    · intro node isFreed
      obtain ⟨wasCounted, isUnused⟩ := (released.mem_iff node).mp isFreed
      exact ⟨wasCounted, isUnused, released.emptied node isFreed⟩
    · exact released.unique (drops.released exact)
  · have followsKept := follows.run after
    have followsDropped := (follows.drop handle).run after
    have alike := (AlikeBeside.of_drop (runKeeping before) handle).run notUsed
    have dropped_eq : Session.run (before ++ .drop handle :: after) =
        Session.run after (session.drop Heap.drop handle) := by
      rw [Session.run, List.foldl_append]
      rfl
    have kept_eq : Session.run (before ++ after) = Session.run after session := List.foldl_append
    rw [dropped_eq, kept_eq]
    exact seenAlike followsDropped followsKept alike isOther

/-- An object holds an array twice that another array holds, too, an array that holds itself, and an object
that nothing else holds.  The first object and the second array keep their handles. -/
def sharing : List Operation :=
  [.newObject, .newArray, .newArray, .newArray, .newObject, .insert 0 "list" 1, .insert 0 "again" 1,
    .push 2 1, .push 3 3, .insert 0 "knot" 3, .insert 0 "inner" 4, .drop 1, .drop 3, .drop 4]

/-- The shared array is read from the array that is left, and a circle is closed. -/
def afterSharing : List Operation := [.item 2 0, .push 5 2]

theorem dropping_leaves_others_of_sharing :
    (Session.run sharing).value? 0 = some (.container 0) ∧
      (∀ node, node ∈ [0, 4] ↔
        (Session.run sharing).heap.Orphaned ((Session.run sharing).heldBeside 0) node) ∧
      (∀ recursively last,
        Heap.Drops (Session.run sharing).heap [.container 0] recursively last →
          recursively.Perm [0, 4]) ∧
      (∀ operation ∈ afterSharing, 0 ∉ operation.handles) ∧
      (Session.run (sharing ++ afterSharing)).value? 5 = some (.container 1) ∧
      SeenAlike (Session.run (sharing ++ afterSharing)).heap.store
        (Session.run (sharing ++ .drop 0 :: afterSharing)).heap.store (.container 1) := by
  obtain ⟨_, released, leaves⟩ := dropping_leaves_others sharing 0
  have isHeld : (Session.run sharing).value? 0 = some (.container 0) := by decide +kernel
  have notUsed : ∀ operation ∈ afterSharing, 0 ∉ operation.handles := by decide
  have isRead : (Session.run (sharing ++ afterSharing)).value? 5 = some (.container 1) := by
    decide +kernel
  have freed_eq : ((Session.run sharing).heap.giveUp (.container 0)).1 = [0, 4] := by decide +kernel
  obtain ⟨freed, after, givenUp, _, _, _, orphaned, _, _, _, same⟩ := released _ isHeld
  rw [givenUp] at freed_eq
  obtain rfl : freed = [0, 4] := freed_eq
  exact ⟨isHeld, orphaned, fun recursively last drops => (same recursively last drops).1, notUsed,
    isRead, (leaves afterSharing notUsed 5 (by decide)).2 _ isRead⟩

end RepoSurvey.Graph
