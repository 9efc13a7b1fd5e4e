import RepoSurvey.Graph.Outlet
import RepoSurvey.Proofs.Graph.Identities

/-!
# What is seen of a value

Whatever is read or written of a value depends on the containers only that can be reached from it.  Two
stores in which these are the same are seen alike, whatever else they hold.
-/

namespace RepoSurvey.Graph

/-- All that can be read or written of a value is the same in two stores. -/
structure SeenAlike (first second : Store) (root : Value) : Prop where
  reachable_iff : ∀ node, Reachable second root node ↔ Reachable first root node
  container?_eq : ∀ node, Reachable first root node →
    second.container? node = first.container? node
  length_eq : ∀ node, Reachable first root node → second.length node = first.length node
  item?_eq : ∀ node, Reachable first root node → second.item? node = first.item? node
  items_eq : ∀ node, Reachable first root node → second.items node = first.items node
  entry?_eq : ∀ node, Reachable first root node → second.entry? node = first.entry? node
  entries_eq : ∀ node, Reachable first root node → second.entries node = first.entries node
  keys_eq : ∀ node, Reachable first root node → second.keys node = first.keys node
  hasKey_eq : ∀ node, Reachable first root node → second.hasKey node = first.hasKey node
  array?_eq : root.array? second = root.array? first
  object?_eq : root.object? second = root.object? first
  described_eq : root.described second = root.described first
  inspected_eq : root.inspected second = root.inspected first
  compactText_eq : compactText second root = compactText first root
  prettyText_eq : prettyText second root = prettyText first root
  document_eq : document second root = document first root
  writeLimited_eq : ∀ limit, writeLimited limit second root = writeLimited limit first root
  writeTo_eq : ∀ (σ : Type) (outlet : Outlet σ), writeTo outlet second root = writeTo outlet first root

/-- Two stores of the same size in which the containers are the same that can be reached. -/
structure Agree (first second : Store) (root : Value) : Prop where
  size_eq : second.size = first.size
  same : ∀ node, Reachable first root node → second.container? node = first.container? node

@[simp] theorem Value.renamed_id (value : Value) : value.renamed id = value := by
  cases value <;> rfl

@[simp] theorem Container.renamed_id (container : Container) : container.renamed id = container := by
  cases container with
  | array items =>
      have same : Value.renamed id = id := funext Value.renamed_id
      rw [renamed, same, Array.map_id]
  | object entries =>
      have same : Value.renamed id = id := funext Value.renamed_id
      rw [renamed, same, Prod.map_id, Array.map_id]

/-- A value is not a reference to a container that cannot be reached. -/
def Within (store : Store) (root value : Value) : Prop :=
  ∀ node, value.container? store = some node → Reachable store root node

theorem within_root (store : Store) (root : Value) : Within store root root :=
  fun _ refers => .root refers

theorem eq_container_of_visit {store : Store} {visited : Visited} {value : Value} {node : NodeId}
    {container : Container} (visits : visit store visited value = .first node container) :
    value = .container node ∧ store.container? node = some container := by
  rw [visit.eq_def] at visits
  split at visits
  · split at visits
    · cases visits
    · rename_i found
      split at visits
      · cases visits
      · cases visits
        exact ⟨rfl, found⟩
  · cases visits

/-- What is left to be written is within reach. -/
def FramesWithin (store : Store) (root : Value) (frames : List Frame) : Prop :=
  ∀ frame ∈ frames, ∀ part ∈ frame.rest, Within store root part.2

namespace FramesWithin

variable {store : Store} {root value : Value} {writer next : Writer}

theorem beginValue (framesWithin : FramesWithin store root writer.frames)
    (within : Within store root value) :
    FramesWithin store root (writer.beginValue store value).2.frames := by
  rw [Writer.beginValue]
  split
  · rwa [Writer.endValue_frames]
  · rwa [Writer.endValue_frames]
  · rename_i node container visited
    obtain ⟨rfl, found⟩ := eq_container_of_visit visited
    have refers : (Value.container node).container? store = some node :=
      Value.container?_eq_some_iff.mpr ⟨rfl, container, found⟩
    intro frame isIn part isPart
    rcases List.mem_cons.mp isIn with rfl | isIn
    · have isValue : part.2 ∈ container.values := by
        rw [Container.values_eq]
        exact List.mem_map_of_mem isPart
      exact fun inner refersToo => .part (within node refers) found isValue refersToo
    · exact framesWithin frame isIn part isPart

theorem step {pieces : List String} (framesWithin : FramesWithin store root writer.frames)
    (stepped : writer.step store = some (pieces, next)) : FramesWithin store root next.frames := by
  rw [Writer.step] at stepped
  split at stepped
  · cases stepped
  · rename_i frames_eq
    cases stepped
    rw [frames_eq] at framesWithin
    rw [Writer.endValue_frames]
    exact fun frame isIn => framesWithin frame (List.mem_cons_of_mem _ isIn)
  · rename_i frames_eq
    cases stepped
    rw [frames_eq] at framesWithin
    have here := framesWithin _ (List.mem_cons_self ..)
    refine beginValue ?_ (here _ (List.mem_cons_self ..))
    intro frame isIn part isPart
    rcases List.mem_cons.mp isIn with rfl | isIn
    · exact here part (List.mem_cons_of_mem _ isPart)
    · exact framesWithin frame (List.mem_cons_of_mem _ isIn) part isPart

end FramesWithin

namespace Agree

variable {first second : Store} {root value : Value} {node : NodeId}

/-- The container that a value refers to is the same, or there is none. -/
theorem container?_eq (agree : Agree first second root) (within : Within first root (.container node)) :
    second.container? node = first.container? node := by
  cases found : first.container? node with
  | some container =>
      have refers : (Value.container node).container? first = some node :=
        Value.container?_eq_some_iff.mpr ⟨rfl, container, found⟩
      rw [agree.same node (within node refers), found]
  | none =>
      have isOutside : first.size ≤ node := Array.getElem?_eq_none_iff.mp found
      rw [← agree.size_eq] at isOutside
      exact Array.getElem?_eq_none_iff.mpr isOutside

/-- The container of a value that is within reach. -/
theorem value_container?_eq (agree : Agree first second root) (within : Within first root value) :
    value.container? second = value.container? first := by
  cases value with
  | container node => rw [Value.container?, Value.container?, agree.container?_eq within]
  | _ => rfl

theorem reachable_iff (agree : Agree first second root) :
    Reachable second root node ↔ Reachable first root node := by
  constructor
  · intro reached
    induction reached with
    | root refers =>
        rw [agree.value_container?_eq (within_root first root)] at refers
        exact .root refers
    | @part outer node container value _ found isPart refers ih =>
        rw [agree.same outer ih] at found
        have within : Within first root value := fun _ refers => .part ih found isPart refers
        rw [agree.value_container?_eq within] at refers
        exact .part ih found isPart refers
  · intro reached
    induction reached with
    | root refers =>
        rw [← agree.value_container?_eq (within_root first root)] at refers
        exact .root refers
    | @part outer node container value reached found isPart refers ih =>
        have within : Within first root value := fun _ refers => .part reached found isPart refers
        rw [← agree.value_container?_eq within] at refers
        rw [← agree.same outer reached] at found
        exact .part ih found isPart refers

/-! ## Writing -/

theorem visit_eq (agree : Agree first second root) (within : Within first root value)
    (visited : Visited) : visit second visited value = visit first visited value := by
  cases value with
  | container node => rw [visit, visit, agree.container?_eq within]
  | _ => rfl

theorem beginValue_eq (agree : Agree first second root) (within : Within first root value)
    (writer : Writer) : writer.beginValue second value = writer.beginValue first value := by
  rw [Writer.beginValue, Writer.beginValue, agree.visit_eq within]

theorem step_eq (agree : Agree first second root) {writer : Writer}
    (within : FramesWithin first root writer.frames) : writer.step second = writer.step first := by
  rw [Writer.step, Writer.step]
  split
  · rfl
  · rfl
  · rename_i frames_eq
    rw [frames_eq] at within
    have isWithin := within _ (List.mem_cons_self ..) _ (List.mem_cons_self ..)
    simp only [agree.beginValue_eq isWithin]

theorem finishWith_eq (agree : Agree first second root) {m : Type → Type} [Monad m]
    (put : String → m Unit) {writer : Writer} (within : FramesWithin first root writer.frames) :
    writer.finishWith put second = writer.finishWith put first := by
  fun_induction Writer.finishWith put first writer with
  | case1 writer isDone =>
      rw [Writer.finishWith]
      split
      · rfl
      · rename_i stepped
        rw [agree.step_eq within, isDone] at stepped
        cases stepped
  | case2 writer pieces next stepped ih =>
      rw [Writer.finishWith]
      split
      · rename_i isDone
        rw [agree.step_eq within, stepped] at isDone
        cases isDone
      · rename_i steppedToo
        rw [agree.step_eq within, stepped] at steppedToo
        cases steppedToo
        rw [ih (within.step stepped)]

theorem writeWith_eq (agree : Agree first second root) {m : Type → Type} [Monad m]
    (put : String → m Unit) (layout : Layout) :
    writeWith put layout second root = writeWith put layout first root := by
  have isWithin := within_root first root
  have none : FramesWithin first root ({ layout } : Writer).frames := fun _ isIn => nomatch isIn
  rw [writeWith, writeWith, agree.beginValue_eq isWithin]
  exact congrArg _ (funext fun _ => agree.finishWith_eq put (none.beginValue isWithin))

/-! ## Everything that is seen -/

/-- The containers keep their identities. -/
theorem renames (agree : Agree first second root) : Renames id first root second root where
  root_eq := root.renamed_id.symm
  injective := Set.injOn_id _
  found node container reached found := by
    rw [id_eq, Container.renamed_id, agree.same node reached, found]
  absent node absent := by
    have isOutside : first.size ≤ node := Array.getElem?_eq_none_iff.mp absent
    rw [← agree.size_eq] at isOutside
    exact Array.getElem?_eq_none_iff.mpr isOutside

theorem document_eq (agree : Agree first second root) :
    document second root = document first root := by
  rw [Graph.document_eq, Graph.document_eq, agree.renames.unfolding_eq, Unfolding.ordered_renamed]

theorem writeGraph_eq (agree : Agree first second root) (layout : Layout) :
    writeGraph layout second root = writeGraph layout first root :=
  agree.writeWith_eq put layout

theorem length_eq (agree : Agree first second root) (reached : Reachable first root node) :
    second.length node = first.length node := by
  rw [Store.length, Store.length, agree.same node reached]

theorem isArray_eq (agree : Agree first second root) (reached : Reachable first root node) :
    second.isArray node = first.isArray node := by
  rw [Store.isArray, Store.isArray, agree.same node reached]

theorem isObject_eq (agree : Agree first second root) (reached : Reachable first root node) :
    second.isObject node = first.isObject node := by
  rw [Store.isObject, Store.isObject, agree.same node reached]

theorem entries_eq (agree : Agree first second root) (reached : Reachable first root node) :
    second.entries node = first.entries node := by
  rw [Store.entries, Store.entries, agree.same node reached]

theorem array?_eq (agree : Agree first second root) : root.array? second = root.array? first := by
  rw [Value.array?, Value.array?, agree.value_container?_eq (within_root first root)]
  cases refers : root.container? first with
  | none => rfl
  | some node => simp only [Option.filter, agree.isArray_eq (.root refers)]

theorem object?_eq (agree : Agree first second root) : root.object? second = root.object? first := by
  rw [Value.object?, Value.object?, agree.value_container?_eq (within_root first root)]
  cases refers : root.container? first with
  | none => rfl
  | some node => simp only [Option.filter, agree.isObject_eq (.root refers)]

theorem described_eq (agree : Agree first second root) :
    root.described second = root.described first := by
  have sameLength {node : NodeId} (isRoot : root.container? first = some node) :
      second.length node = first.length node := agree.length_eq (.root isRoot)
  rw [Value.described, Value.described, agree.array?_eq, agree.object?_eq]
  split
  · rename_i isObject
    rw [sameLength (Option.filter_eq_some_iff.mp isObject).1]
  · rename_i isArray _
    rw [sameLength (Option.filter_eq_some_iff.mp isArray).1]
  · rfl

theorem inspected_eq (agree : Agree first second root) :
    root.inspected second = root.inspected first := by
  cases root with
  | container node =>
      have same := agree.container?_eq (within_root first (.container node))
      have sameKind : second.isArray node = first.isArray node := by
        rw [Store.isArray, Store.isArray, same]
      have sameLength : second.length node = first.length node := by
        rw [Store.length, Store.length, same]
      have sameKeys : second.keys node = first.keys node := by
        rw [Store.keys, Store.keys, Store.entries, Store.entries, same]
      simp only [Value.inspected, sameKind, sameLength, sameKeys]
  | _ => rfl

theorem seenAlike (agree : Agree first second root) : SeenAlike first second root where
  reachable_iff _ := agree.reachable_iff
  container?_eq := agree.same
  length_eq _ reached := agree.length_eq reached
  item?_eq node reached := by
    funext index
    rw [Store.item?, Store.item?, agree.same node reached]
  items_eq node reached := by rw [Store.items, Store.items, agree.same node reached]
  entry?_eq node reached := by
    funext key
    rw [Store.entry?, Store.entry?, agree.entries_eq reached]
  entries_eq _ reached := agree.entries_eq reached
  keys_eq node reached := by rw [Store.keys, Store.keys, agree.entries_eq reached]
  hasKey_eq node reached := by
    funext key
    rw [Store.hasKey, Store.hasKey, agree.entries_eq reached]
  array?_eq := agree.array?_eq
  object?_eq := agree.object?_eq
  described_eq := agree.described_eq
  inspected_eq := agree.inspected_eq
  compactText_eq := by rw [compactText, compactText, renderWith, renderWith, agree.writeGraph_eq]
  prettyText_eq := by rw [prettyText, prettyText, renderWith, renderWith, agree.writeGraph_eq]
  document_eq := agree.document_eq
  writeLimited_eq limit := by rw [writeLimited, writeLimited, agree.writeGraph_eq]
  writeTo_eq _ outlet := agree.writeWith_eq outlet.put .compact

end Agree

end RepoSurvey.Graph
