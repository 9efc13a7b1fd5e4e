import Mathlib.Tactic.SplitIfs
import RepoSurvey.Graph.Heap
import RepoSurvey.Proofs.Graph.Growth

/-!
# What is given up

A container is referred to from outside, by the values that are held there, and by what the containers
hold.  The counts of a heap are exact if they tell how often this is (`Exact`).  They stay exact when a
value moves from one place to another, when it is copied and when it is given up.

When references are given up, the containers are emptied to which all references are gone, those from
containers that are emptied among them.  Containers that refer to each other in a circle keep each other.
Which containers are emptied does not depend on the order in which references are given up
(`Released.unique`), so a list of references that wait does the same as giving up what a container held
before anything else.
-/

namespace RepoSurvey.Graph

/-! ## References -/

/-- How often values refer to a container. -/
def mentions (node : NodeId) (values : List Value) : Nat :=
  values.countP fun value => value = .container node

theorem mentions_cons (node : NodeId) (value : Value) (values : List Value) :
    mentions node (value :: values) =
      mentions node values + if value = .container node then 1 else 0 := by
  simp [mentions, List.countP_cons]

@[simp] theorem mentions_append (node : NodeId) (values others : List Value) :
    mentions node (values ++ others) = mentions node values + mentions node others :=
  List.countP_append

theorem mentions_perm {values others : List Value} (isPerm : values.Perm others) (node : NodeId) :
    mentions node values = mentions node others :=
  isPerm.countP_eq _

theorem mentions_eq_zero_iff {node : NodeId} {values : List Value} :
    mentions node values = 0 ↔ .container node ∉ values := by
  rw [mentions, List.countP_eq_zero]
  constructor
  · intro none isIn
    exact none _ isIn (decide_eq_true rfl)
  · intro absent value isIn same
    exact absent (of_decide_eq_true same ▸ isIn)

namespace Store

variable {store : Store} {node other : NodeId}

theorem contents_add (container : Container) :
    (store.add container).2.contents = store.contents ++ container.values := by
  rw [contents, add, Array.toList_push, List.flatMap_append, List.flatMap_singleton]
  rfl

theorem valuesAt_congr {first second : Store}
    (same : second.container? node = first.container? node) :
    second.valuesAt node = first.valuesAt node := by
  rw [valuesAt, valuesAt, same]

theorem mem_contents_iff {value : Value} :
    value ∈ store.contents ↔ ∃ node, value ∈ store.valuesAt node := by
  simp only [contents, List.mem_flatMap, Array.mem_toList_iff, Array.mem_iff_getElem?]
  constructor
  · rintro ⟨container, ⟨node, found⟩, isIn⟩
    exact ⟨node, by rwa [valuesAt_eq found]⟩
  · rintro ⟨node, isIn⟩
    cases found : store.container? node with
    | none =>
        rw [valuesAt, found] at isIn
        cases isIn
    | some container =>
        rw [valuesAt_eq found] at isIn
        exact ⟨container, ⟨node, found⟩, isIn⟩

end Store

namespace Heap

variable {heap : Heap} {node other : NodeId} {value : Value}

@[ext] theorem ext {first second : Heap} (sameStore : first.store = second.store)
    (sameCounts : ∀ node, first.count node = second.count node) : first = second := by
  obtain ⟨store, counts, areCounted⟩ := first
  obtain ⟨otherStore, otherCounts, otherAreCounted⟩ := second
  obtain rfl : store = otherStore := sameStore
  have sizes : counts.size = otherCounts.size := areCounted.trans otherAreCounted.symm
  have same : counts = otherCounts := by
    refine Array.ext sizes fun node isIn otherIsIn => ?_
    have here := sameCounts node
    rw [count, count] at here
    rwa [Array.getElem?_eq_getElem isIn, Array.getElem?_eq_getElem otherIsIn] at here
  subst same
  rfl

/-- What is referred to is there. -/
theorem found_of_count (isCounted : heap.count node ≠ 0) :
    ∃ container, heap.store.container? node = some container := by
  cases found : heap.store.container? node with
  | some container => exact ⟨container, rfl⟩
  | none =>
      have isOutside : heap.store.containers.size ≤ node := Array.getElem?_eq_none_iff.mp found
      have isOutside : heap.counts.size ≤ node := heap.areCounted.trans_le isOutside
      rw [count, Array.getElem?_eq_none_iff.mpr isOutside] at isCounted
      exact absurd rfl isCounted

@[simp] theorem count_update (change : Container → Container) :
    (heap.update node change).count other = heap.count other := rfl

theorem count_forget :
    (heap.forget value).count node =
      heap.count node - if value = .container node then 1 else 0 := by
  cases value with
  | container target =>
      rw [forget, recount, count, count, Array.getElem?_modify]
      simp only [Value.container.injEq]
      split_ifs
      · cases heap.counts[node]? <;> rfl
      · rfl
  | _ => simp [forget, recount]

theorem count_retain (isThere : heap.count node ≠ 0) :
    (heap.retain value).count node =
      heap.count node + if value = .container node then 1 else 0 := by
  cases value with
  | container target =>
      rw [count] at isThere
      rw [retain, recount, count, count, Array.getElem?_modify]
      simp only [Value.container.injEq]
      split_ifs
      · cases found : heap.counts[node]? with
        | none =>
            rw [found] at isThere
            exact absurd rfl isThere
        | some count => rfl
      · rfl
  | _ => simp [retain, recount]

theorem count_retain_of_ne (differs : value ≠ .container node) :
    (heap.retain value).count node = heap.count node := by
  cases value with
  | container target =>
      have differs : target ≠ node := fun same => differs (same ▸ rfl)
      rw [retain, recount, count, count, Array.getElem?_modify, if_neg differs]
  | _ => rfl

/-- What is referred to after one reference more was referred to before. -/
theorem count_of_retain (isThere : ∀ node, value = .container node → heap.count node ≠ 0)
    (isCounted : (heap.retain value).count node ≠ 0) : heap.count node ≠ 0 := by
  by_cases same : value = .container node
  · exact isThere node same
  · rwa [count_retain_of_ne same] at isCounted

theorem count_add (container : Container) :
    (heap.add container).2.count node =
      if node = heap.store.size then 1 else heap.count node := by
  rw [add, count, count, Array.getElem?_push, heap.areCounted]
  split_ifs <;> rfl

theorem count_outside : heap.count heap.store.size = 0 := by
  by_contra isCounted
  obtain ⟨container, found⟩ := found_of_count isCounted
  exact absurd (Array.getElem?_eq_some_iff.mp found).1 (Nat.lt_irrefl _)

/-! ## Exactness -/

/-- The counts are exact, if these values are held outside. What nothing refers to is empty. -/
structure Exact (heap : Heap) (held : List Value) : Prop where
  count_eq : ∀ node, heap.count node = mentions node held + mentions node heap.store.contents
  empty : ∀ node, heap.count node = 0 → heap.store.valuesAt node = []

namespace Exact

variable {held others : List Value}

theorem start : ({} : Heap).Exact [] :=
  ⟨fun _ => rfl, fun _ _ => rfl⟩

theorem perm (exact : heap.Exact held) (isPerm : held.Perm others) : heap.Exact others :=
  ⟨fun node => by rw [exact.count_eq, mentions_perm isPerm], exact.empty⟩

theorem count_ne_zero_iff (exact : heap.Exact held) :
    heap.count node ≠ 0 ↔
      .container node ∈ held ∨ ∃ parent, .container node ∈ heap.store.valuesAt parent := by
  rw [exact.count_eq, ← Store.mem_contents_iff, Ne, Nat.add_eq_zero_iff, mentions_eq_zero_iff,
    mentions_eq_zero_iff, ← not_or, not_not]

theorem count_of_held (exact : heap.Exact held) (isHeld : .container node ∈ held) :
    heap.count node ≠ 0 :=
  exact.count_ne_zero_iff.mpr (.inl isHeld)

theorem count_of_part (exact : heap.Exact held) {parent : NodeId}
    (isPart : .container node ∈ heap.store.valuesAt parent) : heap.count node ≠ 0 :=
  exact.count_ne_zero_iff.mpr (.inr ⟨parent, isPart⟩)

/-- Values move from outside into a container, and from the container to the outside. -/
theorem update {taken : List Value} {container : Container} {change : Container → Container}
    (stored : List Value) (exact : heap.Exact (stored ++ held)) (isCounted : heap.count node ≠ 0)
    (found : heap.store.container? node = some container)
    (moved : ((change container).values ++ taken).Perm (container.values ++ stored)) :
    (heap.update node change).Exact (taken ++ held) := by
  constructor
  · intro other
    have before := exact.count_eq other
    have parts := mentions_perm (Store.contents_update found change) other
    have both := mentions_perm moved other
    simp only [mentions_append] at before parts both
    rw [count_update, before, mentions_append]
    change _ = _ + mentions other (heap.store.update node change).contents
    omega
  · intro other isUnused
    have differs : other ≠ node := fun same => isCounted (same ▸ isUnused)
    exact (Store.valuesAt_congr (Store.container?_update_of_ne change differs)).trans
      (exact.empty other isUnused)

/-- What a container holds moves to the outside. -/
theorem emptied (exact : heap.Exact held) (isCounted : heap.count node ≠ 0) :
    (heap.update node .emptied).Exact (heap.store.valuesAt node ++ held) := by
  obtain ⟨container, found⟩ := found_of_count isCounted
  rw [Store.valuesAt_eq found]
  refine update [] exact isCounted found ?_
  rw [Container.values_emptied, List.nil_append, List.append_nil]

theorem retain (exact : heap.Exact held)
    (isThere : ∀ node, value = .container node → heap.count node ≠ 0) :
    (heap.retain value).Exact (value :: held) := by
  have counts (node : NodeId) : (heap.retain value).count node =
      heap.count node + if value = .container node then 1 else 0 := by
    by_cases same : value = .container node
    · exact count_retain (isThere node same)
    · rw [count_retain_of_ne same, if_neg same, Nat.add_zero]
  constructor
  · intro node
    rw [counts, exact.count_eq, mentions_cons, store_retain]
    omega
  · intro node isUnused
    rw [store_retain]
    rw [counts] at isUnused
    exact exact.empty node (by omega)

/-- A reference is given up that is not the last one, or the last one to a container that is empty. -/
theorem forget (exact : heap.Exact (value :: held))
    (isEmpty : ∀ node, value = .container node → heap.count node = 1 →
      heap.store.valuesAt node = []) : (heap.forget value).Exact held := by
  constructor
  · intro node
    rw [count_forget, exact.count_eq, mentions_cons, store_forget]
    omega
  · intro node isUnused
    rw [store_forget]
    rw [count_forget] at isUnused
    by_cases same : value = .container node
    · rw [if_pos same] at isUnused
      by_cases isLast : heap.count node = 1
      · exact isEmpty node same isLast
      · exact exact.empty node (by omega)
    · rw [if_neg same] at isUnused
      exact exact.empty node isUnused

theorem add {container : Container} (exact : heap.Exact held) (isEmpty : container.values = []) :
    (heap.add container).2.Exact (.container heap.store.size :: held) := by
  have isNew : mentions heap.store.size held + mentions heap.store.size heap.store.contents = 0 :=
    (exact.count_eq _).symm.trans count_outside
  have contents_eq : (heap.add container).2.store.contents = heap.store.contents := by
    change (heap.store.add container).2.contents = _
    rw [Store.contents_add, isEmpty, List.append_nil]
  constructor
  · intro node
    rw [count_add, mentions_cons, contents_eq]
    simp only [Value.container.injEq]
    by_cases same : node = heap.store.size
    · subst same
      rw [if_pos rfl, if_pos rfl]
      omega
    · rw [if_neg same, if_neg (Ne.symm same), exact.count_eq]
      omega
  · intro node isUnused
    rw [count_add] at isUnused
    change (heap.store.add container).2.valuesAt node = []
    split_ifs at isUnused with isThere
    cases found : (heap.store.add container).2.container? node with
    | none => rw [Store.valuesAt, found, Option.map_none, Option.getD_none]
    | some other =>
        have isIn : node < (heap.store.add container).2.size :=
          (Array.getElem?_eq_some_iff.mp found).1
        rw [Store.size_add] at isIn
        have isOld := Nat.lt_of_le_of_ne (Nat.le_of_lt_succ isIn) isThere
        exact (Store.valuesAt_congr (Store.container?_add_of_lt isOld)).trans
          (exact.empty node isUnused)

end Exact

end Heap

/-! ## What is emptied -/

namespace Heap

/-- The least set of containers all of whose references come from its members, or from values that are
not held any more. -/
inductive Orphaned (heap : Heap) (held : List Value) : NodeId → Prop
  | intro {node : NodeId} (isCounted : heap.count node ≠ 0) (notHeld : .container node ∉ held)
      (parents : ∀ parent, .container node ∈ heap.store.valuesAt parent →
        Orphaned heap held parent) : Orphaned heap held node

/-- References were given up.  Some containers were emptied, once each, and nothing else has changed but
the counts. -/
structure Released (before : Heap) (held : List Value) (freed : List NodeId) (after : Heap) :
    Prop where
  exact : after.Exact held
  fewer : ∀ node, after.count node ≤ before.count node
  size_eq : after.store.size = before.store.size
  nodup : freed.Nodup
  /-- Those are emptied that were referred to and are not any more. -/
  mem_iff : ∀ node, node ∈ freed ↔ before.count node ≠ 0 ∧ after.count node = 0
  emptied : ∀ node ∈ freed,
    after.store.container? node = (before.store.container? node).map Container.emptied
  kept : ∀ node, node ∉ freed → after.store.container? node = before.store.container? node
  orphaned : ∀ node ∈ freed, before.Orphaned held node

variable {heap before middle after : Heap} {held others given work : List Value}
  {freed later : List NodeId} {node : NodeId} {value : Value}

/-! ## Orphans -/

/-- What is orphaned later is orphaned already, if containers were changed only that are. -/
theorem Orphaned.of_later (orphaned : after.Orphaned others node) (areHeld : held ⊆ others)
    (areCounted : ∀ node, after.count node ≠ 0 → before.count node ≠ 0)
    (changed : ∀ node, after.store.container? node = before.store.container? node ∨
      before.Orphaned held node) : before.Orphaned held node := by
  induction orphaned with
  | @intro node isCounted notHeld _ ih =>
      refine .intro (areCounted node isCounted) (fun isHeld => notHeld (areHeld isHeld)) ?_
      intro parent isPart
      rcases changed parent with same | isOrphaned
      · rw [← Store.valuesAt_congr same] at isPart
        exact ih parent isPart
      · exact isOrphaned

/-- The last reference is the only one. -/
theorem Exact.orphaned_of_last (exact : heap.Exact (.container node :: others))
    (isLast : heap.count node = 1) (areOthers : held ⊆ others) : heap.Orphaned held node := by
  have counted := exact.count_eq node
  rw [mentions_cons, if_pos rfl] at counted
  have notHeld : .container node ∉ others := mentions_eq_zero_iff.mp (by omega)
  have notIn : .container node ∉ heap.store.contents := mentions_eq_zero_iff.mp (by omega)
  refine .intro (by omega) (fun isHeld => notHeld (areOthers isHeld)) ?_
  intro parent isPart
  exact absurd (Store.mem_contents_iff.mpr ⟨parent, isPart⟩) notIn

namespace Released

theorem refl (exact : heap.Exact held) : heap.Released held [] heap where
  exact
  fewer _ := Nat.le_refl _
  size_eq := rfl
  nodup := .nil
  mem_iff _ := ⟨fun isIn => (List.not_mem_nil isIn).elim, fun ⟨isUsed, isUnused⟩ =>
    (isUsed isUnused).elim⟩
  emptied _ isIn := (List.not_mem_nil isIn).elim
  kept _ _ := rfl
  orphaned _ isIn := (List.not_mem_nil isIn).elim

/-- One reference after the other. -/
theorem trans (first : before.Released (given ++ held) freed middle)
    (second : middle.Released held later after) : before.Released held (freed ++ later) after := by
  have orphaned : ∀ node ∈ freed, before.Orphaned held node := fun node isFreed =>
    (first.orphaned node isFreed).of_later (List.subset_append_right ..) (fun _ => id)
      fun _ => .inl rfl
  have notLater : ∀ node ∈ freed, node ∉ later := fun node isFreed isLater =>
    ((second.mem_iff node).mp isLater).1 ((first.mem_iff node).mp isFreed).2
  refine
    { exact := second.exact
      fewer node := (second.fewer node).trans (first.fewer node)
      size_eq := second.size_eq.trans first.size_eq
      nodup := first.nodup.append second.nodup fun node isFreed => notLater node isFreed
      mem_iff := ?_, emptied := ?_, kept := ?_, orphaned := ?_ }
  · intro node
    have fewer := first.fewer node
    have fewerLater := second.fewer node
    rw [List.mem_append, first.mem_iff, second.mem_iff]
    omega
  · intro node isIn
    rcases List.mem_append.mp isIn with isFreed | isLater
    · rw [second.kept node (notLater node isFreed), first.emptied node isFreed]
    · rw [second.emptied node isLater, first.kept node fun isFreed => notLater node isFreed isLater]
  · intro node notIn
    rw [List.mem_append, not_or] at notIn
    rw [second.kept node notIn.2, first.kept node notIn.1]
  · intro node isIn
    rcases List.mem_append.mp isIn with isFreed | isLater
    · exact orphaned node isFreed
    · refine (second.orphaned node isLater).of_later (List.Subset.refl _) ?_ ?_
      · intro other isCounted isUnused
        exact isCounted (Nat.le_zero.mp (isUnused ▸ first.fewer other))
      · intro other
        by_cases isFreed : other ∈ freed
        · exact .inr (orphaned other isFreed)
        · exact .inl (first.kept other isFreed)

/-- A reference that is not the last one to its container. -/
theorem shared (exact : heap.Exact (.container node :: held)) (isShared : heap.count node ≠ 1) :
    heap.Released held [] (heap.forget (.container node)) := by
  have isCounted := exact.count_of_held (List.mem_cons_self ..)
  have keeps (other : NodeId) : heap.count other ≠ 0 →
      (heap.forget (.container node)).count other ≠ 0 := by
    rw [count_forget]
    by_cases same : node = other
    · subst same
      rw [if_pos rfl]
      omega
    · simp [same]
  exact
    { exact := exact.forget fun other same isLast => by
        cases same
        exact absurd isLast isShared
      fewer other := by
        rw [count_forget]
        omega
      size_eq := congrArg Store.size (heap.store_forget _)
      nodup := .nil
      mem_iff other := ⟨fun isIn => (List.not_mem_nil isIn).elim, fun ⟨isUsed, isUnused⟩ =>
        (keeps other isUsed isUnused).elim⟩
      emptied _ isIn := (List.not_mem_nil isIn).elim
      kept other _ := congrArg (·.container? other) (heap.store_forget _)
      orphaned _ isIn := (List.not_mem_nil isIn).elim }

/-- The last reference to a container.  Whether it is forgotten before or after what the container held
is given up makes no difference. -/
theorem around {first last : Heap} {held others known : List Value}
    (exact : heap.Exact (.container node :: others)) (areOthers : held ⊆ others)
    (isLast : heap.count node = 1) (released : first.Released known freed last)
    (firstStore : first.store = heap.store.update node .emptied)
    (firstCounts : ∀ other, first.count other =
      if other = node then first.count node else heap.count other)
    (areKnown : held ⊆ known) (notFreed : node ∉ freed) (lastExact : after.Exact held)
    (lastStore : after.store = last.store)
    (lastCounts : ∀ other, after.count other = if other = node then 0 else last.count other) :
    heap.Released held (node :: freed) after := by
  have isOrphaned := exact.orphaned_of_last isLast areOthers
  have kept (other : NodeId) (differs : other ≠ node) :
      first.store.container? other = heap.store.container? other := by
    rw [firstStore]
    exact Store.container?_update_of_ne _ differs
  have isEmptied : after.store.container? node =
      (heap.store.container? node).map Container.emptied := by
    obtain ⟨container, found⟩ := found_of_count (ne_of_eq_of_ne isLast Nat.one_ne_zero)
    rw [lastStore, released.kept node notFreed, firstStore, Store.container?_update_same _ found,
      found, Option.map_some]
  -- The first heap differs from this one in what `node` holds and in how often it is referred to.
  refine
    { exact := lastExact
      fewer := ?_
      size_eq := by rw [lastStore, released.size_eq, firstStore, Store.size_update]
      nodup := List.nodup_cons.mpr ⟨notFreed, released.nodup⟩
      mem_iff := ?_, emptied := ?_, kept := ?_, orphaned := ?_ }
  · intro other
    have fewer := released.fewer other
    have counts := firstCounts other
    rw [lastCounts]
    split_ifs with same
    · exact Nat.zero_le _
    · rwa [counts, if_neg same] at fewer
  · intro other
    rw [List.mem_cons, released.mem_iff, lastCounts, firstCounts]
    by_cases same : other = node
    · subst same
      simp [isLast]
    · simp [same]
  · intro other isIn
    rcases List.mem_cons.mp isIn with rfl | isFreed
    · exact isEmptied
    · have differs : other ≠ node := fun same => notFreed (same ▸ isFreed)
      rw [lastStore, released.emptied other isFreed, kept other differs]
  · intro other notIn
    rw [List.mem_cons, not_or] at notIn
    rw [lastStore, released.kept other notIn.2, kept other notIn.1]
  · intro other isIn
    rcases List.mem_cons.mp isIn with rfl | isFreed
    · exact isOrphaned
    · refine (released.orphaned other isFreed).of_later areKnown ?_ ?_
      · intro third isCounted
        rw [firstCounts] at isCounted
        split_ifs at isCounted with same
        · rw [same, isLast]
          exact Nat.one_ne_zero
        · exact isCounted
      · intro third
        by_cases same : third = node
        · exact .inr (same ▸ isOrphaned)
        · exact .inl (kept third same)

/-- The last reference is forgotten first, and what the container held is given up after it. -/
theorem forgotten_first (exact : heap.Exact (.container node :: others)) (areOthers : held ⊆ others)
    (isLast : heap.count node = 1)
    (released : ((heap.update node .emptied).forget (.container node)).Released held freed after) :
    heap.Released held (node :: freed) after := by
  have isGone : ((heap.update node .emptied).forget (.container node)).count node = 0 := by
    rw [count_forget, if_pos rfl, count_update, isLast]
  have notFreed : node ∉ freed := fun isFreed => ((released.mem_iff node).mp isFreed).1 isGone
  refine around exact areOthers isLast released (store_forget _ _) ?_ (List.Subset.refl _) notFreed
    released.exact rfl ?_
  · intro other
    split_ifs with same
    · rw [same]
    · rw [count_forget, if_neg (by simp [Ne.symm same]), count_update, Nat.sub_zero]
  · intro other
    split_ifs with same
    · rw [same]
      exact Nat.le_zero.mp (isGone ▸ released.fewer node)
    · rfl

/-- What the container held is given up first, and the last reference is forgotten after it. -/
theorem forgotten_last (exact : heap.Exact (.container node :: held)) (isLast : heap.count node = 1)
    (released : (heap.update node .emptied).Released (.container node :: held) freed after) :
    heap.Released held (node :: freed) (after.forget (.container node)) := by
  have isHeld := released.exact.count_of_held (List.mem_cons_self ..)
  have notFreed : node ∉ freed := fun isFreed => isHeld ((released.mem_iff node).mp isFreed).2
  have isOne : after.count node = 1 := by
    have fewer := released.fewer node
    rw [count_update, isLast] at fewer
    omega
  obtain ⟨container, found⟩ := found_of_count (ne_of_eq_of_ne isLast Nat.one_ne_zero)
  have isEmpty : after.store.valuesAt node = [] := by
    have same := (released.kept node notFreed).trans (Store.container?_update_same _ found)
    rw [Store.valuesAt_eq same, Container.values_emptied]
  have lastExact : (after.forget (.container node)).Exact held :=
    released.exact.forget fun other same _ => by
      cases same
      exact isEmpty
  refine around exact (List.Subset.refl _) isLast released rfl ?_ (List.subset_cons_self ..) notFreed
    lastExact (store_forget _ _) ?_
  · intro other
    split_ifs with same
    · rw [same]
    · rfl
  · intro other
    rw [count_forget]
    split_ifs with isSame same same
    · cases isSame
      omega
    · cases isSame
      exact absurd rfl same
    · exact absurd (same ▸ rfl) isSame
    · rfl

/-! ## The same containers in any order -/

/-- The containers that are emptied are the orphans. -/
theorem mem_iff_orphaned (released : before.Released held freed after) :
    node ∈ freed ↔ before.Orphaned held node := by
  refine ⟨released.orphaned node, fun isOrphaned => ?_⟩
  induction isOrphaned with
  | @intro node isCounted notHeld _ ih =>
      have isUnused : after.count node = 0 := by
        by_contra isUsed
        rcases released.exact.count_ne_zero_iff.mp isUsed with isHeld | ⟨parent, isPart⟩
        · exact notHeld isHeld
        · by_cases isFreed : parent ∈ freed
          · have isUnused := ((released.mem_iff parent).mp isFreed).2
            rw [released.exact.empty parent isUnused] at isPart
            cases isPart
          · rw [Store.valuesAt_congr (released.kept parent isFreed)] at isPart
            exact isFreed (ih parent isPart)
      exact (released.mem_iff node).mpr ⟨isCounted, isUnused⟩

theorem unique {freedToo : List NodeId} {afterToo : Heap} (released : before.Released held freed after)
    (releasedToo : before.Released held freedToo afterToo) :
    freedToo.Perm freed ∧ afterToo = after := by
  have same (node : NodeId) : node ∈ freedToo ↔ node ∈ freed := by
    rw [released.mem_iff_orphaned, releasedToo.mem_iff_orphaned]
  have containers (node : NodeId) :
      afterToo.store.container? node = after.store.container? node := by
    by_cases isFreed : node ∈ freed
    · rw [released.emptied node isFreed, releasedToo.emptied node ((same node).mpr isFreed)]
    · rw [released.kept node isFreed, releasedToo.kept node (mt (same node).mp isFreed)]
  have stores : afterToo.store = after.store := congrArg Store.mk (Array.ext_getElem? containers)
  refine ⟨(List.perm_ext_iff_of_nodup releasedToo.nodup released.nodup).mpr same,
    Heap.ext stores fun node => ?_⟩
  rw [releasedToo.exact.count_eq, released.exact.count_eq, stores]

end Released

/-! ## Giving up from a list -/

theorem takeUnique?_eq_some_iff {taken : List Value} {emptied : Heap} :
    heap.takeUnique? node = some (taken, emptied) ↔
      heap.count node = 1 ∧ taken = heap.store.valuesAt node ∧ emptied = heap.update node .emptied := by
  rw [takeUnique?]
  split_ifs with isLast
  · rw [Option.some_inj, Prod.mk.injEq, eq_comm, @eq_comm _ emptied]
    exact ⟨fun same => ⟨isLast, same⟩, fun same => same.2⟩
  · simp [isLast]

theorem takeUnique?_eq_none_iff : heap.takeUnique? node = none ↔ heap.count node ≠ 1 := by
  rw [takeUnique?]
  split_ifs with isLast
  · simp [isLast]
  · exact ⟨fun _ => isLast, fun _ => rfl⟩

/-- What a container held is held outside when the last reference to it is forgotten. -/
theorem Exact.taken (exact : heap.Exact (.container node :: held)) (isLast : heap.count node = 1) :
    ((heap.update node .emptied).forget (.container node)).Exact
      (heap.store.valuesAt node ++ held) := by
  have isCounted : heap.count node ≠ 0 := ne_of_eq_of_ne isLast Nat.one_ne_zero
  refine ((exact.emptied isCounted).perm List.perm_middle).forget fun other same _ => ?_
  cases same
  obtain ⟨container, found⟩ := found_of_count isCounted
  exact (Store.valuesAt_eq (Store.container?_update_same _ found)).trans container.values_emptied

/-- A value without a container can be left out of what is held. -/
theorem Exact.scalar (exact : heap.Exact (value :: held))
    (isScalar : ∀ node, value ≠ .container node) : heap.Exact held := by
  refine ⟨fun node => ?_, exact.empty⟩
  rw [exact.count_eq, mentions_cons, if_neg (isScalar node), Nat.add_zero]

theorem release_released (exact : heap.Exact (work ++ held)) :
    heap.Released held (heap.release work).1 (heap.release work).2 := by
  fun_induction release heap work with
  | case1 heap => exact .refl exact
  | case2 heap node rest taken emptied isUnique others after released ih =>
      obtain ⟨isLast, rfl, rfl⟩ := takeUnique?_eq_some_iff.mp isUnique
      have waiting : (heap.store.valuesAt node ++ (rest ++ held)).Perm
          ((heap.store.valuesAt node).reverse ++ rest ++ held) := by
        rw [List.append_assoc]
        exact (List.reverse_perm _).symm.append_right _
      have inner := ih ((exact.taken isLast).perm waiting)
      rw [released] at inner
      exact .forgotten_first exact (List.subset_append_right ..) isLast inner
  | case3 heap node rest isShared ih =>
      have isShared := takeUnique?_eq_none_iff.mp isShared
      have first := Released.shared exact isShared
      exact first.trans (ih first.exact)
  | case4 heap value rest isScalar ih => exact ih (exact.scalar isScalar)

theorem giveUp_released (exact : heap.Exact (value :: held)) :
    heap.Released held (heap.giveUp value).1 (heap.giveUp value).2 := by
  rw [giveUp.eq_def]
  split
  · rename_i node
    split
    · rename_i taken emptied isUnique
      obtain ⟨isLast, rfl, rfl⟩ := takeUnique?_eq_some_iff.mp isUnique
      have isCounted : heap.count node ≠ 0 := ne_of_eq_of_ne isLast Nat.one_ne_zero
      have waiting := (exact.emptied isCounted).perm
        ((List.reverse_perm (heap.store.valuesAt node)).symm.append_right _)
      exact .forgotten_last exact isLast (release_released waiting)
    · rename_i isShared
      exact .shared exact (takeUnique?_eq_none_iff.mp isShared)
  · rename_i isScalar
    exact .refl (exact.scalar fun node same => isScalar node same)

/-! ## Giving up by recursion -/

/-- How references are given up without a list of what waits.  When the last reference to a container is
gone, what the container held is given up first, in its order, before the other references. -/
inductive Drops : Heap → List Value → List NodeId → Heap → Prop
  | done {heap : Heap} : Drops heap [] [] heap
  | scalar {heap after : Heap} {value : Value} {rest : List Value} {freed : List NodeId}
      (isScalar : ∀ node, value ≠ .container node) (others : Drops heap rest freed after) :
      Drops heap (value :: rest) freed after
  | shared {heap after : Heap} {node : NodeId} {rest : List Value} {freed : List NodeId}
      (isShared : heap.count node ≠ 1)
      (others : Drops (heap.forget (.container node)) rest freed after) :
      Drops heap (.container node :: rest) freed after
  | last {heap middle after : Heap} {node : NodeId} {rest : List Value} {freed later : List NodeId}
      (isLast : heap.count node = 1)
      (inner : Drops ((heap.update node .emptied).forget (.container node))
        (heap.store.valuesAt node) freed middle)
      (others : Drops middle rest later after) :
      Drops heap (.container node :: rest) (node :: freed ++ later) after

namespace Drops

theorem released (drops : Drops heap work freed after) {held : List Value}
    (exact : heap.Exact (work ++ held)) : heap.Released held freed after := by
  induction drops generalizing held with
  | done => exact .refl exact
  | scalar isScalar _ ih => exact ih (exact.scalar isScalar)
  | shared isShared _ ih =>
      have first := Released.shared exact isShared
      exact first.trans (ih first.exact)
  | last isLast _ _ innerIh othersIh =>
      have inner := innerIh (exact.taken isLast)
      have first := Released.forgotten_first exact (List.Subset.refl _) isLast inner
      exact first.trans (othersIh first.exact)

/-- Nothing is put into containers. -/
theorem length_contents_le (drops : Drops heap work freed after) :
    after.store.contents.length ≤ heap.store.contents.length := by
  induction drops with
  | done => exact Nat.le_refl _
  | scalar _ _ ih => exact ih
  | @shared heap _ node _ _ _ _ ih => rwa [store_forget] at ih
  | @last heap _ _ node _ _ _ _ _ _ innerIh othersIh =>
      have size_eq := (heap.store.contents_emptied node).length_eq
      rw [List.length_append] at size_eq
      rw [store_forget] at innerIh
      change _ ≤ (heap.store.update node .emptied).contents.length at innerIh
      omega

/-- The recursion comes to its end. -/
theorem exists_drops (heap : Heap) (work : List Value) :
    ∃ freed after, Drops heap work freed after := by
  induction size_eq : work.length + heap.store.contents.length using Nat.strongRecOn
    generalizing heap work with
  | ind size ih =>
      subst size_eq
      cases work with
      | nil => exact ⟨[], heap, .done⟩
      | cons value rest =>
          by_cases isScalar : ∀ node, value ≠ .container node
          · obtain ⟨freed, after, drops⟩ := ih _ (by simp) heap rest rfl
            exact ⟨freed, after, .scalar isScalar drops⟩
          · push Not at isScalar
            obtain ⟨node, rfl⟩ := isScalar
            by_cases isLast : heap.count node = 1
            · have size_eq := (heap.store.contents_emptied node).length_eq
              rw [List.length_append] at size_eq
              have smaller : ((heap.update node .emptied).forget
                  (.container node)).store.contents.length + (heap.store.valuesAt node).length =
                  heap.store.contents.length := by
                rw [store_forget, Nat.add_comm]
                exact size_eq
              obtain ⟨freed, middle, inner⟩ := ih _ (by rw [List.length_cons]; omega)
                ((heap.update node .emptied).forget (.container node)) (heap.store.valuesAt node) rfl
              have fewer := inner.length_contents_le
              obtain ⟨later, after, others⟩ := ih _ (by rw [List.length_cons]; omega) middle rest rfl
              exact ⟨_, after, .last isLast inner others⟩
            · obtain ⟨freed, after, others⟩ :=
                ih _ (by simp) (heap.forget (.container node)) rest rfl
              exact ⟨freed, after, .shared isLast others⟩

end Drops

end Heap

end RepoSurvey.Graph
