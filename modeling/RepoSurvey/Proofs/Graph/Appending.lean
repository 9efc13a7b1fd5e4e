import Mathlib.Data.List.Forall2
import RepoSurvey.Proofs.Graph.Filling

/-!
# Lists that are appended to

Builders put trees at the end of lists that were made before.  An object may be put there while a list
inside it is still empty; what that list receives later belongs to the object.
-/

namespace RepoSurvey.Graph

open Unfolding

/-- Trees were put at the end of a list that held some values, and all else was left alone. -/
structure Appended (before after : Store) (target : NodeId) (held : List Value)
    (trees : List Unfolding) : Prop where
  found : after.container? target = some (.array (held ++ trees.map value).toArray)
  extended : Extends before after [target]
  standApart : StandApart after before.size (listed trees)

namespace Appended

variable {before middle after : Store} {target : NodeId} {held : List Value}
  {trees others : List Unfolding}

theorem nil (found : before.container? target = some (.array held.toArray)) :
    Appended before before target held [] where
  found := by rw [found, List.map_nil, List.append_nil]
  extended := .refl before [target]
  standApart := .nil

theorem append (first : Appended before middle target held trees)
    (second : Appended middle after target (held ++ trees.map value) others)
    (isOld : target < before.size) : Appended before after target held (trees ++ others) where
  found := by rw [second.found, List.map_append, List.append_assoc]
  extended := first.extended.trans second.extended fun node isTarget _ => isTarget
  standApart := by
    have firstApart := first.standApart.later_of_lt second.extended (by simpa using isOld)
    rw [listed, List.map_append]
    exact firstApart.append second.standApart first.extended.size_le
      fun node isIn => first.standApart.lt_size isIn

/-- A tree that was built after the list is put at its end. -/
theorem push {tree : Unfolding} (found : before.container? target = some (.array held.toArray))
    (extended : Extends before middle []) (stands : Stands middle before.size tree) :
    Appended before ((Build.push target tree.value).run middle).2 target held [tree] := by
  have isOld : target < before.size := lt_size_of_container? found
  have stillFound : middle.container? target = some (.array held.toArray) := by
    rw [extended.kept target isOld List.not_mem_nil, found]
  have isLater : Extends middle ((Build.push target tree.value).run middle).2 [target] :=
    Build.extends_push target tree.value
  refine ⟨Build.container?_push stillFound tree.value, ?_, .singleton ?_⟩
  · exact (extended.mono (by simp)).trans isLater fun node isTarget _ => isTarget
  · exact stands.later_of_lt isLater (by simpa using isOld)

/-- A list that was new is a tree of its own. -/
theorem stands (appended : Appended before after target [] trees) {low : Nat}
    (isNew : low ≤ target) (isOld : target < before.size) :
    Stands after low (.full target .array (listed trees)) := by
  have isLower : low ≤ before.size := Nat.le_trans isNew (Nat.le_of_lt isOld)
  refine (appended.standApart.lower isLower).full appended.found ?_ isNew ?_
  · rw [Container.parts, List.toList_toArray, values_listed, List.nil_append]
  · intro isIn
    exact absurd (appended.standApart.fresh isIn) (Nat.not_le.mpr isOld)

end Appended

/-! ## Builders that append -/

/-- Whatever a list holds, an action puts trees at its end, one for each promise. -/
def Appends (action : Build Unit) (target : NodeId) (promises : List (Unfolding → Prop)) : Prop :=
  ∀ before held, before.container? target = some (.array held.toArray) →
    ∃ trees, Appended before (action.run before).2 target held trees ∧
      List.Forall₂ (fun promise tree => promise tree) promises trees

namespace Appends

variable {target : NodeId} {promises others : List (Unfolding → Prop)}

theorem nil : Appends (pure ()) target [] := fun _ _ found => ⟨[], .nil found, .nil⟩

theorem append {first second : Build Unit} (appends : Appends first target promises)
    (appendsOthers : Appends second target others) :
    Appends (do first; second) target (promises ++ others) := by
  intro before held found
  obtain ⟨trees, appended, kept⟩ := appends before held found
  obtain ⟨otherTrees, othersAppended, othersKept⟩ := appendsOthers _ _ appended.found
  exact ⟨trees ++ otherTrees, appended.append othersAppended (lt_size_of_container? found),
    List.rel_append kept othersKept⟩

theorem push {action : Build Value} {promise : Unfolding → Prop} (builds : Builds action promise) :
    Appends (do Build.push target (← action)) target [promise] := by
  intro before held found
  obtain ⟨tree, value_eq, extended, stands, isKept⟩ := builds before
  have appended := Appended.push found extended stands
  rw [value_eq] at appended
  exact ⟨[tree], appended, .cons isKept .nil⟩

/-- Something is built for each item of a list, one after the other. -/
theorem forM {α : Type} {action : α → Build Value} {promise : α → Unfolding → Prop}
    (builds : ∀ item, Builds (action item) (promise item)) (items : List α) :
    Appends (items.forM fun item => do Build.push target (← action item)) target
      (items.map promise) := by
  induction items with
  | nil => exact nil
  | cons item rest ih => exact (push (builds item)).append ih

/-- A new list that is filled. -/
theorem newArray {action : NodeId → Build Unit}
    (appends : ∀ list, Appends (action list) list promises) :
    Builds (do
      let list ← Build.newArray
      action list
      return .container list) fun tree => ∃ node trees, tree = .full node .array (listed trees) ∧
        List.Forall₂ (fun promise tree => promise tree) promises trees := by
  intro before
  have made : Extends before (Build.newArray.run before).2 [] := .add before _
  obtain ⟨trees, appended, kept⟩ := appends before.size _ [] Store.container?_add_new
  refine ⟨.full before.size .array (listed trees), rfl, ?_, ?_, before.size, trees, rfl, kept⟩
  · refine made.trans appended.extended fun node isTarget isOld => ?_
    rw [List.mem_singleton.mp isTarget] at isOld
    exact absurd isOld (Nat.lt_irrefl _)
  · refine appended.stands (Nat.le_refl _) ?_
    rw [Store.size_add]
    exact Nat.lt_succ_self _

end Appends

/-- Promises of plain trees with these documents. -/
theorem forall₂_plain {written : List Json.Ordered} {trees : List Unfolding} :
    List.Forall₂ (fun promise tree => promise tree) (written.map Plain) trees ↔
      trees.map ordered = written ∧ repeatsOf (listed trees) = [] := by
  rw [List.forall₂_map_left_iff]
  constructor
  · intro arePlain
    induction arePlain with
    | nil => exact ⟨rfl, repeatsOf_nil⟩
    | @cons document tree _ _ isPlain _ ih =>
        refine ⟨congrArg₂ List.cons isPlain.ordered_eq ih.1, ?_⟩
        rw [repeatsOf_eq_nil_iff] at ih ⊢
        exact List.forall_mem_cons.mpr ⟨isPlain.repeats_eq, ih.2⟩
  · rintro ⟨rfl, arePlain⟩
    rw [repeatsOf_eq_nil_iff] at arePlain
    rw [List.forall₂_map_left_iff, List.forall₂_same]
    exact fun tree isIn => ⟨rfl, arePlain (none, tree) (List.mem_map_of_mem isIn)⟩

/-- A new list that is filled with plain trees. -/
theorem Appends.newArray_plain {action : NodeId → Build Unit} {written : List Json.Ordered}
    (appends : ∀ list, Appends (action list) list (written.map Plain)) :
    Builds (do
      let list ← Build.newArray
      action list
      return .container list) (Plain (.array written)) := by
  refine (Appends.newArray appends).mono fun tree isList => ?_
  obtain ⟨node, trees, rfl, arePlain⟩ := isList
  obtain ⟨rfl, areWhole⟩ := forall₂_plain.mp arePlain
  exact .array areWhole

/-! ## Objects that are appended before they are filled -/

/-- An object was put at the end of a list, with an empty list inside it.  What that list receives
completes a tree, whose document is made around the documents of what was received.  In the meantime
more may be put behind the object. -/
structure Opening (before opened : Store) (target list object : NodeId) (held : List Value)
    (around : Json.Ordered → Json.Ordered) : Prop where
  isEmpty : opened.container? list = some (.array #[])
  isNew : before.size ≤ list
  found : opened.container? target = some (.array (held ++ [Value.container object]).toArray)
  extended : Extends before opened [target]
  completes : ∀ after trees, Extends opened after [target, list] →
    after.container? list = some (.array (trees.map value).toArray) →
      StandApart after opened.size (listed trees) → repeatsOf (listed trees) = [] →
        ∃ tree, tree.value = .container object ∧ Stands after before.size tree ∧
          (∀ node ∈ tree.nodes, node < opened.size ∨ node ∈ nodesOf (listed trees)) ∧
            Plain (around (.array (trees.map ordered))) tree

/-- An action puts an object at the end of a list and answers with an empty list inside it. -/
def Opens (action : Build NodeId) (target : NodeId)
    (around : Json.Ordered → Json.Ordered) : Prop :=
  ∀ before held, before.container? target = some (.array held.toArray) →
    ∃ object, Opening before (action.run before).2 target (action.run before).1 object held around

/-- Trees were put behind the object, and then others into its list. -/
theorem Opening.completed {before opened middle after : Store} {target list object : NodeId}
    {held : List Value} {around : Json.Ordered → Json.Ordered} {trees others : List Unfolding}
    (opening : Opening before opened target list object held around) (isOld : target < before.size)
    (follows : Appended opened middle target (held ++ [Value.container object]) others)
    (fills : Appended middle after list [] trees) (areWhole : repeatsOf (listed trees) = []) :
    ∃ tree, Appended before after target held (tree :: others) ∧
      Plain (around (.array (trees.map ordered))) tree := by
  have isOpen : target < opened.size := lt_size_of_container? opening.found
  have list_lt : list < opened.size := lt_size_of_container? opening.isEmpty
  have differ : target ≠ list := Nat.ne_of_lt (Nat.lt_of_lt_of_le isOld opening.isNew)
  have laterExtends : Extends opened after [target, list] :=
    (follows.extended.mono (by simp)).trans (fills.extended.mono (by simp))
      fun node isTouched _ => isTouched
  obtain ⟨tree, value_eq, stands, areKnown, isPlain⟩ := opening.completes after trees laterExtends
    fills.found (fills.standApart.lower follows.extended.size_le) areWhole
  have othersApart : StandApart after opened.size (listed others) := by
    refine follows.standApart.later fills.extended fun node isList isIn => ?_
    rw [List.mem_singleton.mp isList] at isIn
    exact absurd (follows.standApart.fresh isIn) (Nat.not_le.mpr list_lt)
  refine ⟨tree, ⟨?_, ?_, ?_⟩, isPlain⟩
  · have isThere := Nat.lt_of_lt_of_le isOpen follows.extended.size_le
    rw [fills.extended.kept target isThere (by simpa using differ), follows.found, List.map_cons,
      value_eq, List.append_assoc]
    rfl
  · refine opening.extended.trans laterExtends fun node isTouched isOlder => ?_
    rcases List.mem_cons.mp isTouched with rfl | isList
    · exact List.mem_singleton_self _
    · rw [List.mem_singleton.mp isList] at isOlder
      exact absurd opening.isNew (Nat.not_le.mpr isOlder)
  · -- What is in the tree is older than all that follows it, or younger.
    have isLower : before.size ≤ opened.size := opening.extended.size_le
    refine .cons stands (othersApart.lower isLower) fun node isIn isOther => ?_
    rcases areKnown node isIn with isOlder | isInner
    · exact absurd (othersApart.fresh isOther) (Nat.not_le.mpr isOlder)
    · exact absurd (fills.standApart.fresh isInner)
        (Nat.not_le.mpr (follows.standApart.lt_size isOther))

/-- More is put behind an object before its list is filled. -/
theorem Opens.fill_after {action : Build NodeId} {target : NodeId}
    {around : Json.Ordered → Json.Ordered} (opens : Opens action target around)
    {between : Build Unit} {others : List Json.Ordered}
    (follows : Appends between target (others.map Plain)) {fill : NodeId → Build Unit}
    {written : List Json.Ordered}
    (fills : ∀ list, Appends (fill list) list (written.map Plain)) :
    Appends (do
      let list ← action
      between
      fill list) target ((around (.array written) :: others).map Plain) := by
  intro before held found
  obtain ⟨object, opening⟩ := opens before held found
  obtain ⟨otherTrees, othersAppended, othersPlain⟩ := follows _ _ opening.found
  have isOld : target < before.size := lt_size_of_container? found
  have differ := Nat.ne_of_gt (Nat.lt_of_lt_of_le isOld opening.isNew)
  -- What is put behind the object touches the list it stands in, and not the one inside it.
  have stillEmpty : (between.run (action.run before).2).2.container? (action.run before).1 =
      some (.array #[]) := by
    have list_lt := lt_size_of_container? opening.isEmpty
    rw [othersAppended.extended.kept _ list_lt (by simpa using differ), opening.isEmpty]
  obtain ⟨trees, appended, arePlain⟩ := fills _ _ [] stillEmpty
  obtain ⟨rfl, areWhole⟩ := forall₂_plain.mp arePlain
  obtain ⟨tree, isAppended, isPlain⟩ := opening.completed isOld othersAppended appended areWhole
  exact ⟨tree :: otherTrees, isAppended, .cons isPlain othersPlain⟩

theorem Opens.fill {action : Build NodeId} {target : NodeId}
    {around : Json.Ordered → Json.Ordered} (opens : Opens action target around)
    {fill : NodeId → Build Unit} {written : List Json.Ordered}
    (fills : ∀ list, Appends (fill list) list (written.map Plain)) :
    Appends (do fill (← action)) target ([around (.array written)].map Plain) := by
  have nothing : Appends (pure ()) target ([].map Plain) := .nil
  exact opens.fill_after nothing fills

/-- An object whose list stays empty. -/
theorem Opens.closed {action : Build NodeId} {target : NodeId}
    {around : Json.Ordered → Json.Ordered} (opens : Opens action target around) :
    Appends (do let _ ← action) target ([around (.array [])].map Plain) :=
  opens.fill fun _ => .nil

/-- Puts an object at the end of a list, with an empty list as its last member. -/
def openObject (target : NodeId) (key : String) (entries : List (String × Value)) :
    Build NodeId := do
  let list ← Build.newArray
  let object ← Build.object (entries ++ [(key, .container list)])
  Build.push target (.container object)
  return list

/-- What an object that has been opened looks like. -/
structure Opened (before after : Store) (target : NodeId) (held : List Value) (key : String)
    (entries : List (String × Value)) : Prop where
  isEmpty : after.container? before.size = some (.array #[])
  object : after.container? (before.size + 1) =
    some (.object (setMembers [] (entries ++ [(key, .container before.size)])).toArray)
  list : after.container? target =
    some (.array (held ++ [Value.container (before.size + 1)]).toArray)
  extended : Extends before after [target]
  size_eq : after.size = before.size + 2

theorem openObject_opened {store : Store} {target : NodeId} {held : List Value}
    (found : store.container? target = some (.array held.toArray)) (key : String)
    (entries : List (String × Value)) :
    ((openObject target key entries).run store).1 = store.size ∧
      Opened store ((openObject target key entries).run store).2 target held key entries := by
  have isOld : target < store.size := lt_size_of_container? found
  generalize made_eq : (store.add (.array #[])).2 = made
  have made_size : made.size = store.size + 1 := by rw [← made_eq, Store.size_add]
  generalize full_eq : (made.add (.object
    (setMembers [] (entries ++ [(key, .container store.size)])).toArray)).2 = full
  have full_size : full.size = store.size + 2 := by rw [← full_eq, Store.size_add, made_size]
  have runs : (openObject target key entries).run store =
      (store.size, full.update target (.pushItem (.container made.size))) := by
    rw [← full_eq, ← made_eq, ← Build.run_object]
    rfl
  have madeExtends : Extends store made [] := made_eq ▸ .add store _
  have fullExtends : Extends made full [] := full_eq ▸ .add made _
  have bothExtend : Extends store full [] := madeExtends.trans fullExtends (by simp)
  have isHeld : full.container? target = some (.array held.toArray) := by
    rw [bothExtend.kept target isOld List.not_mem_nil, found]
  have listDiffers : store.size ≠ target := Nat.ne_of_gt isOld
  have objectDiffers : store.size + 1 ≠ target := Nat.ne_of_gt (Nat.lt_succ_of_lt isOld)
  rw [runs]
  refine ⟨rfl, ?_, ?_, ?_, ?_, ?_⟩
  · have isListed : store.size < made.size := made_size ▸ Nat.lt_succ_self _
    rw [Store.container?_update_of_ne _ listDiffers, fullExtends.kept _ isListed List.not_mem_nil,
      ← made_eq, Store.container?_add_new]
  · rw [Store.container?_update_of_ne _ objectDiffers, ← full_eq, ← made_size,
      Store.container?_add_new]
  · rw [Store.container?_update_same _ isHeld, made_size, Container.pushItem, List.push_toArray]
  · exact (bothExtend.mono (by simp)).trans (.update full target _)
      fun node isTarget _ => isTarget
  · rw [Store.size_update, full_size]

/-- The members of an object whose last member is a list. -/
def withList (members : List (String × Unfolding)) (key : String) (list : NodeId)
    (trees : List Unfolding) : List (String × Unfolding) :=
  members ++ [(key, .full list .array (listed trees))]

section WithList

variable {members : List (String × Unfolding)} {trees : List Unfolding}

theorem entries_withList (key : String) (list : NodeId) :
    entries (withList members key list trees) = entries members ++ [(key, .container list)] :=
  List.map_append

theorem keyed_withList (key : String) (list : NodeId) :
    keyed (withList members key list trees) =
      keyed members ++ [(some key, .full list .array (listed trees))] :=
  List.map_append

theorem nodesOf_withList (key : String) (list : NodeId) :
    nodesOf (keyed (withList members key list trees)) =
      nodesOf (keyed members) ++ list :: nodesOf (listed trees) := by
  rw [keyed_withList, nodesOf_append, nodesOf_cons, nodes_full, nodesOf_nil, List.append_nil]

theorem Plain.withList (membersPlain : repeatsOf (keyed members) = [])
    (treesPlain : repeatsOf (listed trees) = []) (node list : NodeId) (key : String) :
    Plain (.object (documents members ++ [(key, .array (trees.map ordered))]))
      (.full node .object (keyed (withList members key list trees))) := by
  have documents_eq : documents (Graph.withList members key list trees) =
      documents members ++ [(key, .array (trees.map ordered))] := by
    rw [documents, Graph.withList, List.map_append, List.map_singleton, ← documents,
      Prod.map_apply, ordered_array]
    rfl
  rw [← documents_eq]
  refine .object ?_
  rw [keyed_withList, repeatsOf_append, membersPlain, repeatsOf_cons, repeats_full, treesPlain,
    repeatsOf_nil]
  rfl

/-- Members that are older than a list, and trees in it that are younger. -/
theorem StandApart.withList {store : Store} {low high list : NodeId}
    (membersApart : StandApart store low (keyed members))
    (areOlder : ∀ node ∈ nodesOf (keyed members), node < list) (isLower : low ≤ list)
    (treesApart : StandApart store high (listed trees)) (isHigher : list < high)
    (found : store.container? list = some (.array (trees.map value).toArray)) (key : String) :
    StandApart store low (keyed (withList members key list trees)) := by
  have listStands : Stands store list (.full list .array (listed trees)) := by
    refine (treesApart.lower (Nat.le_of_lt isHigher)).full found ?_ (Nat.le_refl _) fun isIn => ?_
    · rw [Container.parts, List.toList_toArray, values_listed]
    · exact absurd (treesApart.fresh isIn) (Nat.not_le.mpr isHigher)
  rw [keyed_withList]
  exact membersApart.append (.singleton listStands) isLower areOlder

end WithList

/-- The tree of an opened object is complete when its list has received something. -/
theorem Opened.opening {before middle opened : Store} {target : NodeId}
    {held : List Value} {key : String} {members : List (String × Unfolding)}
    (isOpened : Opened middle opened target held key (entries members))
    (isOld : target < before.size) (extended : Extends before middle [])
    (standApart : StandApart middle before.size (keyed members))
    (arePlain : repeatsOf (keyed members) = [])
    (distinct : (members.map (·.1) ++ [key]).Nodup) :
    Opening before opened target middle.size (middle.size + 1) held
      fun inner => .object (documents members ++ [(key, inner)]) where
  isEmpty := isOpened.isEmpty
  isNew := extended.size_le
  found := isOpened.list
  extended := (extended.mono (by simp)).trans isOpened.extended fun node isTarget _ => isTarget
  completes := by
    intro after trees laterExtends received treesApart areWhole
    have object_lt : middle.size + 1 < opened.size := isOpened.size_eq ▸ Nat.lt_succ_self _
    have list_lt : middle.size < opened.size := Nat.lt_of_succ_lt object_lt
    have target_lt : target < middle.size := Nat.lt_of_lt_of_le isOld extended.size_le
    have areOld : ∀ node ∈ nodesOf (keyed members), node < middle.size :=
      fun node isIn => standApart.lt_size isIn
    have membersApart : StandApart after before.size (keyed members) := by
      have openedApart := standApart.later_of_lt isOpened.extended (by simpa using isOld)
      refine openedApart.later laterExtends fun node isTouched isIn => ?_
      rcases List.mem_cons.mp isTouched with rfl | isList
      · exact absurd (standApart.fresh isIn) (Nat.not_le.mpr isOld)
      · rw [List.mem_singleton.mp isList] at isIn
        exact Nat.lt_irrefl _ (areOld _ isIn)
    have partsApart :=
      membersApart.withList areOld extended.size_le treesApart list_lt received key
    have objectFound : after.container? (middle.size + 1) =
        some (.object (entries (withList members key middle.size trees)).toArray) := by
      have isKept : middle.size + 1 ∉ [target, middle.size] := by
        simp [Nat.ne_of_gt (Nat.lt_succ_of_lt target_lt)]
      have areNew : ((([] : List (String × Value)) ++
          (entries members ++ [(key, Value.container middle.size)])).map (·.1)).Nodup := by
        rw [List.nil_append, List.map_append, entries, List.map_map]
        exact distinct
      rw [laterExtends.kept _ object_lt isKept, isOpened.object, setMembers_of_nodup areNew,
        List.nil_append, entries_withList]
    have notInside : middle.size + 1 ∉
        nodesOf (keyed (withList members key middle.size trees)) := by
      rw [nodesOf_withList, List.mem_append, List.mem_cons]
      rintro (isMember | isSame | isInner)
      · exact Nat.not_succ_lt_self (areOld _ isMember)
      · exact Nat.succ_ne_self _ isSame
      · exact absurd (treesApart.fresh isInner) (Nat.not_le.mpr object_lt)
    have objectStands := partsApart.full objectFound
      (by rw [Container.parts, List.toList_toArray, values_keyed])
      (Nat.le_succ_of_le extended.size_le) notInside
    -- A container of the whole tree was there when the object was opened, or came with what the list
    -- received.
    refine ⟨_, rfl, objectStands, fun node isIn => ?_, .withList arePlain areWhole _ _ key⟩
    rw [nodes_full, nodesOf_withList, List.mem_cons, List.mem_append, List.mem_cons] at isIn
    rcases isIn with rfl | isMember | rfl | isInner
    · exact .inl object_lt
    · exact .inl (Nat.lt_trans (areOld node isMember) list_lt)
    · exact .inl list_lt
    · exact .inr isInner

theorem BuildsMembers.opens {action : Build (List (String × Value))}
    {written : List (String × Json.Ordered)} (builds : BuildsMembers action written)
    (target : NodeId) {key : String} (distinct : (written.map (·.1) ++ [key]).Nodup) :
    Opens (do openObject target key (← action)) target
      fun inner => .object (written ++ [(key, inner)]) := by
  intro before held found
  have isOld : target < before.size := lt_size_of_container? found
  obtain ⟨members, entries_eq, extended, standApart, rfl, arePlain⟩ := builds before
  have isHeld : (action.run before).2.container? target = some (.array held.toArray) := by
    rw [extended.kept target isOld List.not_mem_nil, found]
  obtain ⟨answer_eq, isOpened⟩ := openObject_opened isHeld key (entries members)
  have runs : (do openObject target key (← action) : Build NodeId).run before =
      (openObject target key (entries members)).run (action.run before).2 := by
    rw [entries_eq]
    rfl
  rw [runs, answer_eq]
  refine ⟨_, isOpened.opening isOld extended standApart arePlain ?_⟩
  rw [documents, List.map_map] at distinct
  exact distinct

end RepoSurvey.Graph
