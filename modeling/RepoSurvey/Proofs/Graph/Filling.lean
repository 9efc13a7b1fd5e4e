import RepoSurvey.Proofs.Graph.Building

/-!
# Containers that are being filled

A builder makes a container and fills it with what it builds next.  At any time the parts that are in it
stand apart, and the container itself is none of them.
-/

namespace RepoSurvey.Graph

open Unfolding

/-- A container, not before a place in the store, that has these parts so far. -/
structure Filling (store : Store) (low : Nat) (node : NodeId) (kind : BracketKind)
    (parts : List (Option String × Unfolding)) : Prop where
  isNew : low ≤ node
  found : ∃ container, store.container? node = some container ∧ container.bracketKind = kind ∧
    container.parts = values parts
  standApart : StandApart store low parts
  notInside : node ∉ nodesOf parts

theorem StandApart.later {before after : Store} {low : Nat}
    {parts : List (Option String × Unfolding)} {touched : List NodeId}
    (standApart : StandApart before low parts) (extended : Extends before after touched)
    (untouched : ∀ node ∈ touched, node ∉ nodesOf parts) : StandApart after low parts := by
  refine ⟨fun part isPart => ?_, standApart.apart⟩
  refine (standApart.stand part isPart).later extended fun node isTouched isIn => ?_
  exact untouched node isTouched (mem_nodesOf.mpr ⟨part, isPart, isIn⟩)

/-- The entries of an object with keyed parts. -/
theorem eq_object_of_parts {container : Container} {members : List (String × Unfolding)}
    (isObject : container.bracketKind = .object)
    (parts_eq : container.parts = values (keyed members)) :
    container = .object (entries members).toArray := by
  cases container with
  | array items => cases isObject
  | object found =>
      rw [Container.parts, values_keyed] at parts_eq
      have sameEntries := List.map_injective_iff.mpr
        (fun (first second : String × Value) same => by
          obtain ⟨sameKey, sameValue⟩ := Prod.mk.inj same
          exact Prod.ext (Option.some.inj sameKey) sameValue) parts_eq
      rw [← sameEntries, Array.toArray_toList]

/-- The items of an array with listed parts. -/
theorem eq_array_of_parts {container : Container} {trees : List Unfolding}
    (isArray : container.bracketKind = .array)
    (parts_eq : container.parts = values (listed trees)) :
    container = .array (trees.map value).toArray := by
  cases container with
  | object found => cases isArray
  | array items =>
      rw [Container.parts, values_listed] at parts_eq
      have sameItems := List.map_injective_iff.mpr
        (fun (first second : Value) same => (Prod.mk.inj same).2) parts_eq
      rw [← sameItems, Array.toArray_toList]

namespace Filling

variable {store middle : Store} {low : Nat} {node : NodeId} {kind : BracketKind}
  {parts others : List (Option String × Unfolding)}

/-- A new container whose parts stand already. -/
theorem add {container : Container} (isLower : low ≤ store.size)
    (standApart : StandApart store low parts) (parts_eq : container.parts = values parts) :
    Filling (store.add container).2 low store.size container.bracketKind parts where
  isNew := isLower
  found := ⟨container, Store.container?_add_new, rfl, parts_eq⟩
  standApart := standApart.later_of_lt (.add store container) (by simp)
  notInside isIn := Nat.lt_irrefl _ (standApart.lt_size isIn)

theorem lt_size (filling : Filling store low node kind parts) : node < store.size := by
  obtain ⟨container, found, _⟩ := filling.found
  exact lt_size_of_container? found

/-- A container stays what it is while older containers are filled. -/
theorem later {touched : List NodeId} (filling : Filling store low node kind parts)
    (extended : Extends store middle touched) (areOlder : ∀ other ∈ touched, other < low) :
    Filling middle low node kind parts := by
  obtain ⟨container, found, kind_eq, parts_eq⟩ := filling.found
  have untouched : node ∉ touched := fun isTouched =>
    absurd filling.isNew (Nat.not_le.mpr (areOlder node isTouched))
  refine ⟨filling.isNew, ⟨container, ?_, kind_eq, parts_eq⟩,
    filling.standApart.later_of_lt extended areOlder, filling.notInside⟩
  rw [extended.kept node filling.lt_size untouched, found]

/-- The container is changed after something else was built. -/
theorem change (filling : Filling store low node kind parts) (extended : Extends store middle [])
    (key : Option String) {tree : Unfolding} (stands : Stands middle store.size tree)
    (change : Container → Container) (isSubperm : others.Subperm (parts ++ [(key, tree)]))
    (changes : ∀ container : Container, container.bracketKind = kind →
      container.parts = values parts →
        (change container).bracketKind = kind ∧ (change container).parts = values others) :
    Filling (middle.update node change) low node kind others := by
  obtain ⟨container, found, kind_eq, parts_eq⟩ := filling.found
  obtain ⟨changedKind, changedParts⟩ := changes container kind_eq parts_eq
  have isOld := filling.lt_size
  have stillFound : middle.container? node = some container := by
    rw [extended.kept node isOld List.not_mem_nil, found]
  have notInTree : node ∉ tree.nodes := fun isIn =>
    Nat.lt_irrefl _ (Nat.lt_of_lt_of_le isOld (stands.fresh node isIn))
  have partsApart := (filling.standApart.later extended (by simp)).later
    (.update middle node change) fun other isTouched => by
      rw [List.mem_singleton.mp isTouched]
      exact filling.notInside
  have treeStands := stands.later (.update middle node change) fun other isTouched => by
    rw [List.mem_singleton.mp isTouched]
    exact notInTree
  have treeApart : StandApart (middle.update node change) store.size [(key, tree)] :=
    .singleton treeStands
  have allApart := partsApart.append treeApart (Nat.le_trans filling.isNew (Nat.le_of_lt isOld))
    fun other isIn => filling.standApart.lt_size isIn
  refine ⟨filling.isNew, ?_, allApart.subperm isSubperm, fun isIn => ?_⟩
  · exact ⟨change container, Store.container?_update_same change stillFound, changedKind,
      changedParts⟩
  · obtain ⟨part, isPart, isIn⟩ := StandApart.mem_nodesOf.mp isIn
    rcases List.mem_append.mp (isSubperm.subset isPart) with isOldPart | isTree
    · exact filling.notInside (StandApart.mem_nodesOf.mpr ⟨part, isOldPart, isIn⟩)
    · rw [List.mem_singleton.mp isTree] at isIn
      exact notInTree isIn

/-- What has been filled is a tree. -/
theorem stands (filling : Filling store low node kind parts) :
    Stands store low (.full node kind parts) := by
  obtain ⟨container, found, rfl, parts_eq⟩ := filling.found
  exact filling.standApart.full found parts_eq filling.isNew filling.notInside

/-! ## Objects -/

section Object

variable {members : List (String × Unfolding)}

theorem insert (filling : Filling store low node .object (keyed members))
    (extended : Extends store middle []) {tree : Unfolding}
    (stands : Stands middle store.size tree) (key : String) :
    Filling ((Build.insert node key tree.value).run middle).2 low node .object
      (keyed (setMember key tree members)) := by
  refine filling.change extended (some key) stands _ ?_ ?_
  · obtain ⟨between, isPerm, isSublist⟩ := setMember_subperm key tree members
    refine List.Subperm.trans ⟨between.map _, isPerm.map _, isSublist.map _⟩ ?_
    exact (List.perm_append_singleton _ _).symm.subperm
  · intro container isObject parts_eq
    rw [eq_object_of_parts isObject parts_eq, Container.setEntry_object]
    refine ⟨rfl, ?_⟩
    rw [Container.parts, List.toList_toArray, values_keyed, entries, entries, map_setMember]

theorem insert_scalar (filling : Filling store low node .object (keyed members)) (key : String)
    {value : Value} (isScalar : ∀ node, value ≠ .container node) :
    Filling ((Build.insert node key value).run store).2 low node .object
      (keyed (setMember key (.scalar value) members)) :=
  filling.insert (.refl store []) (.scalar isScalar) key

end Object

end Filling

/-! ## Plain objects -/

/-- A tree with a document, in which no container is repeated. -/
structure Plain (document : Json.Ordered) (tree : Unfolding) : Prop where
  ordered_eq : tree.ordered = document
  repeats_eq : tree.repeats = []

theorem Plain.scalar (value : Value) : Plain value.scalarOrdered (.scalar value) where
  ordered_eq := by rw [Unfolding.ordered]
  repeats_eq := by simp

theorem Plain.object {node : NodeId} {members : List (String × Unfolding)}
    (arePlain : repeatsOf (keyed members) = []) :
    Plain (.object (documents members)) (.full node .object (keyed members)) :=
  ⟨ordered_object node members, by rw [repeats_full, arePlain]⟩

theorem Plain.array {node : NodeId} {trees : List Unfolding}
    (arePlain : repeatsOf (listed trees) = []) :
    Plain (.array (trees.map ordered)) (.full node .array (listed trees)) :=
  ⟨ordered_array node trees, by rw [repeats_full, arePlain]⟩

/-- An object that is being filled with members that have these documents. -/
def FillingPlain (before store : Store) (node : NodeId)
    (written : List (String × Json.Ordered)) : Prop :=
  ∃ members, Extends before store [] ∧ Filling store before.size node .object (keyed members) ∧
    documents members = written ∧ repeatsOf (keyed members) = []

namespace FillingPlain

variable {before store : Store} {node : NodeId} {written : List (String × Json.Ordered)}

/-- A new object with members that stand already. -/
theorem build_object {members : List (String × Unfolding)} (extended : Extends before store [])
    (standApart : StandApart store before.size (keyed members))
    (arePlain : repeatsOf (keyed members) = []) :
    FillingPlain before ((Build.object (entries members)).run store).2 store.size
      (setMembers [] (documents members)) := by
  have isSubperm : (keyed (setMembers [] members)).Subperm (keyed members) :=
    keyed_setMembers_subperm [] members
  refine ⟨setMembers [] members, ?_, ?_, documents_setMembers [] members, ?_⟩
  · rw [Build.run_object]
    exact extended.trans (.add store _) (by simp)
  · rw [Build.run_object]
    refine .add extended.size_le (standApart.subperm isSubperm) ?_
    rw [Container.parts, List.toList_toArray, values_keyed, entries_setMembers]
    rfl
  · rw [repeatsOf_eq_nil_iff] at arePlain ⊢
    exact fun part isPart => arePlain part (isSubperm.subset isPart)

/-- A new object with entries that are no containers. -/
theorem build_scalars {entries : List (String × Value)}
    (areScalar : ∀ entry ∈ entries, ∀ node, entry.2 ≠ .container node)
    (extended : Extends before store []) :
    FillingPlain before ((Build.object entries).run store).2 store.size
      (setMembers [] (entries.map (Prod.map id Value.scalarOrdered))) := by
  have built := build_object extended (.scalars areScalar) (repeatsOf_scalars entries)
  rwa [entries_scalars, documents_scalars] at built

theorem insert {middle : Store} (filling : FillingPlain before store node written)
    (extended : Extends store middle []) {tree : Unfolding}
    (stands : Stands middle store.size tree) (key : String) {document : Json.Ordered}
    (isPlain : Plain document tree) :
    FillingPlain before ((Build.insert node key tree.value).run middle).2 node
      (setMember key document written) := by
  obtain ⟨members, madeExtends, filling, rfl, arePlain⟩ := filling
  refine ⟨setMember key tree members, ?_, filling.insert extended stands key, ?_, ?_⟩
  · exact (madeExtends.trans extended (by simp)).update_new filling.isNew _
  · rw [documents, map_setMember, isPlain.ordered_eq]
    rfl
  · rw [repeatsOf_eq_nil_iff] at arePlain ⊢
    intro part isPart
    obtain ⟨member, isMember, rfl⟩ := List.mem_map.mp isPart
    rcases List.mem_cons.mp ((setMember_subperm key tree members).subset isMember) with rfl | isOld
    · exact isPlain.repeats_eq
    · exact arePlain _ (List.mem_map_of_mem isOld)

/-- What is built next becomes a member. -/
theorem insert_built (filling : FillingPlain before store node written) (key : String)
    {action : Build Value} {document : Json.Ordered} (builds : Builds action (Plain document)) :
    FillingPlain before ((do Build.insert node key (← action) : Build Unit).run store).2 node
      (setMember key document written) := by
  obtain ⟨tree, value_eq, extended, stands, isPlain⟩ := builds store
  have inserted := filling.insert extended stands key isPlain
  rw [value_eq] at inserted
  exact inserted

theorem stands (filling : FillingPlain before store node written) :
    ∃ tree, tree.value = .container node ∧ Extends before store [] ∧
      Stands store before.size tree ∧ Plain (.object written) tree := by
  obtain ⟨members, extended, filling, rfl, arePlain⟩ := filling
  exact ⟨_, rfl, extended, filling.stands, .object arePlain⟩

end FillingPlain

/-! ## Members that are built before their object -/

/-- Whatever was built before, an action builds the values of members with these documents. -/
def BuildsMembers (action : Build (List (String × Value)))
    (written : List (String × Json.Ordered)) : Prop :=
  ∀ before, ∃ members, entries members = (action.run before).1 ∧
    Extends before (action.run before).2 [] ∧
      StandApart (action.run before).2 before.size (keyed members) ∧
        documents members = written ∧ repeatsOf (keyed members) = []

namespace BuildsMembers

variable {action : Build (List (String × Value))} {written : List (String × Json.Ordered)}

theorem nil : BuildsMembers (pure []) [] := fun before =>
  ⟨[], rfl, .refl before [], .nil, rfl, repeatsOf_nil⟩

theorem scalars {entries : List (String × Value)}
    (areScalar : ∀ entry ∈ entries, ∀ node, entry.2 ≠ .container node) :
    BuildsMembers (pure entries) (entries.map (Prod.map id Value.scalarOrdered)) := by
  intro before
  exact ⟨Unfolding.scalars entries, entries_scalars entries, .refl before [],
    .scalars areScalar, documents_scalars entries, repeatsOf_scalars entries⟩

theorem strings (texts : List (String × String)) :
    BuildsMembers (pure (texts.map (Prod.map id .string))) (texts.map (Prod.map id .string)) := by
  have built := scalars (areScalar_strings texts)
  rw [List.map_map] at built
  exact built

theorem cons_scalar (builds : BuildsMembers action written) (key : String) {value : Value}
    (isScalar : ∀ node, value ≠ .container node) :
    BuildsMembers (do return (key, value) :: (← action))
      ((key, value.scalarOrdered) :: written) := by
  intro before
  obtain ⟨members, entries_eq, extended, standApart, documents_eq, arePlain⟩ := builds before
  refine ⟨(key, .scalar value) :: members, congrArg ((key, value) :: ·) entries_eq, extended,
    standApart.cons_scalar (some key) isScalar, ?_, ?_⟩
  · have head_eq : (Unfolding.scalar value).ordered = value.scalarOrdered := by rw [ordered]
    exact congrArg₂ (fun document others => (key, document) :: others) head_eq documents_eq
  · rw [repeatsOf_eq_nil_iff] at arePlain ⊢
    exact List.forall_mem_cons.mpr ⟨repeats_scalar value, arePlain⟩

/-- One member is built, and then the others. -/
theorem cons_built {first : Build Value} {document : Json.Ordered}
    (buildsFirst : Builds first (Plain document)) (builds : BuildsMembers action written)
    (key : String) :
    BuildsMembers (do
      let value ← first
      return (key, value) :: (← action)) ((key, document) :: written) := by
  intro before
  obtain ⟨tree, value_eq, extended, stands, isPlain⟩ := buildsFirst before
  obtain ⟨members, entries_eq, othersExtended, standApart, documents_eq, arePlain⟩ :=
    builds (first.run before).2
  have treeStands := stands.later_of_lt othersExtended (by simp)
  have treeApart : StandApart _ before.size [(some key, tree)] := .singleton treeStands
  refine ⟨(key, tree) :: members, ?_, extended.trans othersExtended (by simp), ?_, ?_, ?_⟩
  · exact congrArg₂ (fun value others => (key, value) :: others) value_eq entries_eq
  · exact treeApart.append standApart extended.size_le fun node isIn => by
      obtain ⟨part, isPart, isIn⟩ := StandApart.mem_nodesOf.mp isIn
      rw [List.mem_singleton.mp isPart] at isIn
      exact stands.lt_size isIn
  · exact congrArg₂ (fun document others => (key, document) :: others) isPlain.ordered_eq
      documents_eq
  · rw [repeatsOf_eq_nil_iff] at arePlain ⊢
    exact List.forall_mem_cons.mpr ⟨isPlain.repeats_eq, arePlain⟩

theorem fillingPlain (builds : BuildsMembers action written) (before : Store) :
    FillingPlain before ((do Build.object (← action) : Build NodeId).run before).2
      ((do Build.object (← action) : Build NodeId).run before).1 (setMembers [] written) := by
  obtain ⟨members, entries_eq, extended, standApart, documents_eq, arePlain⟩ := builds before
  have built := FillingPlain.build_object extended standApart arePlain
  rw [entries_eq, documents_eq] at built
  exact built

/-- An object with members that are built first. -/
theorem object (builds : BuildsMembers action written) :
    Builds (do return .container (← Build.object (← action)))
      (Plain (.object (setMembers [] written))) :=
  fun before => (builds.fillingPlain before).stands

end BuildsMembers

/-- What is built becomes the second member of the root of a document. -/
theorem Builds.inRoot {action : Build Value} {document : Json.Ordered}
    (builds : Builds action (Plain document)) (key : String) :
    Builds (do
      let value ← action
      let root ← Build.object [("type", .string "root"), (key, value)]
      return .container root)
      (Plain (.object (setMembers [] [("type", .string "root"), (key, document)]))) :=
  ((BuildsMembers.nil.cons_built builds key).cons_scalar "type"
    (Value.string_ne_container "root")).object

/-- Two values are built, and then an object with both. -/
theorem Builds.pair {first second : Build Value} {accepts acceptsOther : Unfolding → Prop}
    (buildsFirst : Builds first accepts) (buildsSecond : Builds second acceptsOther)
    {key otherKey : String} (differ : key ≠ otherKey) :
    Builds (do
      let value ← first
      let other ← second
      return .container (← Build.object [(key, value), (otherKey, other)]))
      fun tree => ∃ node part otherPart,
        tree = .full node .object (keyed [(key, part), (otherKey, otherPart)]) ∧ accepts part ∧
          acceptsOther otherPart := by
  intro before
  obtain ⟨part, value_eq, extended, stands, isAccepted⟩ := buildsFirst before
  obtain ⟨otherPart, otherValue_eq, otherExtended, otherStands, isOtherAccepted⟩ :=
    buildsSecond (first.run before).2
  have laterStands := stands.later_of_lt otherExtended (by simp)
  have firstApart : StandApart _ before.size (keyed [(key, part)]) := .singleton laterStands
  have secondApart : StandApart _ (first.run before).2.size (keyed [(otherKey, otherPart)]) :=
    .singleton otherStands
  have bothApart := firstApart.append secondApart extended.size_le fun node isIn => by
    obtain ⟨member, isMember, isIn⟩ := StandApart.mem_nodesOf.mp isIn
    rw [List.mem_singleton.mp isMember] at isIn
    exact stands.lt_size isIn
  have bothExtended := extended.trans otherExtended (by simp)
  -- The object comes behind both parts, so it is in neither of them.
  generalize middle_eq : (second.run (first.run before).2).2 = middle at bothExtended bothApart
  let container : Container := .object (entries [(key, part), (otherKey, otherPart)]).toArray
  have filling : Filling (middle.add container).2 before.size middle.size .object
      (keyed [(key, part)] ++ keyed [(otherKey, otherPart)]) :=
    .add bothExtended.size_le bothApart rfl
  have areNew : (([] : List (String × Value)) ++ entries [(key, part), (otherKey, otherPart)]).map
      (·.1) |>.Nodup := by
    change [key, otherKey].Nodup
    simpa using differ
  have runs : (do
      let value ← first
      let other ← second
      return .container (← Build.object [(key, value), (otherKey, other)]) : Build Value).run
        before = (.container middle.size, (middle.add container).2) := by
    rw [StateT.run_bind, ← middle_eq]
    change (do
      return .container (← Build.object [(key, (first.run before).1),
        (otherKey, (second.run (first.run before).2).1)]) : Build Value).run _ = _
    have set_eq : setMembers [] [(key, part.value), (otherKey, otherPart.value)] =
        entries [(key, part), (otherKey, otherPart)] := setMembers_of_nodup areNew
    rw [← value_eq, ← otherValue_eq, StateT.run_bind, Build.run_object, set_eq]
    rfl
  rw [runs]
  exact ⟨_, rfl, bothExtended.trans (.add _ _) (by simp), filling.stands, _, part, otherPart, rfl,
    isAccepted, isOtherAccepted⟩

end RepoSurvey.Graph
