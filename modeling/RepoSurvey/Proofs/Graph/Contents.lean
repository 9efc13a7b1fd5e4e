import RepoSurvey.Proofs.Graph.Filling

/-!
# What stands in a store

A tree that fits a store and has a known document tells what the store holds, container by container, as
long as it repeats no container.
-/

namespace RepoSurvey.Graph

open Unfolding

/-- A tree of a store that has a document and repeats no container. -/
structure Present (store : Store) (document : Json.Ordered) (tree : Unfolding) : Prop where
  fits : tree.Fits store
  isPlain : Plain document tree

/-- The members of an object, one by one. -/
def MembersPresent (store : Store) (written : List (String × Json.Ordered))
    (members : List (String × Unfolding)) : Prop :=
  List.Forall₂ (fun entry member => member.1 = entry.1 ∧ Present store entry.2 member.2) written
    members

namespace Unfolding

variable {store : Store} {node : NodeId} {parts : List (Option String × Unfolding)}

/-- All parts of an object have keys. -/
theorem keyed_of_fits (fits : (full node .object parts).Fits store) :
    ∃ members, parts = keyed members ∧
      store.container? node = some (.object (entries members).toArray) := by
  obtain ⟨container, found, isObject, parts_eq, _⟩ := fits
  have keysSuit := keysSuit_of_values parts_eq
  rw [isObject] at keysSuit
  have keyed_eq : parts = keyed (parts.map fun part => (part.1.getD "", part.2)) := by
    rw [keyed, List.map_map]
    refine (List.map_id parts).symm.trans (List.map_congr_left fun part isPart => ?_)
    obtain ⟨key, isKey⟩ := Option.isSome_iff_exists.mp ((keysSuit part isPart).mpr rfl)
    exact Prod.ext (by simp [isKey]) rfl
  rw [keyed_eq] at parts_eq
  exact ⟨_, keyed_eq, by rw [found, eq_object_of_parts isObject parts_eq]⟩

/-- No part of an array has a key. -/
theorem listed_of_fits (fits : (full node .array parts).Fits store) :
    ∃ trees, parts = listed trees ∧
      store.container? node = some (.array (trees.map value).toArray) := by
  obtain ⟨container, found, isArray, parts_eq, _⟩ := fits
  have keysSuit := keysSuit_of_values parts_eq
  rw [isArray] at keysSuit
  have listed_eq : parts = listed (parts.map Prod.snd) := by
    rw [listed, List.map_map]
    refine (List.map_id parts).symm.trans (List.map_congr_left fun part isPart => ?_)
    have noKey := mt (keysSuit part isPart).mp BracketKind.noConfusion
    exact Prod.ext (Option.not_isSome_iff_eq_none.mp noKey) rfl
  rw [listed_eq] at parts_eq
  exact ⟨_, listed_eq, by rw [found, eq_array_of_parts isArray parts_eq]⟩

theorem PartsFit.keyed_cons {key : String} {tree : Unfolding} {members : List (String × Unfolding)}
    (fit : PartsFit store (keyed ((key, tree) :: members))) :
    tree.Fits store ∧ PartsFit store (keyed members) :=
  fit

theorem PartsFit.listed_cons {tree : Unfolding} {trees : List Unfolding}
    (fit : PartsFit store (listed (tree :: trees))) :
    tree.Fits store ∧ PartsFit store (listed trees) :=
  fit

/-- The containers of one part stand among those of all parts, in the same order. -/
theorem nodes_sublist {key : Option String} {tree : Unfolding} (isPart : (key, tree) ∈ parts) :
    tree.nodes.Sublist (nodesOf parts) := by
  induction parts with
  | nil => cases isPart
  | cons part rest ih =>
      obtain ⟨partKey, part⟩ := part
      rw [nodesOf_cons]
      rcases List.mem_cons.mp isPart with same | isLater
      · cases same
        exact List.sublist_append_left _ _
      · exact (ih isLater).trans (List.sublist_append_right _ _)

end Unfolding

variable {store : Store} {tree : Unfolding}

theorem Plain.of_string {text : String} (isPlain : Plain (.string text) tree) :
    tree = .scalar (.string text) := by
  obtain ⟨ordered_eq, repeats_eq⟩ := isPlain
  cases tree with
  | scalar value =>
      rw [ordered] at ordered_eq
      cases value <;> cases ordered_eq
      rfl
  | again node => simp at repeats_eq
  | full node kind parts => cases kind <;> rw [ordered] at ordered_eq <;> cases ordered_eq

theorem Plain.of_number {number : Json.Number} (isPlain : Plain (.number number) tree) :
    tree = .scalar (.number number) := by
  have ordered_eq := isPlain.ordered_eq
  cases tree with
  | scalar value =>
      rw [ordered] at ordered_eq
      cases value <;> cases ordered_eq
      rfl
  | again node => rw [ordered] at ordered_eq; cases ordered_eq
  | full node kind parts => cases kind <;> rw [ordered] at ordered_eq <;> cases ordered_eq

namespace Present

theorem members {written : List (String × Json.Ordered)} {members : List (String × Unfolding)}
    (fit : PartsFit store (keyed members)) (documents_eq : documents members = written)
    (arePlain : repeatsOf (keyed members) = []) : MembersPresent store written members := by
  subst documents_eq
  induction members with
  | nil => exact .nil
  | cons member rest ih =>
      obtain ⟨key, tree⟩ := member
      obtain ⟨fits, fit⟩ := fit.keyed_cons
      obtain ⟨isPlain, arePlain⟩ := List.append_eq_nil_iff.mp
        ((repeatsOf_cons (some key) tree (keyed rest)).symm.trans arePlain)
      exact .cons ⟨rfl, fits, rfl, isPlain⟩ (ih fit arePlain)

theorem items {written : List Json.Ordered} {trees : List Unfolding}
    (fit : PartsFit store (listed trees)) (ordered_eq : trees.map ordered = written)
    (arePlain : repeatsOf (listed trees) = []) : List.Forall₂ (Present store) written trees := by
  subst ordered_eq
  induction trees with
  | nil => exact .nil
  | cons tree rest ih =>
      obtain ⟨fits, fit⟩ := fit.listed_cons
      obtain ⟨isPlain, arePlain⟩ := List.append_eq_nil_iff.mp
        ((repeatsOf_cons none tree (listed rest)).symm.trans arePlain)
      exact .cons ⟨fits, rfl, isPlain⟩ (ih fit arePlain)

theorem of_object {written : List (String × Json.Ordered)}
    (present : Present store (.object written) tree) :
    ∃ node members, tree = .full node .object (keyed members) ∧
      store.container? node = some (.object (entries members).toArray) ∧
        MembersPresent store written members := by
  obtain ⟨fits, ordered_eq, repeats_eq⟩ := present
  cases tree with
  | scalar value => rw [ordered] at ordered_eq; cases value <;> cases ordered_eq
  | again node => rw [ordered] at ordered_eq; cases ordered_eq
  | full node kind parts =>
      cases kind with
      | array => rw [ordered] at ordered_eq; cases ordered_eq
      | object =>
          obtain ⟨members, rfl, found⟩ := keyed_of_fits fits
          obtain ⟨container, _, _, _, fit⟩ := fits
          rw [ordered_object] at ordered_eq
          rw [repeats_full] at repeats_eq
          exact ⟨node, members, rfl, found,
            Present.members fit (Json.Ordered.object.inj ordered_eq) repeats_eq⟩

theorem of_array {written : List Json.Ordered} (present : Present store (.array written) tree) :
    ∃ node trees, tree = .full node .array (listed trees) ∧
      store.container? node = some (.array (trees.map value).toArray) ∧
        List.Forall₂ (Present store) written trees := by
  obtain ⟨fits, ordered_eq, repeats_eq⟩ := present
  cases tree with
  | scalar value => rw [ordered] at ordered_eq; cases value <;> cases ordered_eq
  | again node => rw [ordered] at ordered_eq; cases ordered_eq
  | full node kind parts =>
      cases kind with
      | object => rw [ordered] at ordered_eq; cases ordered_eq
      | array =>
          obtain ⟨trees, rfl, found⟩ := listed_of_fits fits
          obtain ⟨container, _, _, _, fit⟩ := fits
          rw [ordered_array] at ordered_eq
          rw [repeats_full] at repeats_eq
          exact ⟨node, trees, rfl, found,
            Present.items fit (Json.Ordered.array.inj ordered_eq) repeats_eq⟩

end Present

namespace MembersPresent

variable {written others : List (String × Json.Ordered)} {members : List (String × Unfolding)}

theorem documents_eq (present : MembersPresent store written members) :
    documents members = written := by
  induction present with
  | nil => rfl
  | cons isMember _ ih =>
      exact congrArg₂ List.cons (Prod.ext isMember.1 isMember.2.isPlain.ordered_eq) ih

theorem nil_cases (present : MembersPresent store [] members) : members = [] := by
  cases present
  rfl

theorem cons_cases {key : String} {document : Json.Ordered}
    (present : MembersPresent store ((key, document) :: written) members) :
    ∃ tree rest, members = (key, tree) :: rest ∧ Present store document tree ∧
      MembersPresent store written rest := by
  cases present with
  | @cons _ member _ rest isMember present =>
      obtain ⟨name, tree⟩ := member
      obtain ⟨rfl, isPresent⟩ := isMember
      exact ⟨tree, rest, rfl, isPresent, present⟩

/-- What the members of a longer document show of its first part and of the rest. -/
theorem append_cases (present : MembersPresent store (written ++ others) members) :
    ∃ first rest, members = first ++ rest ∧ MembersPresent store written first ∧
      MembersPresent store others rest := by
  induction written generalizing members with
  | nil => exact ⟨[], members, rfl, .nil, present⟩
  | cons entry written ih =>
      cases present with
      | cons isMember present =>
          obtain ⟨first, rest, rfl, isFirst, isRest⟩ := ih present
          exact ⟨_ :: first, rest, rfl, .cons isMember isFirst, isRest⟩

/-- Members that are texts. -/
theorem of_texts {texts : List (String × String)}
    (present : MembersPresent store (texts.map (Prod.map id .string)) members) :
    members = scalars (texts.map (Prod.map id .string)) := by
  induction texts generalizing members with
  | nil =>
      cases present
      rfl
  | cons text rest ih =>
      cases present with
      | cons isMember present =>
          exact congrArg₂ List.cons (Prod.ext isMember.1 isMember.2.isPlain.of_string) (ih present)

end MembersPresent

end RepoSurvey.Graph
