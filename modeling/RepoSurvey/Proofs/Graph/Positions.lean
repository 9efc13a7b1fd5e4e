import RepoSurvey.Proofs.Graph.Building

/-!
# Positions in trees

Where in a document a part of a tree stands: which keys and which places lead to it.
-/

namespace RepoSurvey.Graph

/-- A step into a container: to the member of a key, or to the element at a place. -/
inductive Step
  | member (key : String)
  | element (place : Nat)
  deriving DecidableEq, Repr

/-- Some steps lead from a tree to a part of it. -/
inductive At : Unfolding → List Step → Unfolding → Prop
  | here (tree : Unfolding) : At tree [] tree
  | member {node : NodeId} {kind : BracketKind} {parts : List (Option String × Unfolding)}
      {key : String} {part inner : Unfolding} {position : List Step}
      (isPart : (some key, part) ∈ parts) (rest : At part position inner) :
      At (.full node kind parts) (.member key :: position) inner
  | element {node : NodeId} {kind : BracketKind} {parts : List (Option String × Unfolding)}
      {place : Nat} {part inner : Unfolding} {position : List Step}
      (isPart : parts[place]? = some (none, part)) (rest : At part position inner) :
      At (.full node kind parts) (.element place :: position) inner

open Unfolding

namespace At

variable {tree inner : Unfolding} {position : List Step} {node : NodeId} {kind : BracketKind}
  {parts : List (Option String × Unfolding)}

/-- There is a step to each part. -/
theorem of_mem {key : Option String} {part : Unfolding} (isPart : (key, part) ∈ parts) :
    ∃ step, ∀ position inner, At part position inner →
      At (.full node kind parts) (step :: position) inner := by
  cases key with
  | some key => exact ⟨.member key, fun _ _ rest => .member isPart rest⟩
  | none =>
      obtain ⟨place, isAt⟩ := List.mem_iff_getElem?.mp isPart
      exact ⟨.element place, fun _ _ rest => .element isAt rest⟩

theorem mem_repeatsOf {key : Option String} {part : Unfolding} (isPart : (key, part) ∈ parts)
    (isIn : node ∈ part.repeats) : node ∈ repeatsOf parts := by
  induction parts with
  | nil => cases isPart
  | cons first rest ih =>
      obtain ⟨firstKey, firstPart⟩ := first
      rw [repeatsOf_cons, List.mem_append]
      rcases List.mem_cons.mp isPart with same | isLater
      · cases same
        exact .inl isIn
      · exact .inr (ih isLater)

/-- A container that stands as a leaf at some position is repeated. -/
theorem mem_repeats (isAt : At tree position inner) (isAgain : inner = .again node) :
    node ∈ tree.repeats := by
  induction isAt with
  | here => simp [isAgain]
  | member isPart _ ih =>
      rw [repeats_full]
      exact mem_repeatsOf isPart (ih isAgain)
  | element isPart _ ih =>
      rw [repeats_full]
      exact mem_repeatsOf (List.mem_of_getElem? isPart) (ih isAgain)

/-- The first step into an object leads to one of its members. -/
theorem object_cases {members : List (String × Unfolding)}
    (isAt : At (.full node .object (keyed members)) position inner)
    (isInside : inner ≠ .full node .object (keyed members)) :
    ∃ key part rest, (key, part) ∈ members ∧ position = .member key :: rest ∧
      At part rest inner := by
  cases isAt with
  | here => exact absurd rfl isInside
  | member isPart rest =>
      obtain ⟨member, isMember, same⟩ := List.mem_map.mp isPart
      cases same
      exact ⟨_, _, _, isMember, rfl, rest⟩
  | element isPart rest =>
      obtain ⟨member, _, same⟩ := List.mem_map.mp (List.mem_of_getElem? isPart)
      cases same

/-- If the keys of an object are different, a step to a key leads to its only member. -/
theorem of_member {members : List (String × Unfolding)}
    (areDifferent : (members.map (·.1)).Nodup) {key : String} {part : Unfolding}
    (isMember : (key, part) ∈ members)
    (isAt : At (.full node .object (keyed members)) (.member key :: position) inner) :
    At part position inner := by
  cases isAt with
  | member isPart rest =>
      obtain ⟨⟨otherKey, other⟩, isOther, same⟩ := List.mem_map.mp isPart
      cases same
      have isSame := List.inj_on_of_nodup_map areDifferent isOther isMember rfl
      rw [← (Prod.mk.inj isSame).2]
      exact rest

/-- The first step into an array leads to one of its elements. -/
theorem array_cases {trees : List Unfolding}
    (isAt : At (.full node .array (listed trees)) position inner)
    (isInside : inner ≠ .full node .array (listed trees)) :
    ∃ place part rest, trees[place]? = some part ∧ position = .element place :: rest ∧
      At part rest inner := by
  cases isAt with
  | here => exact absurd rfl isInside
  | member isPart rest =>
      obtain ⟨tree, _, same⟩ := List.mem_map.mp isPart
      cases same
  | element isPart rest =>
      rw [listed, List.getElem?_map] at isPart
      obtain ⟨tree, isElement, same⟩ := Option.map_eq_some_iff.mp isPart
      cases same
      exact ⟨_, _, _, isElement, rfl, rest⟩

theorem again_ne_full {other : NodeId} : (again other : Unfolding) ≠ .full node kind parts :=
  Unfolding.noConfusion

end At

end RepoSurvey.Graph
