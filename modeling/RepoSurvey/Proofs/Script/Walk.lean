import RepoSurvey.Proofs.Script.Scopes

/-!
# Walks over scripts

A walk over a syntax tree keeps a cursor, the parents above it and the current object in step.  What it has
still to do can be told as open scopes: one for each parent, with the siblings that follow there.
-/

namespace RepoSurvey.Script

open RepoSurvey.Graph

variable {source : String} {comments : NodeId}

/-- What is left inside the parents above some trees: the trees themselves in the innermost parent, and in
each of the others what follows there. -/
def openScopes : List SyntaxNode → List (SyntaxNode × List SyntaxNode) → List Parent → List Scope
  | rest, (_, following) :: around, parent :: outer =>
      ⟨parent.object, parent.children, rest⟩ :: openScopes following around outer
  | _, _, _ => []

/-- Every node around a cursor has a parent. -/
def InStep (cursor : SyntaxCursor) (parents : List Parent) : Prop :=
  parents.length = cursor.around.length

/-- What is left when the node of a cursor has been visited. -/
def convertRest (source : String) (comments : NodeId) (cursor : SyntaxCursor) (parents : List Parent)
    (current : NodeId) : Build Unit := do
  let following := openScopes cursor.following cursor.around parents
  if cursor.node.isNamed && hasNamedChild cursor.node then
    let children ← openNode current
    convertScopes source comments (⟨current, children, cursor.node.children⟩ :: following)
  else convertScopes source comments following

/-! ## Moves of the cursor -/

theorem descend?_cases (cursor : SyntaxCursor) :
    (∃ first rest, cursor.node.children = first :: rest ∧
        (cursor.node.isNamed && hasNamedChild cursor.node) = true ∧
          descend? cursor = some ⟨first, rest, (cursor.node, cursor.following) :: cursor.around⟩) ∨
      (cursor.node.isNamed && hasNamedChild cursor.node) = false ∧ descend? cursor = none := by
  unfold descend?
  cases isOpen : cursor.node.isNamed && hasNamedChild cursor.node with
  | false => exact .inr ⟨rfl, rfl⟩
  | true =>
      have showsChildren := (Bool.and_eq_true_iff.mp isOpen).2
      unfold SyntaxCursor.firstChild?
      cases children_eq : cursor.node.children with
      | nil =>
          obtain ⟨child, isChild, _⟩ := hasNamedChild_iff.mp showsChildren
          rw [children_eq] at isChild
          cases isChild
      | cons first rest => exact .inl ⟨first, rest, rfl, rfl, rfl⟩

theorem climb_next (node next : SyntaxNode) (rest : List SyntaxNode)
    (around : List (SyntaxNode × List SyntaxNode)) (parents : List Parent) :
    climb ⟨node, next :: rest, around⟩ parents = some (⟨next, rest, around⟩, parents) := by
  rw [climb.eq_def]
  rfl

theorem climb_parent (node above : SyntaxNode) (following : List SyntaxNode)
    (around : List (SyntaxNode × List SyntaxNode)) (parent : Parent) (parents : List Parent) :
    climb ⟨node, [], (above, following) :: around⟩ (parent :: parents) =
      climb ⟨above, following, around⟩ parents := by
  rw [climb.eq_def]
  rfl

/-- Climbing leaves the scopes in which nothing is left. -/
theorem climb_cases {cursor : SyntaxCursor} {parents : List Parent} (inStep : InStep cursor parents) :
    (∃ next parent outer, climb cursor parents = some (next, parent :: outer) ∧
        InStep next (parent :: outer) ∧
          convertScopes source comments (openScopes cursor.following cursor.around parents) =
            convertScopes source comments
              (openScopes (next.node :: next.following) next.around (parent :: outer))) ∨
      (∀ next parent outer, climb cursor parents ≠ some (next, parent :: outer)) ∧
        convertScopes source comments (openScopes cursor.following cursor.around parents) =
          pure () := by
  obtain ⟨node, following, around⟩ := cursor
  induction around generalizing node following parents with
  | nil =>
      -- There is nothing beside the root.
      obtain rfl := List.eq_nil_of_length_eq_zero inStep
      refine .inr ⟨?_, convertScopes.eq_1 ..⟩
      cases following with
      | nil => nofun
      | cons next rest =>
          rw [climb_next]
          nofun
  | cons above around ih =>
      obtain ⟨parent, parents, rfl⟩ := List.exists_cons_of_length_eq_add_one inStep
      cases following with
      | nil =>
          rw [climb_parent, openScopes, convertScopes]
          exact ih above.1 above.2 (Nat.succ_inj.mp inStep)
      | cons next rest => exact .inl ⟨_, _, _, climb_next .., inStep, rfl⟩

/-! ## The walk -/

theorem walk_of_child {cursor child : SyntaxCursor} (isChild : descend? cursor = some child)
    (parents : List Parent) (current : NodeId) :
    walk source comments cursor parents current = (do
      let children ← openNode current
      let object ← visit source comments child ⟨current, children⟩ current
      walk source comments child (⟨current, children⟩ :: parents) object) := by
  rw [walk]
  split
  · next other isOther =>
      cases isChild.symm.trans isOther
      rfl
  · next isOther => cases isChild.symm.trans isOther

theorem walk_of_next {cursor next : SyntaxCursor} {parents outer : List Parent} {parent : Parent}
    (isLeaf : descend? cursor = none) (isNext : climb cursor parents = some (next, parent :: outer))
    (current : NodeId) :
    walk source comments cursor parents current = (do
      let object ← visit source comments next parent current
      walk source comments next (parent :: outer) object) := by
  rw [walk]
  split
  · next isOther => cases isLeaf.symm.trans isOther
  · split
    · next isOther =>
        cases isNext.symm.trans isOther
        rfl
    · next isOther => exact absurd isNext (isOther _ _ _)

theorem walk_of_done {cursor : SyntaxCursor} {parents : List Parent} (isLeaf : descend? cursor = none)
    (isDone : ∀ next parent outer, climb cursor parents ≠ some (next, parent :: outer))
    (current : NodeId) : walk source comments cursor parents current = pure () := by
  rw [walk]
  split
  · next isOther => cases isLeaf.symm.trans isOther
  · split
    · next isOther => exact absurd isOther (isDone _ _ _)
    · rfl

theorem visit_named {cursor : SyntaxCursor} (isNamed : cursor.node.isNamed) (parent : Parent)
    (current : NodeId) :
    visit source comments cursor parent current =
      addNode source comments parent.children cursor.node := by
  unfold visit addNode announce
  rw [if_pos isNamed]
  cases cursor.node.kind == "comment" <;> rfl

theorem visit_token {cursor : SyntaxCursor} (isToken : ¬cursor.node.isNamed) (parent : Parent)
    (current : NodeId) :
    visit source comments cursor parent current = (do
      setRole source parent.object cursor.node
      return current) := by
  unfold visit setRole role?
  rw [if_neg isToken, if_neg isToken]
  cases cursor.node.label.field with
  | none => rfl
  | some role =>
      dsimp only
      rw [Option.filter_some]
      cases reservedKeys.contains role <;> rfl

/-- The first tree that is left is visited, and then the rest is converted. -/
theorem convertScopes_visit {cursor : SyntaxCursor} {parents : List Parent} {parent : Parent}
    (inStep : InStep cursor (parent :: parents)) (current : NodeId) :
    convertScopes source comments
        (openScopes (cursor.node :: cursor.following) cursor.around (parent :: parents)) = (do
      let object ← visit source comments cursor parent current
      convertRest source comments cursor (parent :: parents) object) := by
  obtain ⟨node, following, around⟩ := cursor
  obtain ⟨above, around, rfl⟩ := List.exists_cons_of_length_eq_add_one inStep.symm
  dsimp only [openScopes]
  by_cases isNamed : node.isNamed
  · rw [convertScopes_named isNamed, visit_named isNamed]
    refine congrArg _ (funext fun object => ?_)
    rw [convertRest, isNamed, Bool.true_and]
    rfl
  · rw [convertScopes_token isNamed, visit_token isNamed, bind_assoc]
    refine congrArg _ (funext fun _ => ?_)
    rw [pure_bind, convertRest, Bool.eq_false_of_not_eq_true isNamed, Bool.false_and,
      if_neg Bool.false_ne_true]
    rfl

theorem walk_eq {cursor : SyntaxCursor} {parents : List Parent} (inStep : InStep cursor parents)
    (current : NodeId) :
    walk source comments cursor parents current =
      convertRest source comments cursor parents current := by
  induction ahead_eq : cursor.ahead using Nat.strongRecOn generalizing cursor parents current with
  | ind ahead ih =>
      subst ahead_eq
      obtain ⟨first, rest, children_eq, isOpen, isChild⟩ | ⟨isClosed, isLeaf⟩ :=
        descend?_cases cursor
      · have childInStep (children : NodeId) :
            InStep ⟨first, rest, (cursor.node, cursor.following) :: cursor.around⟩
              (⟨current, children⟩ :: parents) := congrArg (· + 1) inStep
        rw [walk_of_child isChild, convertRest, isOpen, if_pos rfl, children_eq]
        refine congrArg _ (funext fun children => ?_)
        refine Eq.trans ?_ (convertScopes_visit (childInStep children) current).symm
        refine congrArg _ (funext fun object => ?_)
        exact ih _ (descend?_ahead isChild) (childInStep children) object rfl
      · rw [convertRest, isClosed, if_neg Bool.false_ne_true]
        obtain ⟨next, parent, outer, isNext, nextInStep, same⟩ | ⟨isDone, same⟩ :=
          @climb_cases source comments cursor parents inStep
        · rw [same, walk_of_next isLeaf isNext, convertScopes_visit nextInStep current]
          exact congrArg _ (funext fun object => ih _ (climb_ahead isNext) nextInStep object rfl)
        · rw [same, walk_of_done isLeaf isDone]

/-- A whole walk converts what is inside the root. -/
theorem walk_root (root : SyntaxNode) (object : NodeId) :
    walk source comments { node := root } [] object = (do
      if root.isNamed && hasNamedChild root then
        let children ← openNode object
        convertScopes source comments [⟨object, children, root.children⟩]) := by
  have inStep : InStep { node := root } [] := rfl
  rw [walk_eq inStep, convertRest]
  cases root.isNamed && hasNamedChild root with
  | true => rfl
  | false => exact convertScopes.eq_1 ..

end RepoSurvey.Script
