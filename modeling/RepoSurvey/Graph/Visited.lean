import Std.Data.HashSet.Lemmas
import RepoSurvey.Graph.Store

/-!
# Visited containers

A traversal opens each container of a store at most once.  How many containers it has not opened yet
bounds how long it can go on.
-/

namespace RepoSurvey.Graph

/-- The containers opened so far. -/
abbrev Visited := Std.HashSet NodeId

/-- How many containers of a store have not been visited. -/
def unvisited (store : Store) (visited : Visited) : Nat :=
  (List.range store.size).countP fun node => !visited.contains node

/-- Fewer elements satisfy a narrower test that some element fails. -/
theorem countP_lt_of_narrower {α : Type} {narrow wide : α → Bool} {list : List α} {element : α}
    (isNarrower : ∀ other, narrow other = true → wide other = true) (isMember : element ∈ list)
    (isWide : wide element = true) (isNotNarrow : narrow element = false) :
    list.countP narrow < list.countP wide := by
  induction list with
  | nil => cases isMember
  | cons first rest ih =>
      have restLe : rest.countP narrow ≤ rest.countP wide :=
        List.countP_mono_left fun other _ => isNarrower other
      simp only [List.countP_cons]
      cases isMember with
      | head =>
          simp only [isWide, isNotNarrow]
          simp
          omega
      | tail _ isMember =>
          have restLt := ih isMember
          by_cases isFirst : narrow first = true
          · simp only [isFirst, isNarrower first isFirst]
            omega
          · rw [if_neg isFirst]
            exact Nat.lt_of_lt_of_le restLt (Nat.le_add_right _ _)

/-- Visiting a container leaves fewer to visit. -/
theorem unvisited_insert_lt {store : Store} {visited : Visited} {node : NodeId}
    (isIn : node < store.size) (isNew : visited.contains node = false) :
    unvisited store (visited.insert node) < unvisited store visited := by
  refine countP_lt_of_narrower ?_ (List.mem_range.mpr isIn) ?_ ?_
  · intro other isLeft
    simp only [Std.HashSet.contains_insert, Bool.not_or, Bool.and_eq_true] at isLeft
    exact isLeft.2
  · simp [isNew]
  · simp [Std.HashSet.contains_insert]

/-- What a traversal finds at a value. -/
inductive Visit
  | scalar
  /-- A container that has been opened before. -/
  | again
  | first (node : NodeId) (container : Container)

/-- Looks at a value. A reference to nothing counts as a scalar. -/
def visit (store : Store) (visited : Visited) : Value → Visit
  | .container node =>
      match store.container? node with
      | none => .scalar
      | some container => if visited.contains node then .again else .first node container
  | _ => .scalar

theorem visit_first {store : Store} {visited : Visited} {value : Value} {node : NodeId}
    {container : Container} (found : visit store visited value = .first node container) :
    node < store.size ∧ visited.contains node = false := by
  unfold visit at found
  split at found
  · split at found
    · cases found
    · rename_i isThere
      split at found
      · cases found
      · rename_i isNew
        cases found
        refine ⟨?_, by simpa using isNew⟩
        have := Array.getElem?_eq_some_iff.mp isThere
        exact this.1
  · cases found

end RepoSurvey.Graph
