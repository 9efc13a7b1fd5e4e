import RepoSurvey.Graph.Store
import RepoSurvey.Syntax.Tree

/-!
# Conversions of syntax trees

A conversion turns nodes of a syntax tree into containers of a graph: what a node becomes is put into
the list given for it, and the trees inside it are converted into a list of their own.  Nodes wait on
a list, so trees may be of any depth.
-/

namespace RepoSurvey

open RepoSurvey.Graph

structure Conversion where
  /-- The trees inside a node that are converted as well. -/
  inner : SyntaxNode → List SyntaxNode
  inner_lt : ∀ tree, SyntaxNode.sizeOfList (inner tree) < tree.size
  /-- Converts a node into the given list. The answer is the list for the trees inside. -/
  convert : SyntaxNode → NodeId → Build NodeId

namespace Conversion

/-- A node that waits, and the list that receives it. -/
structure Task where
  tree : SyntaxNode
  target : NodeId

def tasksFor (trees : List SyntaxNode) (target : NodeId) : List Task :=
  trees.map fun tree => ⟨tree, target⟩

/-- How many nodes wait, with all below them. -/
def workload : List Task → Nat
  | [] => 0
  | task :: rest => task.tree.size + workload rest

@[simp] theorem workload_append (left right : List Task) :
    workload (left ++ right) = workload left + workload right := by
  induction left with
  | nil => simp [workload]
  | cons first rest ih => simp only [List.cons_append, workload, ih, Nat.add_assoc]

@[simp] theorem workload_tasksFor (trees : List SyntaxNode) (target : NodeId) :
    workload (tasksFor trees target) = SyntaxNode.sizeOfList trees := by
  induction trees with
  | nil => simp [tasksFor, workload, SyntaxNode.sizeOfList]
  | cons tree rest ih =>
      simp only [workload, tasksFor, List.map_cons, SyntaxNode.sizeOfList] at ih ⊢
      omega

/-- Converts all that wait, and what is inside them. -/
def run (conversion : Conversion) : List Task → Build Unit
  | [] => pure ()
  | task :: rest => do
      let target ← conversion.convert task.tree task.target
      run conversion (tasksFor (conversion.inner task.tree) target ++ rest)
  termination_by tasks => workload tasks
  decreasing_by
    have := conversion.inner_lt task.tree
    rw [workload_append, workload_tasksFor]
    simp only [workload]
    omega

end Conversion

end RepoSurvey
