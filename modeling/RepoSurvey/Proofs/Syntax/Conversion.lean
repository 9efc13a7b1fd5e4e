import RepoSurvey.Proofs.Graph.Appending
import RepoSurvey.Syntax.Conversion

/-!
# What conversions build

A conversion keeps the nodes that wait in one list, whatever list they are meant for.  It builds what
plain recursion over the tree writes down: every node gives documents that stand beside those of the
trees inside it, or one object around them.
-/

namespace RepoSurvey.Conversion

open RepoSurvey.Graph

/-- What a node becomes in a document. -/
inductive Shape
  /-- Documents in front of those of the trees inside. -/
  | beside (written : List Json.Ordered)
  /-- An object with the documents of the trees inside as its last member. -/
  | around (members : List (String × Json.Ordered)) (key : String)

/-- The documents of some trees, one after the other. -/
def documents (conversion : Conversion) (shape : SyntaxNode → Shape) :
    List SyntaxNode → List Json.Ordered
  | [] => []
  | tree :: rest =>
      let inner := documents conversion shape (conversion.inner tree)
      let others := documents conversion shape rest
      match shape tree with
      | .beside written => written ++ inner ++ others
      | .around members key => .object (members ++ [(key, .array inner)]) :: others
  termination_by trees => SyntaxNode.sizeOfList trees
  decreasing_by
    · have := conversion.inner_lt tree
      rw [SyntaxNode.sizeOfList]
      omega
    · rw [SyntaxNode.sizeOfList, SyntaxNode.size_eq]
      omega

/-- An action gives a node its shape in a list. -/
def Gives (action : Build NodeId) (target : NodeId) : Shape → Prop
  | .beside written =>
      ∃ fill : Build Unit, action = (do fill; return target) ∧
        Appends fill target (written.map Plain)
  | .around members key => Opens action target fun inner => .object (members ++ [(key, inner)])

variable {conversion : Conversion} {shape : SyntaxNode → Shape}

theorem run_nil : conversion.run [] = pure () := by rw [run]

theorem run_cons (tree : SyntaxNode) (target : NodeId) (rest : List Task) :
    conversion.run (⟨tree, target⟩ :: rest) = (do
      let inside ← conversion.convert tree target
      conversion.run (tasksFor (conversion.inner tree) inside ++ rest)) := by
  rw [run]

/-- What waits behind is converted when all that waits before it, and all that is inside, is done. -/
theorem run_append (left right : List Task) :
    conversion.run (left ++ right) = (do
      conversion.run left
      conversion.run right) := by
  induction left using run.induct conversion with
  | case1 => rw [List.nil_append, run_nil, pure_bind]
  | case2 task rest ih =>
      obtain ⟨tree, target⟩ := task
      rw [List.cons_append, run_cons, run_cons, bind_assoc]
      refine congrArg _ (funext fun inside => ?_)
      rw [← ih inside, List.append_assoc]

theorem run_tasksFor_cons (tree : SyntaxNode) (rest : List SyntaxNode) (target : NodeId) :
    conversion.run (tasksFor (tree :: rest) target) = (do
      (do
        let inside ← conversion.convert tree target
        conversion.run (tasksFor (conversion.inner tree) inside))
      conversion.run (tasksFor rest target)) := by
  rw [tasksFor, List.map_cons, run_cons, bind_assoc]
  exact congrArg _ (funext fun inside => run_append _ _)

/-- The trees that wait for a list are put there as plain recursion writes them. -/
theorem run_appends
    (gives : ∀ tree target, Gives (conversion.convert tree target) target (shape tree))
    (trees : List SyntaxNode) (target : NodeId) :
    Appends (conversion.run (tasksFor trees target)) target
      ((documents conversion shape trees).map Plain) := by
  induction trees using documents.induct conversion shape generalizing target with
  | case1 =>
      rw [tasksFor, List.map_nil, run_nil, documents]
      exact .nil
  | case2 tree rest written shape_eq innerAppends restAppends =>
      have given := gives tree target
      rw [shape_eq] at given
      obtain ⟨fill, convert_eq, fills⟩ := given
      rw [run_tasksFor_cons, documents, shape_eq, convert_eq, bind_assoc, List.map_append,
        List.map_append]
      exact (fills.append (innerAppends target)).append (restAppends target)
  | case3 tree rest members key shape_eq innerAppends restAppends =>
      have given := gives tree target
      rw [shape_eq, Gives] at given
      rw [run_tasksFor_cons, documents, shape_eq]
      exact (given.fill innerAppends).append (restAppends target)

end RepoSurvey.Conversion
