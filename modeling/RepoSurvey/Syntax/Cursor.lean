import RepoSurvey.Syntax.Tree

/-!
# Cursors

A cursor stands at a node of a syntax tree.  It can be moved to the first child of the node, to the next
sibling and to the parent, if they are there.
-/

namespace RepoSurvey

/-- A node of a tree with the siblings that follow it. Around it are the nodes that it is inside of, the
innermost first, each with the siblings that follow it. -/
structure SyntaxCursor where
  node : SyntaxNode
  following : List SyntaxNode := []
  around : List (SyntaxNode × List SyntaxNode) := []

namespace SyntaxCursor

def firstChild? (cursor : SyntaxCursor) : Option SyntaxCursor :=
  match cursor.node.children with
  | [] => none
  | first :: rest => some ⟨first, rest, (cursor.node, cursor.following) :: cursor.around⟩

def nextSibling? (cursor : SyntaxCursor) : Option SyntaxCursor :=
  match cursor.following with
  | [] => none
  | next :: rest => some ⟨next, rest, cursor.around⟩

def parent? (cursor : SyntaxCursor) : Option SyntaxCursor :=
  match cursor.around with
  | [] => none
  | (node, following) :: around => some ⟨node, following, around⟩

/-- How many nodes follow the nodes around a cursor. -/
def afterAll : List (SyntaxNode × List SyntaxNode) → Nat
  | [] => 0
  | (_, following) :: around => SyntaxNode.sizeOfList following + afterAll around

/-- How many nodes come after all that is inside the node. -/
def after (cursor : SyntaxCursor) : Nat :=
  SyntaxNode.sizeOfList cursor.following + afterAll cursor.around

/-- How many nodes come after the node. -/
def ahead (cursor : SyntaxCursor) : Nat := SyntaxNode.sizeOfList cursor.node.children + cursor.after

theorem firstChild?_ahead {cursor child : SyntaxCursor} (isChild : cursor.firstChild? = some child) :
    child.ahead < cursor.ahead := by
  unfold firstChild? at isChild
  cases children_eq : cursor.node.children with
  | nil =>
      rw [children_eq] at isChild
      cases isChild
  | cons first rest =>
      rw [children_eq] at isChild
      cases isChild
      have := SyntaxNode.size_eq first
      simp only [ahead, after, afterAll, children_eq, SyntaxNode.sizeOfList]
      omega

theorem nextSibling?_ahead {cursor next : SyntaxCursor} (isNext : cursor.nextSibling? = some next) :
    next.ahead < cursor.after := by
  unfold nextSibling? at isNext
  cases following_eq : cursor.following with
  | nil =>
      rw [following_eq] at isNext
      cases isNext
  | cons first rest =>
      rw [following_eq] at isNext
      cases isNext
      have := SyntaxNode.size_eq first
      simp only [ahead, after, following_eq, SyntaxNode.sizeOfList]
      omega

theorem parent?_after {cursor outer : SyntaxCursor} (isOuter : cursor.parent? = some outer) :
    outer.after ≤ cursor.after := by
  unfold parent? at isOuter
  cases around_eq : cursor.around with
  | nil =>
      rw [around_eq] at isOuter
      cases isOuter
  | cons parent around =>
      rw [around_eq] at isOuter
      cases isOuter
      simp only [after, afterAll, around_eq]
      omega

end SyntaxCursor

end RepoSurvey
