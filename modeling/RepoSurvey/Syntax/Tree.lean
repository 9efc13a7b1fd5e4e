/-!
# Syntax trees

The visible part of a parse: each node has a kind, the range of text it covers and, where its
parent gives it a role, a field name.
-/

namespace RepoSurvey

/-- A place in a text. The column counts bytes from the start of the row; both count from zero. -/
structure Place where
  byte : Nat
  row : Nat
  column : Nat
  deriving BEq, DecidableEq, Inhabited, Repr

/-- A node of a syntax tree without its children. -/
structure SyntaxLabel where
  kind : String
  isNamed : Bool := true
  field : Option String := none
  start : Place
  stop : Place
  /-- The node holds input that the grammar could not place. -/
  isError : Bool := false
  /-- The node is a token that the input lacks. -/
  isMissing : Bool := false
  /-- The node is, or contains, one of these two. -/
  hasError : Bool := false
  deriving BEq, DecidableEq, Inhabited, Repr

inductive SyntaxNode
  | node (label : SyntaxLabel) (children : List SyntaxNode)
  deriving Inhabited

namespace SyntaxNode

def label : SyntaxNode → SyntaxLabel
  | node label _ => label

def children : SyntaxNode → List SyntaxNode
  | node _ children => children

def kind (tree : SyntaxNode) : String := tree.label.kind

def isNamed (tree : SyntaxNode) : Bool := tree.label.isNamed

def startByte (tree : SyntaxNode) : Nat := tree.label.start.byte

def stopByte (tree : SyntaxNode) : Nat := tree.label.stop.byte

def namedChildren (tree : SyntaxNode) : List SyntaxNode := tree.children.filter (·.isNamed)

mutual

/-- The number of nodes of a tree. -/
def size : SyntaxNode → Nat
  | node _ children => 1 + sizeOfList children

def sizeOfList : List SyntaxNode → Nat
  | [] => 0
  | tree :: rest => size tree + sizeOfList rest

end

theorem size_eq (tree : SyntaxNode) : tree.size = 1 + sizeOfList tree.children := by
  cases tree
  simp [size, children]

@[simp] theorem sizeOfList_append (left right : List SyntaxNode) :
    sizeOfList (left ++ right) = sizeOfList left + sizeOfList right := by
  induction left with
  | nil => simp [sizeOfList]
  | cons tree rest ih =>
      simp [sizeOfList, ih]
      omega

@[simp] theorem sizeOfList_reverse (trees : List SyntaxNode) :
    sizeOfList trees.reverse = sizeOfList trees := by
  induction trees with
  | nil => rfl
  | cons tree rest ih =>
      simp [sizeOfList, ih]
      omega

theorem sizeOfList_filter_le (test : SyntaxNode → Bool) (trees : List SyntaxNode) :
    sizeOfList (trees.filter test) ≤ sizeOfList trees := by
  induction trees with
  | nil => simp
  | cons tree rest ih =>
      rw [List.filter_cons]
      split <;> simp only [sizeOfList] <;> omega

theorem size_le_sizeOfList {tree : SyntaxNode} {trees : List SyntaxNode} (isIn : tree ∈ trees) :
    tree.size ≤ sizeOfList trees := by
  induction isIn with
  | head rest =>
      rw [sizeOfList]
      omega
  | tail first _ ih =>
      rw [sizeOfList]
      omega

theorem size_lt_of_mem_children {tree child : SyntaxNode} (isChild : child ∈ tree.children) :
    child.size < tree.size := by
  have := size_le_sizeOfList isChild
  rw [size_eq tree]
  omega

/-- The named children of a node are smaller than the node. -/
theorem sizeOfList_namedChildren_lt (tree : SyntaxNode) :
    sizeOfList tree.namedChildren < tree.size := by
  have := sizeOfList_filter_le (·.isNamed) tree.children
  rw [size_eq, namedChildren]
  omega

/-! ## Equality -/

mutual

/-- Two trees are compared node by node. -/
def decideEq : (left right : SyntaxNode) → Decidable (left = right)
  | node label children, node other others =>
      match decEq label other, decideEqList children others with
      | .isTrue sameLabel, .isTrue same => .isTrue (by rw [sameLabel, same])
      | .isFalse differ, _ => .isFalse fun equal => differ (SyntaxNode.node.inj equal).1
      | _, .isFalse differ => .isFalse fun equal => differ (SyntaxNode.node.inj equal).2

def decideEqList : (left right : List SyntaxNode) → Decidable (left = right)
  | [], [] => .isTrue rfl
  | [], _ :: _ => .isFalse (by simp)
  | _ :: _, [] => .isFalse (by simp)
  | tree :: rest, other :: others =>
      match decideEq tree other, decideEqList rest others with
      | .isTrue sameTree, .isTrue same => .isTrue (by rw [sameTree, same])
      | .isFalse differ, _ => .isFalse fun equal => differ (List.cons.inj equal).1
      | _, .isFalse differ => .isFalse fun equal => differ (List.cons.inj equal).2

end

instance : DecidableEq SyntaxNode := decideEq

/-! ## Document order -/

mutual

/-- A node and all that is inside it, in document order. -/
def preorder : SyntaxNode → List SyntaxNode
  | node label children => node label children :: preorderOf children

def preorderOf : List SyntaxNode → List SyntaxNode
  | [] => []
  | tree :: rest => preorder tree ++ preorderOf rest

end

theorem preorderOf_eq_flatMap (trees : List SyntaxNode) :
    preorderOf trees = trees.flatMap preorder := by
  induction trees with
  | nil => rfl
  | cons tree rest ih => rw [preorderOf, ih, List.flatMap_cons]

theorem preorder_eq (tree : SyntaxNode) :
    tree.preorder = tree :: tree.children.flatMap preorder := by
  cases tree with
  | node label children => rw [preorder, preorderOf_eq_flatMap, SyntaxNode.children]

theorem self_mem_preorder (tree : SyntaxNode) : tree ∈ tree.preorder := by
  rw [preorder_eq]
  exact List.mem_cons_self

/-- What is inside a child is inside the node. -/
theorem preorder_subset {tree child : SyntaxNode} (isChild : child ∈ tree.children) :
    child.preorder ⊆ tree.preorder := by
  intro node isInside
  rw [preorder_eq]
  exact List.mem_cons_of_mem _ (List.mem_flatMap_of_mem isChild isInside)

end SyntaxNode

end RepoSurvey
