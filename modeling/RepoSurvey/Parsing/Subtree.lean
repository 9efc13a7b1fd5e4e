import RepoSurvey.Parsing.Source
import RepoSurvey.Parsing.Table

/-!
# Subtrees

The trees on a parser's stack.  Each subtree sums up what the parser asks about it: its extent, how
much input was skipped or made up in it, and how many visible nodes it has.
-/

namespace RepoSurvey.Parsing

/-- What a hand-written token recogniser remembers from one token to the next. -/
abbrev ScannerState := List String

/-- A subtree without its children. -/
structure SubtreeHead where
  symbol : Nat
  isVisible : Bool := false
  isExtra : Bool := false
  /-- The token is not in the input. -/
  isMissing : Bool := false
  /-- The token was first read as a word. -/
  isKeyword : Bool := false
  padding : Extent := {}
  size : Extent := {}
  /-- The state in which a token was read. -/
  parseState : Nat := 0
  /-- Which aliases and fields apply to the children. -/
  info : Nat := 0
  ownErrorCost : Nat := 0
  dynamicPrecedence : Int := 0
  visibleChildren : Nat := 0
  visibleDescendants : Nat := 0
  /-- What the recogniser remembers after this token, if it was one of its tokens. -/
  scannerState : Option ScannerState := none
  scannerStateChanged : Bool := false
  deriving Inhabited

inductive Subtree
  | node (head : SubtreeHead) (children : Array Subtree)
  deriving Inhabited

/-! The prices of errors. -/

def costPerRecovery : Nat := 500
def costPerMissingTree : Nat := 110
def costPerSkippedTree : Nat := 100
def costPerSkippedLine : Nat := 30
def costPerSkippedChar : Nat := 1

namespace Subtree

def head : Subtree → SubtreeHead
  | node head _ => head

def children : Subtree → Array Subtree
  | node _ children => children

def symbol (tree : Subtree) : Nat := tree.head.symbol

def isExtra (tree : Subtree) : Bool := tree.head.isExtra

def isError (tree : Subtree) : Bool := tree.head.symbol == errorSymbol

/-- What it costs to have this subtree in the result. -/
def errorCost (tree : Subtree) : Nat :=
  if tree.head.isMissing then costPerMissingTree + costPerRecovery else tree.head.ownErrorCost

def totalSize (tree : Subtree) : Extent := tree.head.padding.add tree.head.size

/-- How many visible nodes the subtree has; nodes that join skipped tokens are counted too. -/
def nodeCount (tree : Subtree) : Nat :=
  tree.head.visibleDescendants + tree.head.isVisible.toNat +
    if tree.head.symbol == errorRepeatSymbol then 1 else 0

/-- The recogniser's state after a token; other subtrees have none. -/
def scannerState (tree : Subtree) : ScannerState := tree.head.scannerState.getD []

def withExtra (tree : Subtree) (isExtra : Bool) : Subtree :=
  node { tree.head with isExtra } tree.children

def isErrorSymbol (symbol : Nat) : Bool := symbol == errorSymbol || symbol == errorRepeatSymbol

/-- A subtree over `children`, with everything summed up. -/
def ofChildren (table : ParseTable) (symbol info : Nat) (children : Array Subtree) : Subtree :=
  Id.run do
    let aliases := (table.infos[info]!).aliases
    let skips := isErrorSymbol symbol
    let mut remaining := aliases
    let mut padding : Extent := {}
    let mut size : Extent := {}
    let mut cost := 0
    let mut precedence : Int := 0
    let mut visibleChildren := 0
    let mut visibleDescendants := 0
    for position in [0:children.size] do
      let child := children[position]!
      let part := child.head
      if position == 0 then
        padding := part.padding
        size := part.size
      else size := size.add child.totalSize
      if part.symbol != errorRepeatSymbol then cost := cost + child.errorCost
      let isLeaf := child.children.isEmpty
      if skips && !part.isExtra && !(child.isError && isLeaf) then
        if part.isVisible then cost := cost + costPerSkippedTree
        else if !isLeaf then cost := cost + costPerSkippedTree * part.visibleChildren
      precedence := precedence + part.dynamicPrecedence
      visibleDescendants := visibleDescendants + part.visibleDescendants
      let isAliased := !part.isExtra && part.symbol != 0 && (remaining.headD none).isSome
      if isAliased || part.isVisible then
        visibleDescendants := visibleDescendants + 1
        visibleChildren := visibleChildren + 1
      else if !isLeaf then visibleChildren := visibleChildren + part.visibleChildren
      if !part.isExtra then remaining := remaining.tail
    if skips then
      cost := cost + costPerRecovery + costPerSkippedChar * size.bytes + costPerSkippedLine * size.row
    return node
      { symbol
        isVisible := (table.symbol symbol).isVisible
        padding
        size
        info
        ownErrorCost := cost
        dynamicPrecedence := precedence
        visibleChildren
        visibleDescendants }
      children

/-- Skipped input, joined into one node. -/
def ofSkipped (table : ParseTable) (children : Array Subtree) (isExtra : Bool) : Subtree :=
  (ofChildren table errorSymbol 0 children).withExtra isExtra

/-- The order in which two readings of the same text are preferred, decided by the first difference
in symbol or number of children. -/
def compareLists : Nat → List (Subtree × Subtree) → Ordering
  | 0, _ => .eq
  | _, [] => .eq
  | fuel + 1, (left, right) :: rest =>
      match (compare left.symbol right.symbol).then
          (compare left.children.size right.children.size) with
      | .eq => compareLists fuel (left.children.toList.zip right.children.toList ++ rest)
      | result => result

def compareTo (left right : Subtree) : Ordering :=
  compareLists (1 + (left.head.size.bytes + 2) * 4096) [(left, right)]

end Subtree

end RepoSurvey.Parsing
