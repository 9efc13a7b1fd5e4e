import RepoSurvey.Parsing.Subtree

/-!
# The parser's stack

Where the grammar leaves a choice open, or after an error, a parser follows several readings at
once.  Their stacks share what they have in common: the stack is a graph whose nodes link back to
earlier nodes, each link carrying the subtree between them, and each reading is a *version* with a
node as its top.
-/

namespace RepoSurvey.Parsing

structure StackLink where
  node : Nat
  /-- Missing where the parser has given up a reading after an error. -/
  subtree : Option Subtree
  deriving Inhabited

structure StackNode where
  state : Nat
  place : Extent := {}
  links : Array StackLink := #[]
  errorCost : Nat := 0
  nodeCount : Nat := 0
  dynamicPrecedence : Int := 0
  deriving Inhabited

inductive VersionStatus
  | active
  /-- No action is possible for the token given. -/
  | paused (lookahead : Subtree)
  | halted
  deriving Inhabited

/-- A state that the stack was in, and how far down it is. -/
structure SummaryEntry where
  place : Extent
  depth : Nat
  state : Nat
  deriving Inhabited

structure Version where
  top : Nat
  /-- The state of the token recogniser after its last token. -/
  scannerState : ScannerState := []
  summary : Option (Array SummaryEntry) := none
  nodeCountAtLastError : Nat := 0
  status : VersionStatus := .active
  deriving Inhabited

structure Stack where
  nodes : Array StackNode
  versions : Array Version
  deriving Inhabited

/-- The subtrees between two nodes of the stack, and the version that now ends below them. -/
structure Slice where
  version : Nat
  subtrees : Array Subtree
  deriving Inhabited

def errorState : Nat := 0

def maxLinks : Nat := 8

def maxWalkers : Nat := 64

def maxSummaryDepth : Nat := 16

namespace Stack

/-- One version in the first state. -/
def initial : Stack := ⟨#[{ state := 1 }], #[{ top := 0 }]⟩

def count (stack : Stack) : Nat := stack.versions.size

def version (stack : Stack) (index : Nat) : Version := stack.versions[index]!

def topNode (stack : Stack) (index : Nat) : StackNode := stack.nodes[(stack.version index).top]!

def state (stack : Stack) (index : Nat) : Nat := (stack.topNode index).state

def place (stack : Stack) (index : Nat) : Extent := (stack.topNode index).place

def isActive (stack : Stack) (index : Nat) : Bool :=
  match (stack.version index).status with
  | .active => true
  | _ => false

def isPaused (stack : Stack) (index : Nat) : Bool :=
  match (stack.version index).status with
  | .paused _ => true
  | _ => false

def isHalted (stack : Stack) (index : Nat) : Bool :=
  match (stack.version index).status with
  | .halted => true
  | _ => false

def modifyVersion (stack : Stack) (index : Nat) (change : Version → Version) : Stack :=
  let ⟨nodes, versions⟩ := stack
  ⟨nodes, versions.modify index change⟩

def errorCost (stack : Stack) (index : Nat) : Nat :=
  let node := stack.topNode index
  let gaveUp := node.state == errorState &&
    match node.links[0]? with
    | some link => link.subtree.isNone
    | none => true
  node.errorCost + if stack.isPaused index || gaveUp then costPerRecovery else 0

def dynamicPrecedence (stack : Stack) (index : Nat) : Int := (stack.topNode index).dynamicPrecedence

/-- How many nodes were added since the last error. -/
def nodeCountSinceError (stack : Stack) (index : Nat) : Nat :=
  (stack.topNode index).nodeCount - (stack.version index).nodeCountAtLastError

/-- Forgets nodes that were counted at the last error but are gone now. -/
def settleNodeCount (stack : Stack) (index : Nat) : Stack :=
  let nodeCount := (stack.topNode index).nodeCount
  if nodeCount < (stack.version index).nodeCountAtLastError then
    stack.modifyVersion index fun version => { version with nodeCountAtLastError := nodeCount }
  else stack

/-- Pushes a subtree, or a gap if there is none. -/
def push (stack : Stack) (index : Nat) (subtree : Option Subtree) (state : Nat) : Stack :=
  let ⟨nodes, versions⟩ := stack
  let top := versions[index]!.top
  let below := nodes[top]!
  let node : StackNode := match subtree with
    | some tree =>
        { state
          place := below.place.add tree.totalSize
          links := #[⟨top, subtree⟩]
          errorCost := below.errorCost + tree.errorCost
          nodeCount := below.nodeCount + tree.nodeCount
          dynamicPrecedence := below.dynamicPrecedence + tree.head.dynamicPrecedence }
    | none => { below with state, links := #[⟨top, none⟩] }
  let fresh := nodes.size
  let isGap := subtree.isNone
  ⟨nodes.push node, versions.modify index fun version =>
    { version with
      top := fresh
      nodeCountAtLastError := if isGap then node.nodeCount else version.nodeCountAtLastError }⟩

def remove (stack : Stack) (index : Nat) : Stack :=
  let ⟨nodes, versions⟩ := stack
  ⟨nodes, versions.eraseIdxIfInBounds index⟩

/-- Moves version `source` into the place of the earlier version `target`. -/
def renumber (stack : Stack) (source target : Nat) : Stack :=
  if source == target then stack
  else
    let moved := stack.version source
    let summary := moved.summary <|> (stack.version target).summary
    (stack.modifyVersion target fun _ => { moved with summary }).remove source

def copyVersion (stack : Stack) (index : Nat) : Stack :=
  let copy := { stack.version index with summary := none }
  let ⟨nodes, versions⟩ := stack
  ⟨nodes, versions.push copy⟩

def swap (stack : Stack) (left right : Nat) : Stack :=
  let ⟨nodes, versions⟩ := stack
  ⟨nodes, versions.swapIfInBounds left right⟩

def halt (stack : Stack) (index : Nat) : Stack :=
  stack.modifyVersion index fun version => { version with status := .halted }

def pause (stack : Stack) (index : Nat) (lookahead : Subtree) : Stack :=
  let nodeCount := (stack.topNode index).nodeCount
  stack.modifyVersion index fun version =>
    { version with status := .paused lookahead, nodeCountAtLastError := nodeCount }

def resume (stack : Stack) (index : Nat) : Stack :=
  stack.modifyVersion index fun version => { version with status := .active }

def setScannerState (stack : Stack) (index : Nat) (scannerState : ScannerState) : Stack :=
  stack.modifyVersion index fun version => { version with scannerState }

/-! ## Merging -/

/-- Whether two subtrees between the same states need not be told apart. -/
def isEquivalent : Option Subtree → Option Subtree → Bool
  | none, none => true
  | some left, some right =>
      left.symbol == right.symbol && (
        0 < left.errorCost && 0 < right.errorCost ||
        left.head.padding.bytes == right.head.padding.bytes &&
          left.head.size.bytes == right.head.size.bytes &&
          left.children.size == right.children.size &&
          left.isExtra == right.isExtra &&
          left.scannerState == right.scannerState)
  | _, _ => false

def precedenceOf (subtree : Option Subtree) : Int :=
  subtree.elim 0 (·.head.dynamicPrecedence)

/-- Adds a link to a node, joining it with a link that says the same. The fuel bounds how far down
nodes are joined. -/
def addLink : Nat → Array StackNode → Nat → StackLink → Array StackNode
  | 0, nodes, _, _ => nodes
  | fuel + 1, nodes, target, link => Id.run do
      if link.node == target then return nodes
      let node := nodes[target]!
      for position in [0:node.links.size] do
        let existing := node.links[position]!
        if isEquivalent existing.subtree link.subtree then
          if existing.node == link.node then
            if precedenceOf existing.subtree < precedenceOf link.subtree then
              let precedence := nodes[link.node]!.dynamicPrecedence + precedenceOf link.subtree
              return nodes.modify target fun node =>
                { node with
                  links := node.links.set! position { existing with subtree := link.subtree }
                  dynamicPrecedence := precedence }
            return nodes
          let below := nodes[existing.node]!
          let other := nodes[link.node]!
          if below.state == other.state && below.place.bytes == other.place.bytes &&
              below.errorCost == other.errorCost then
            let joined := other.links.foldl (fun nodes deeper =>
              addLink fuel nodes existing.node deeper) nodes
            let precedence := joined[link.node]!.dynamicPrecedence + precedenceOf link.subtree
            return joined.modify target fun node =>
              { node with dynamicPrecedence := max node.dynamicPrecedence precedence }
      if node.links.size == maxLinks then return nodes
      let below := nodes[link.node]!
      let nodeCount := below.nodeCount + link.subtree.elim 0 (·.nodeCount)
      let precedence := below.dynamicPrecedence + precedenceOf link.subtree
      return nodes.modify target fun node =>
        { node with
          links := node.links.push link
          nodeCount := max node.nodeCount nodeCount
          dynamicPrecedence := max node.dynamicPrecedence precedence }

def canMerge (stack : Stack) (left right : Nat) : Bool :=
  let first := stack.topNode left
  let second := stack.topNode right
  stack.isActive left && stack.isActive right && first.state == second.state &&
    first.place.bytes == second.place.bytes && first.errorCost == second.errorCost &&
    (stack.version left).scannerState == (stack.version right).scannerState

/-- Merges version `right` into version `left` if the two are in the same situation. -/
def merge (stack : Stack) (left right : Nat) : Stack × Bool :=
  if stack.canMerge left right then
    let links := (stack.topNode right).links
    let top := (stack.version left).top
    let ⟨nodes, versions⟩ := stack
    let fuel := nodes.size + 1
    let joined := links.foldl (fun nodes link => addLink fuel nodes top link) nodes
    let merged : Stack := ⟨joined, versions⟩
    let node := joined[top]!
    let settled :=
      if node.state == errorState then
        merged.modifyVersion left fun version =>
          { version with nodeCountAtLastError := node.nodeCount }
      else merged
    (settled.remove right, true)
  else (stack, false)

/-! ## Popping -/

/-- A way down from the top of a version. -/
structure Walker where
  node : Nat
  /-- The subtrees passed, the topmost first. -/
  subtrees : List Subtree := []
  count : Nat := 0
  deriving Inhabited

inductive WalkStep
  | goOn
  | stop
  | pop
  /-- Pops here and goes on below. -/
  | popAndGoOn
  deriving BEq

/-- Adds what a walker has passed; walkers that end at the same node share a version. -/
def addSlice (stack : Stack) (slices : Array Slice) (origin node : Nat) (subtrees : Array Subtree) :
    Stack × Array Slice :=
  let sharing := (List.range slices.size).reverse.find? fun position =>
    (stack.version slices[position]!.version).top == node
  match sharing with
  | some position =>
      let slice : Slice := ⟨slices[position]!.version, subtrees⟩
      (stack, slices.insertIdxIfInBounds (position + 1) slice)
  | none =>
      let from_ := stack.version origin
      let fresh : Version :=
        { top := node
          scannerState := from_.scannerState
          nodeCountAtLastError := from_.nodeCountAtLastError }
      let ⟨nodes, versions⟩ := stack
      (⟨nodes, versions.push fresh⟩, slices.push ⟨versions.size, subtrees⟩)

def follow (walker : Walker) (link : StackLink) : Walker :=
  match link.subtree with
  | some tree =>
      { node := link.node
        subtrees := tree :: walker.subtrees
        count := if tree.isExtra then walker.count else walker.count + 1 }
  | none => { walker with node := link.node, count := walker.count + 1 }

/-- Walks down from the top of a version along all links, one level per round. The state `σ` is
carried along by `decide`, which says what to do at each node. -/
def walk {σ : Type} (decide : σ → StackNode → Walker → σ × WalkStep) (start : σ)
    (stack : Stack) (origin : Nat) : Stack × Array Slice × σ := Id.run do
  let mut stack := stack
  let mut memory := start
  let mut slices : Array Slice := #[]
  let mut walkers : Array Walker := #[{ node := (stack.version origin).top }]
  for _ in [0:stack.nodes.size + 1] do
    if walkers.isEmpty then break
    -- Walkers that are made in this round move on in the next one.
    let mut kept : Array Walker := #[]
    let mut made : Array Walker := #[]
    let total := walkers.size
    let mut gone := 0
    for position in [0:total] do
      let walker := walkers[position]!
      let node := stack.nodes[walker.node]!
      let (updated, step) := decide memory node walker
      memory := updated
      if step == .pop || step == .popAndGoOn then
        let (grown, more) := stack.addSlice slices origin walker.node walker.subtrees.toArray
        stack := grown
        slices := more
      if step == .stop || step == .pop || node.links.isEmpty then gone := gone + 1
      else
        for link in node.links.extract 1 node.links.size do
          if total - gone + made.size < maxWalkers then made := made.push (follow walker link)
        kept := kept.push (follow walker node.links[0]!)
    walkers := kept ++ made
  return (stack, slices, memory)

/-- Pops `goal` subtrees, extras not counted, in every possible way. -/
def popCount (stack : Stack) (index goal : Nat) : Stack × Array Slice :=
  let (stack, slices, _) := walk (fun (_ : Unit) _ walker =>
    ((), if walker.count == goal then .pop else .goOn)) () stack index
  (stack, slices)

def popAll (stack : Stack) (index : Nat) : Stack × Array Slice :=
  let (stack, slices, _) := walk (fun (_ : Unit) node _ =>
    ((), if node.links.isEmpty then .popAndGoOn else .goOn)) () stack index
  (stack, slices)

/-- Pops the error node on top of a version, if there is one. -/
def popError (stack : Stack) (index : Nat) : Stack × Option Subtree :=
  let isErrorLink (link : StackLink) : Bool := link.subtree.elim false (·.isError)
  if (stack.topNode index).links.any isErrorLink then
    let (popped, slices, _) := walk (fun (found : Bool) _ walker =>
      match walker.subtrees with
      | [] => (found, .goOn)
      | subtrees =>
          if !found && (subtrees.getLast?.elim false (·.isError)) then (true, .pop)
          else (found, .stop)) false stack index
    match slices[0]? with
    | some slice => (popped.renumber slice.version index, slice.subtrees[0]?)
    | none => (popped, none)
  else (stack, none)

/-- Records which states a version could go back to. -/
def recordSummary (stack : Stack) (index : Nat) : Stack :=
  let note (summary : Array SummaryEntry) (node : StackNode) (walker : Walker) :
      Array SummaryEntry × WalkStep :=
    if maxSummaryDepth < walker.count then (summary, .stop)
    else if (summary.toList.reverse.takeWhile fun entry => walker.count ≤ entry.depth).any
        fun entry => entry.depth == walker.count && entry.state == node.state then
      (summary, .goOn)
    else (summary.push ⟨node.place, walker.count, node.state⟩, .goOn)
  let (_, _, summary) := walk note #[] stack index
  stack.modifyVersion index fun version => { version with summary := some summary }

/-- Whether any input has been read since the last error, following the first link down. -/
def hasAdvancedSinceError (stack : Stack) (index : Nat) : Bool :=
  let version := stack.version index
  if (stack.topNode index).errorCost == 0 then true
  else search (stack.nodes.size + 1) version.nodeCountAtLastError version.top
where
  search : Nat → Nat → Nat → Bool
    | 0, _, _ => false
    | fuel + 1, atLastError, index =>
        let node := stack.nodes[index]!
        match node.links[0]? with
        | none => false
        | some link =>
            match link.subtree with
            | none => false
            | some tree =>
                if 0 < tree.totalSize.bytes then true
                else if atLastError < node.nodeCount && tree.errorCost == 0 then
                  search fuel atLastError link.node
                else false

end Stack

end RepoSurvey.Parsing
