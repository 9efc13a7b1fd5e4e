import RepoSurvey.Parsing.Lexer

/-!
# Parsing

A table-driven parser that follows several readings at once and never gives up on an input.  At a
token for which a reading has no action the reading pauses.  When nothing better is left, it is
taken up again: either a token is made up that lets the reading go on, or input is skipped until a
token comes that some earlier state of the stack can use.  Readings compete by the cost of what was
made up or skipped.
-/

namespace RepoSurvey.Parsing

def maxVersions : Nat := 6

def maxVersionOverflow : Nat := 4

def maxCostDifference : Nat := 18 * costPerSkippedTree

/-- The token read last, for versions that arrive at the same place. -/
structure CachedToken where
  bytes : Nat
  scannerState : ScannerState
  token : Subtree

structure Parser where
  language : Language
  source : Source
  /-- For each byte position at a character's start, the number of that character. -/
  offsets : Array Nat
  stack : Stack := .initial
  cache : Option CachedToken := none
  finished : Option Subtree := none
  acceptCount : Nat := 0

/-- How well a version does. -/
structure VersionRank where
  cost : Nat
  nodeCount : Nat
  dynamicPrecedence : Int
  isInError : Bool

inductive Comparison
  | takeLeft
  | preferLeft
  | same
  | preferRight
  | takeRight
  deriving BEq

namespace VersionRank

def compareTo (left right : VersionRank) : Comparison :=
  if !left.isInError && right.isInError then
    if left.cost < right.cost then .takeLeft else .preferLeft
  else if left.isInError && !right.isInError then
    if right.cost < left.cost then .takeRight else .preferRight
  else if left.cost < right.cost then
    if maxCostDifference < (right.cost - left.cost) * (1 + left.nodeCount) then .takeLeft
    else .preferLeft
  else if right.cost < left.cost then
    if maxCostDifference < (left.cost - right.cost) * (1 + right.nodeCount) then .takeRight
    else .preferRight
  else if right.dynamicPrecedence < left.dynamicPrecedence then .preferLeft
  else if left.dynamicPrecedence < right.dynamicPrecedence then .preferRight
  else .same

end VersionRank

namespace Stack

def rank (stack : Stack) (index : Nat) : VersionRank :=
  let isPaused := stack.isPaused index
  { cost := stack.errorCost index + if isPaused then costPerSkippedTree else 0
    nodeCount := stack.nodeCountSinceError index
    dynamicPrecedence := stack.dynamicPrecedence index
    isInError := isPaused || stack.state index == errorState }

end Stack

namespace Parser

def table (parser : Parser) : ParseTable := parser.language.table

def modifyStack (parser : Parser) (change : Stack → Stack) : Parser :=
  let stack := parser.stack
  { { parser with stack := default } with stack := change stack }

/-- Whether `right` is to be taken instead of `left`. -/
def selectsRight (left right : Subtree) : Bool :=
  if right.errorCost < left.errorCost then true
  else if left.errorCost < right.errorCost then false
  else if left.head.dynamicPrecedence < right.head.dynamicPrecedence then true
  else if right.head.dynamicPrecedence < left.head.dynamicPrecedence then false
  else if 0 < left.errorCost then true
  else left.compareTo right == .gt

/-- Cuts the extras off the end. -/
def splitTrailingExtras (subtrees : Array Subtree) : Array Subtree × Array Subtree :=
  let count := (subtrees.toList.reverse.takeWhile (·.isExtra)).length
  (subtrees.extract 0 (subtrees.size - count), subtrees.extract (subtrees.size - count) subtrees.size)

/-! ## Reducing -/

/-- Reduces a version in every possible way. The result says where the versions made start. -/
def reduce (parser : Parser) (index symbol count : Nat) (dynamicPrecedence : Int) (info : Nat) :
    Parser × Option Nat := Id.run do
  let table := parser.table
  let initialCount := parser.stack.count
  let stack := parser.stack
  let rest := { parser with stack := default }
  let (popped, slices) := stack.popCount index count
  let mut stack := popped
  let mut removed := 0
  let mut position := 0
  for _ in [0:slices.size] do
    if slices.size ≤ position then break
    let slice := slices[position]!
    let version := slice.version - removed
    position := position + 1
    if maxVersions + maxVersionOverflow < version then
      stack := stack.remove version
      removed := removed + 1
      for _ in [position:slices.size] do
        if position < slices.size && slices[position]!.version == slice.version then
          position := position + 1
        else break
    else
      let (children, extras) := splitTrailingExtras slice.subtrees
      let mut parent := Subtree.ofChildren table symbol info children
      let mut trailing := extras
      for _ in [position:slices.size] do
        if position < slices.size && slices[position]!.version == slice.version then
          let (others, otherExtras) := splitTrailingExtras slices[position]!.subtrees
          position := position + 1
          if selectsRight parent (Subtree.ofChildren table symbol 0 others) then
            parent := Subtree.ofChildren table symbol info others
            trailing := otherExtras
        else break
      let next := table.next (stack.state version) symbol
      let head := parent.head
      let finished := Subtree.node
        { head with dynamicPrecedence := head.dynamicPrecedence + dynamicPrecedence } parent.children
      stack := stack.push version (some finished) next
      for extra in trailing do
        stack := stack.push version (some extra) next
      for other in [0:version] do
        if other != index then
          let (merged, didMerge) := stack.merge other version
          stack := merged
          if didMerge then
            removed := removed + 1
            break
  let made := if initialCount < stack.count then some initialCount else none
  return ({ rest with stack }, made)

/-- One of the reductions that a state allows. -/
structure PossibleReduction where
  symbol : Nat
  count : Nat
  dynamicPrecedence : Int
  info : Nat

/-- Whether a state shifts one of the tokens `symbols`, and the distinct reductions it allows. -/
def possibilities (table : ParseTable) (state : Nat) (symbols : List Nat) :
    Bool × Array PossibleReduction := Id.run do
  let mut shifts := false
  let mut reductions : Array PossibleReduction := #[]
  for symbol in symbols do
    for action in table.actions state symbol do
      match action with
      | .shift _ isRepetition => if !isRepetition then shifts := true
      | .recover => shifts := true
      | .reduce target count dynamicPrecedence info =>
          if 0 < count && !(reductions.any fun known =>
              known.symbol == target && known.count == count) then
            reductions := reductions.push ⟨target, count, dynamicPrecedence, info⟩
      | _ => pure ()
  return (shifts, reductions)

/-- Performs all reductions that are possible from a version on, at one token or at any token. Says
whether the token can be shifted afterwards. -/
def reduceAll (parser : Parser) (start : Nat) (lookahead : Option Nat) : Parser × Bool := Id.run do
  let table := parser.table
  let initialCount := parser.stack.count
  let symbols := match lookahead with
    | some symbol => [symbol]
    | none => (List.range table.tokenCount).drop 1
  let mut parser := parser
  let mut canShift := false
  let mut version := start
  for round in [0:100000] do
    let count := parser.stack.count
    if count ≤ version then break
    let mut merged := false
    for other in [initialCount:version] do
      let (stack, didMerge) := parser.stack.merge other version
      if didMerge then
        parser := { parser with stack }
        merged := true
        break
    if merged then continue
    let state := parser.stack.state version
    let (shifts, reductions) := possibilities table state symbols
    let mut made : Option Nat := none
    for reduction in reductions do
      let (reduced, first) := parser.reduce version reduction.symbol reduction.count
        reduction.dynamicPrecedence reduction.info
      parser := reduced
      made := first
    let mut again := false
    if shifts then canShift := true
    else
      match made with
      | some first =>
          if round < maxVersions then
            parser := parser.modifyStack (·.renumber first version)
            again := true
          else if lookahead.isSome then parser := parser.modifyStack (·.remove version)
      | none => if lookahead.isSome then parser := parser.modifyStack (·.remove version)
    if !again then
      version := if version == start then count else version + 1
  return (parser, canShift)

/-! ## Accepting -/

/-- Takes the whole stack of a version for a finished tree, if it is better than the one there. -/
def accept (parser : Parser) (index : Nat) (lookahead : Subtree) : Parser := Id.run do
  let table := parser.table
  let pushed := parser.stack.push index (some lookahead) 1
  let (popped, slices) := pushed.popAll index
  let mut finished := parser.finished
  let mut acceptCount := parser.acceptCount
  for slice in slices do
    let trees := slice.subtrees
    let position := (List.range trees.size).reverse.find? fun position => !trees[position]!.isExtra
    match position with
    | none => pure ()
    | some position =>
        let tree := trees[position]!
        let children := trees.extract 0 position ++ tree.children ++
          trees.extract (position + 1) trees.size
        let root := Subtree.ofChildren table tree.symbol tree.head.info children
        acceptCount := acceptCount + 1
        match finished with
        | none => finished := some root
        | some kept => if selectsRight kept root then finished := some root
  let first := match slices[0]? with
    | some slice => slice.version
    | none => popped.count
  return { parser with
    stack := (popped.remove first).halt index
    finished
    acceptCount }

/-! ## Recovering from errors -/

/-- Whether another version does clearly better than this one would at the given cost. -/
def betterVersionExists (parser : Parser) (index : Nat) (isInError : Bool) (cost : Nat) : Bool :=
  let stack := parser.stack
  let finishedIsBetter := match parser.finished with
    | some tree => decide (tree.errorCost ≤ cost)
    | none => false
  finishedIsBetter ||
    let place := stack.place index
    let own : VersionRank :=
      { cost
        nodeCount := stack.nodeCountSinceError index
        dynamicPrecedence := stack.dynamicPrecedence index
        isInError }
    (List.range stack.count).any fun other =>
      if other == index || !stack.isActive other || (stack.place other).bytes < place.bytes then false
      else
        match own.compareTo (stack.rank other) with
        | .takeRight => true
        | .preferRight => stack.canMerge other index
        | _ => false

/-- Brings the counts of nodes since the last error up to date. -/
def settle (parser : Parser) : Parser :=
  parser.modifyStack fun stack =>
    (List.range stack.count).foldl (fun stack index => stack.settleNodeCount index) stack

/-- Goes back to an earlier state, with everything since then in an error node. -/
def recoverToState (parser : Parser) (index depth goal : Nat) : Parser × Bool := Id.run do
  let table := parser.table
  let (popped, slices) := parser.stack.popCount index depth
  let mut stack := popped
  let mut previous : Option Nat := none
  for slice in slices do
    if previous == some slice.version then continue
    if stack.state slice.version != goal then
      stack := stack.halt slice.version
    else
      let (withoutError, errorTree) := stack.popError slice.version
      stack := withoutError
      let subtrees := match errorTree with
        | some tree => tree.children ++ slice.subtrees
        | none => slice.subtrees
      let (skipped, extras) := splitTrailingExtras subtrees
      if !skipped.isEmpty then
        stack := stack.push slice.version (some (Subtree.ofSkipped table skipped true)) goal
      for extra in extras do
        stack := stack.push slice.version (some extra) goal
      previous := some slice.version
  return ({ parser with stack }, previous.isSome)

/-- Removes the versions from `first` on that are not active. -/
def removeInactive (stack : Stack) (first : Nat) : Stack :=
  (List.range stack.count).reverse.foldl (fun stack index =>
    if first ≤ index && !stack.isActive index then stack.remove index else stack) stack

/-- Tries to use a token in an earlier state. -/
def recoverWithSummary (parser : Parser) (index : Nat) (lookahead : Subtree) : Parser × Bool := Id.run do
  let table := parser.table
  let stack := parser.stack
  let count := stack.count
  let place := stack.place index
  let nodeCount := stack.nodeCountSinceError index
  let cost := stack.errorCost index
  match (stack.version index).summary with
  | none => return (parser, false)
  | some summary =>
      if lookahead.isError then return (parser, false)
      let mut parser := parser
      for entry in summary do
        if entry.state == errorState || entry.place.bytes == place.bytes then continue
        let depth := if 0 < nodeCount then entry.depth + 1 else entry.depth
        let wouldMerge := (List.range count).any fun other =>
          parser.stack.state other == entry.state && (parser.stack.place other).bytes == place.bytes
        if wouldMerge then continue
        let newCost := cost + costPerSkippedTree * entry.depth +
          costPerSkippedChar * (place.bytes - entry.place.bytes) +
          costPerSkippedLine * (place.row - entry.place.row)
        if parser.betterVersionExists index false newCost then break
        if !(table.actions entry.state lookahead.symbol).isEmpty then
          let (recovered, didRecover) := parser.recoverToState index depth entry.state
          parser := recovered
          if didRecover then return (parser, true)
      return (parser, false)

/-- Uses a token in an earlier state if possible, and also goes on as if it had been skipped. -/
def recover (parser : Parser) (index : Nat) (lookahead : Subtree) : Parser := Id.run do
  let table := parser.table
  let parser := parser.settle
  let previousCount := parser.stack.count
  let nodeCount := parser.stack.nodeCountSinceError index
  let cost := parser.stack.errorCost index
  let (recovered, didRecover) := parser.recoverWithSummary index lookahead
  let parser := recovered.modifyStack (removeInactive · previousCount)
  if didRecover && maxVersions < parser.stack.count then
    return parser.modifyStack (·.halt index)
  if didRecover && lookahead.head.scannerStateChanged then
    return parser.modifyStack (·.halt index)
  if lookahead.symbol == 0 then
    let wrapped := Subtree.ofSkipped table #[] false
    return (parser.modifyStack (·.push index (some wrapped) 1)).accept index lookahead
  let newCost := cost + costPerSkippedTree + lookahead.totalSize.bytes * costPerSkippedChar +
    lookahead.totalSize.row * costPerSkippedLine
  if parser.betterVersionExists index false newCost then
    return parser.modifyStack (·.halt index)
  let isExtra := match (table.actions 1 lookahead.symbol).getLast? with
    | some .shiftExtra => true
    | _ => false
  let skipped := if isExtra then lookahead.withExtra true else lookahead
  let alone := Subtree.ofChildren table errorRepeatSymbol 0 #[skipped]
  let mut stack := parser.stack
  let mut joined := alone
  if 0 < nodeCount then
    let (popped, slices) := stack.popCount index 1
    stack := popped
    match slices[0]? with
    | none => pure ()
    | some slice =>
        if 1 < slices.size then
          for _ in [0:stack.count] do
            if slice.version + 1 < stack.count then stack := stack.remove (slice.version + 1)
        stack := stack.renumber slice.version index
        joined := Subtree.ofChildren table errorRepeatSymbol 0 (slice.subtrees.push alone)
  stack := stack.push index (some joined) errorState
  match lookahead.head.scannerState with
  | some state => stack := stack.setScannerState index state
  | none => pure ()
  return { parser with stack }

/-- Makes up a token after which the lookahead can be used, on a copy of a version. Before the end
of input it is enough that some token can be used. -/
def insertMissing (parser : Parser) (index : Nat) (lookahead : Subtree) : Parser × Bool := Id.run do
  let table := parser.table
  let state := parser.stack.state index
  let mut parser := parser
  for symbol in [1:table.tokenCount] do
    let after := table.next state symbol
    if after == 0 || after == state then continue
    match (table.actions after lookahead.symbol).head? with
    | some (.reduce ..) =>
        let copy := parser.stack.count
        let isVisible := (table.symbol symbol).isVisible
        let missing := Subtree.node { symbol, isVisible, isMissing := true } #[]
        let (reduced, canShift) :=
          (parser.modifyStack fun stack =>
            (stack.copyVersion index).push copy (some missing) after).reduceAll copy
              (if lookahead.symbol == 0 then none else some lookahead.symbol)
        parser := reduced
        if canShift then return (parser, true)
    | _ => pure ()
  return (parser, false)

/-- Starts to recover from an error in a version. -/
def handleError (parser : Parser) (index : Nat) (lookahead : Subtree) : Parser := Id.run do
  let previousCount := parser.stack.count
  let mut parser := (parser.reduceAll index none).1
  let count := parser.stack.count
  let mut didInsert := false
  let mut version := index
  for _ in [0:count + 1] do
    if count ≤ version then break
    if !didInsert then
      let (inserted, done) := parser.insertMissing version lookahead
      parser := inserted
      didInsert := done
    parser := parser.modifyStack (·.push version none errorState)
    version := if version == index then previousCount else version + 1
  for _ in [previousCount:count] do
    parser := { parser with stack := (parser.stack.merge index previousCount).1 }
  return (parser.modifyStack (·.recordSummary index)).recover index lookahead

/-! ## Advancing -/

/-- Whether a token read in another state can be used in this one. -/
def canReuse (parser : Parser) (state : Nat) (token : Subtree) : Bool :=
  let table := parser.table
  let entry := table.entry state token.symbol
  let readIn := token.head.parseState
  let sameLexer := table.lexStart[readIn]! == table.lexStart[state]! &&
    table.externalSets[readIn]! == table.externalSets[state]!
  if !entry.actions.isEmpty && sameLexer &&
      (table.word != some token.symbol || (!token.head.isKeyword && readIn == state)) then true
  else if token.head.size.bytes == 0 && token.symbol != 0 then false
  else table.externalSets[state]!.isNone && entry.isReusable

/-- The next token of a version. -/
def lookaheadOf (parser : Parser) (index state : Nat) : Parser × Subtree :=
  let bytes := (parser.stack.place index).bytes
  let scannerState := (parser.stack.version index).scannerState
  let cached := match parser.cache with
    | some cached =>
        if cached.bytes == bytes && cached.scannerState == scannerState &&
            parser.canReuse state cached.token then some cached.token else none
    | none => none
  match cached with
  | some token => (parser, token)
  | none =>
      let token := parser.language.readToken parser.stack index state parser.source parser.offsets
      ({ parser with cache := some ⟨bytes, scannerState, token⟩ }, token)

def shift (parser : Parser) (index state : Nat) (lookahead : Subtree) (isExtra : Bool) : Parser :=
  parser.modifyStack fun stack =>
    let pushed := stack.push index (some (lookahead.withExtra isExtra)) state
    match lookahead.head.scannerState with
    | some scannerState => pushed.setScannerState index scannerState
    | none => pushed

/-- What came of trying the actions for a token. -/
inductive ActionResult
  | done
  | reduced (firstVersion : Nat)
  | nothing

/-- Performs the actions for a token: all reductions, up to the first other action. -/
def perform (parser : Parser) (index state : Nat) (lookahead : Subtree) :
    List Action → Option Nat → Parser × ActionResult
  | [], none => (parser, .nothing)
  | [], some version => (parser, .reduced version)
  | action :: rest, last =>
      match action with
      | .shift next isRepetition =>
          if isRepetition then perform parser index state lookahead rest last
          else (parser.shift index next lookahead false, .done)
      | .shiftExtra => (parser.shift index state lookahead true, .done)
      | .reduce symbol count dynamicPrecedence info =>
          let (reduced, made) := parser.reduce index symbol count dynamicPrecedence info
          perform reduced index state lookahead rest (made <|> last)
      | .accept => (parser.accept index lookahead, .done)
      | .recover => (parser.recover index lookahead, .done)

/-- Processes the lookahead of a version until it has been used up. -/
def process (parser : Parser) (index : Nat) : Nat → Subtree → Parser
  | 0, _ => parser.modifyStack (·.halt index)
  | fuel + 1, lookahead =>
      let state := parser.stack.state index
      let table := parser.table
      match parser.perform index state lookahead (table.actions state lookahead.symbol) none with
      | (parser, .done) => parser
      | (parser, .reduced version) =>
          process (parser.modifyStack (·.renumber version index)) index fuel lookahead
      | (parser, .nothing) =>
          let asWord := match table.word with
            | some word =>
                if lookahead.head.isKeyword && lookahead.symbol != word &&
                    !(table.actions state word).isEmpty then some word else none
            | none => none
          match asWord with
          | some word =>
              let head := lookahead.head
              let isVisible := (table.symbol word).isVisible
              process parser index fuel
                (.node { head with symbol := word, isVisible } lookahead.children)
          | none =>
              if state == errorState then parser.recover index lookahead
              else parser.modifyStack (·.pause index lookahead)

/-- Reads and processes one token. -/
def advance (parser : Parser) (index : Nat) : Parser :=
  let (parser, lookahead) := parser.lookaheadOf index (parser.stack.state index)
  parser.process index (64 * (parser.stack.nodes.size + 64)) lookahead

/-! ## The main loop -/

/-- Brings the versions into order and removes those that are clearly worse than others. -/
def sortVersions (parser : Parser) : Parser × Option Nat := Id.run do
  let mut stack := parser.stack
  let mut minimum : Option Nat := none
  let mut index := 0
  for _ in [0:4096] do
    if stack.count ≤ index then break
    if stack.isHalted index then
      stack := stack.remove index
      continue
    stack := stack.settleNodeCount index
    let rank := stack.rank index
    if !rank.isInError && (match minimum with
        | some least => decide (rank.cost < least)
        | none => true) then
      minimum := some rank.cost
    let mut other := 0
    let mut removedOwn := false
    for _ in [0:4096] do
      if removedOwn || index ≤ other then break
      stack := stack.settleNodeCount other
      match (stack.rank other).compareTo rank with
      | .takeLeft =>
          stack := stack.remove index
          removedOwn := true
      | .preferLeft | .same =>
          let (merged, didMerge) := stack.merge other index
          stack := merged
          if didMerge then removedOwn := true else other := other + 1
      | .preferRight =>
          let (merged, didMerge) := stack.merge other index
          stack := merged
          if didMerge then removedOwn := true
          else
            stack := stack.swap index other
            other := other + 1
      | .takeRight =>
          stack := stack.remove other
          index := index - 1
    if !removedOwn then index := index + 1
  for _ in [0:stack.count] do
    if maxVersions < stack.count then stack := stack.remove maxVersions
  return ({ parser with stack }, minimum)

/-- Orders the versions and, if nothing better is left, takes up the best one that has paused. Gives
the least cost of a version. -/
def condense (parser : Parser) : Parser × Option Nat := Id.run do
  let (sorted, least) := parser.sortVersions
  let mut parser := sorted
  let mut minimum := least
  let mut hasUnpaused := false
  let mut index := 0
  let mut limit := parser.stack.count
  for _ in [0:4096] do
    if limit ≤ index then break
    match (parser.stack.version index).status with
    | .paused lookahead =>
        if !hasUnpaused && parser.acceptCount < maxVersions then
          minimum := some (parser.stack.errorCost index)
          parser := (parser.modifyStack (·.resume index)).handleError index lookahead
          hasUnpaused := true
          index := index + 1
        else
          parser := parser.modifyStack (·.remove index)
          limit := limit - 1
    | _ =>
        hasUnpaused := true
        index := index + 1
  return (parser, minimum)

/-- Advances each version, as far as the version before it has come. Gives the number of versions
left as well. -/
def advanceAll (parser : Parser) (lastBytes : Nat) (fuel : Nat) : Parser × Nat × Nat := Id.run do
  let mut parser := parser
  let mut lastBytes := lastBytes
  let mut version := 0
  for _ in [0:fuel] do
    if parser.stack.count ≤ version then break
    for _ in [0:fuel] do
      if !parser.stack.isActive version then break
      parser := parser.advance version
      let bytes := (parser.stack.place version).bytes
      if lastBytes < bytes || (0 < version && bytes == lastBytes) then
        lastBytes := bytes
        break
    version := version + 1
  return (parser, lastBytes, parser.stack.count)

/-- Rounds of advancing and ordering, until a finished tree is at least as good as what is left. -/
def rounds (parser : Parser) : Nat → Nat → Option Subtree
  | 0, _ => parser.finished
  | fuel + 1, lastBytes =>
      let limit := 64 * (parser.source.size + 64)
      let (advanced, lastBytes, count) := parser.advanceAll lastBytes limit
      let (condensed, minimum) := advanced.condense
      let isDone := match condensed.finished with
        | some tree =>
            match minimum with
            | some least => decide (tree.errorCost < least)
            | none => true
        | none => false
      if isDone || count == 0 then condensed.finished
      else rounds condensed fuel lastBytes

end Parser

/-- For each byte position at the start of a character, the number of that character. -/
def Source.offsets (source : Source) : Array Nat := Id.run do
  let mut offsets : Array Nat := #[]
  for index in [0:source.size] do
    for _ in [0:source[index]!.utf8Size] do
      offsets := offsets.push index
  return offsets.push source.size

namespace Language

/-- The syntax tree of a text, with hidden nodes. -/
def subtree? (language : Language) (source : Source) : Option Subtree :=
  let parser : Parser := { language, source, offsets := source.offsets }
  parser.rounds (64 * (source.size + 64)) 0

end Language

end RepoSurvey.Parsing
