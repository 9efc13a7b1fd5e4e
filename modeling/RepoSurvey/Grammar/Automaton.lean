import RepoSurvey.Grammar.Item

/-!
# The automaton of item sets

A state of the full automaton is a set of items, each with the set of tokens that may follow it.
States with the same items share a *core*.  How follow sets pass from a state to its successors
depends only on the core, so it is worked out once per core: the follow set of an item of a
successor is a fixed set of tokens together with the follow sets of some items of the state.
-/

namespace RepoSurvey.Grammar

/-- Where a follow set comes from: fixed tokens, and items of the state given as bits. -/
structure FollowSource where
  tokens : TokenBits
  kernel : Nat
  deriving BEq, Hashable, Inhabited

/-- A transition of a core. -/
structure CoreStep where
  sym : Sym
  target : Nat
  /-- Which of the core's vectors gives the follow sets of the target's items. -/
  vector : Nat
  deriving Inhabited

structure Core where
  /-- The classes of the items, ascending. -/
  kernel : Array Nat
  sources : Array FollowSource := #[]
  /-- Lists of sources, one for each item of a successor. -/
  vectors : Array (Array Nat) := #[]
  /-- In the order of the symbols. -/
  steps : Array CoreStep := #[]
  shiftBits : TokenBits := 0
  /-- The completed items, in their order, with their places in `kernel`. -/
  completed : Array (Nat × Nat) := #[]
  /-- The items under way: the class, and the tokens that can come next. -/
  underWay : Array (Nat × TokenBits) := #[]
  deriving Inhabited

/-- A numbering of sets of tokens, with the unions computed so far. -/
structure FollowPool where
  sets : Array TokenBits := #[]
  index : Std.HashMap UInt64 (List Nat) := {}
  unions : Std.HashMap Nat Nat := {}
  deriving Inhabited

namespace FollowPool

/-- Mixes all bits of a number, 64 at a time. -/
def digest (bits : TokenBits) : UInt64 :=
  (List.range 8).foldl (fun hash block => mixHash hash (bits >>> (64 * block)).toUInt64) 7

def intern (pool : FollowPool) (bits : TokenBits) : FollowPool × Nat :=
  let key := digest bits
  let candidates := pool.index.getD key []
  match candidates.find? fun candidate => pool.sets[candidate]! == bits with
  | some found => (pool, found)
  | none =>
      let fresh := pool.sets.size
      ({ pool with
        sets := pool.sets.push bits
        index := pool.index.insert key (fresh :: candidates) }, fresh)

def union (pool : FollowPool) (left right : Nat) : FollowPool × Nat :=
  if left == right then (pool, left)
  else
    let key := min left right * 16777216 + max left right
    match pool.unions[key]? with
    | some found => (pool, found)
    | none =>
        let bits := pool.sets[left]! ||| pool.sets[right]!
        let (pool, found) := pool.intern bits
        ({ pool with unions := pool.unions.insert key found }, found)

end FollowPool

namespace ItemTable

/-- Orders precedences: unset, then levels, then names. -/
def comparePrecedence : Precedence → Precedence → Ordering
  | .unset, .unset => .eq
  | .unset, _ => .lt
  | _, .unset => .gt
  | .level left, .level right => compare left right
  | .level _, .named _ => .lt
  | .named _, .level _ => .gt
  | .named left, .named right => compare left right

def associativityCode : Option Associativity → Nat
  | none => 0
  | some .left => 1
  | some .right => 2

def compareNames (left right : Step) : Ordering :=
  let aliasKey (step : Step) : String × Nat :=
    match step.shownAs with
    | none => ("", 0)
    | some shown => (shown.name, if shown.isNamed then 2 else 1)
  (compare left.shownAs.isSome right.shownAs.isSome).then <|
    (compare (aliasKey left).1 (aliasKey right).1).then <|
      (compare (aliasKey left).2 (aliasKey right).2).then <|
        (compare left.field.isSome right.field.isSome).then <|
          compare (left.field.getD "") (right.field.getD "")

def compareSteps : List Step → List Step → Ordering
  | left :: lefts, right :: rights => (compareNames left right).then (compareSteps lefts rights)
  | _, _ => .eq

/-- The order in which completed items are considered. -/
def compareCompleted (table : ItemTable) (left right : Nat) : Ordering :=
  let first := table.items[left]!
  let second := table.items[right]!
  let firstProduction := table.productions[first.production]!.production
  let secondProduction := table.productions[second.production]!.production
  (compare first.dot second.dot).then <|
    (compare first.owner second.owner).then <|
      (compare firstProduction.dynamicPrecedence secondProduction.dynamicPrecedence).then <|
        (comparePrecedence first.precedence second.precedence).then <|
          (compare (associativityCode first.associativity)
            (associativityCode second.associativity)).then <|
            compareSteps firstProduction.steps.toList secondProduction.steps.toList

/-- Adds an item to a list ordered by class, joining the sources of equal classes. -/
def addSuccessor (item : Nat) (source : FollowSource) :
    List (Nat × FollowSource) → List (Nat × FollowSource)
  | [] => [(item, source)]
  | (first, known) :: rest =>
      if item == first then
        (first, ⟨known.tokens ||| source.tokens, known.kernel ||| source.kernel⟩) :: rest
      else if item < first then (item, source) :: (first, known) :: rest
      else (first, known) :: addSuccessor item source rest

/-- The items of a core once inlined symbols at their places have been replaced, with the places
in the kernel that they come from. -/
def spread (table : ItemTable) (kernel : Array Nat) : Array (Nat × Nat) := Id.run do
  let mut spreadItems : Array (Nat × Nat) := #[]
  for position in [0:kernel.size] do
    match table.items[kernel[position]!]!.replacements with
    | none => spreadItems := spreadItems.push (kernel[position]!, position)
    | some made => spreadItems := spreadItems ++ made.map (·, position)
  return spreadItems

/-- For each variable that can come next, where the tokens after it come from. -/
def closure (table : ItemTable) (spreadItems : Array (Nat × Nat)) :
    Array (Option FollowSource) := Id.run do
  let mut sources : Array (Option FollowSource) :=
    Array.replicate table.grammar.nonterminals.size none
  for (itemIndex, position) in spreadItems do
    let item := table.items[itemIndex]!
    match item.next with
    | some (.nonterminal root) =>
        let after : FollowSource := match table.items[item.advanced]!.next with
          | some sym => ⟨table.grammar.tokensOf table.firstOf sym, 0⟩
          | none => ⟨0, 1 <<< position⟩
        for opening in table.openings[root]! do
          let known := sources[opening.first]!.getD ⟨0, 0⟩
          let joined : FollowSource :=
            if opening.isWhole then
              ⟨known.tokens ||| opening.follow ||| after.tokens, known.kernel ||| after.kernel⟩
            else ⟨known.tokens ||| opening.follow, known.kernel⟩
          sources := sources.set! opening.first (some joined)
    | _ => pure ()
  return sources

end ItemTable

/-- The automaton while it is being explored. -/
structure Explorer where
  table : ItemTable
  cores : Array Core := #[]
  coreIndex : Std.HashMap (Array Nat) Nat := {}
  /-- How many cores have had their transitions worked out. -/
  isWorkedOut : Array Bool := #[]
  pool : FollowPool := {}
  /-- The fixed follow sets of each core's sources, as numbers in the pool. -/
  fixed : Array (Array Nat) := #[]
  /-- Lists of follow sets, numbered. -/
  vectors : Array (Array Nat) := #[]
  vectorIndex : Std.HashMap (Array Nat) Nat := {}
  /-- The states: core and vector of follow sets. -/
  states : Array (Nat × Nat) := #[]
  stateIndex : Std.HashMap Nat Nat := {}
  /-- For each state, the target of each transition of its core. -/
  targets : Array (Array Nat) := #[]
  deriving Inhabited

namespace Explorer

def internCore (explorer : Explorer) (kernel : Array Nat) : Explorer × Nat :=
  match explorer.coreIndex[kernel]? with
  | some found => (explorer, found)
  | none =>
      let fresh := explorer.cores.size
      ({ explorer with
        cores := explorer.cores.push { kernel }
        coreIndex := explorer.coreIndex.insert kernel fresh
        isWorkedOut := explorer.isWorkedOut.push false
        fixed := explorer.fixed.push #[] }, fresh)

def internVector (explorer : Explorer) (vector : Array Nat) : Explorer × Nat :=
  match explorer.vectorIndex[vector]? with
  | some found => (explorer, found)
  | none =>
      let fresh := explorer.vectors.size
      ({ explorer with
        vectors := explorer.vectors.push vector
        vectorIndex := explorer.vectorIndex.insert vector fresh }, fresh)

def internState (explorer : Explorer) (core vector : Nat) : Explorer × Nat :=
  let key := core * 4294967296 + vector
  match explorer.stateIndex[key]? with
  | some found => (explorer, found)
  | none =>
      let fresh := explorer.states.size
      ({ explorer with
        states := explorer.states.push (core, vector)
        stateIndex := explorer.stateIndex.insert key fresh }, fresh)

/-- Works out the transitions of a core. -/
def workOut (explorer : Explorer) (coreIndex : Nat) : Explorer := Id.run do
  let table := explorer.table
  let kernel := explorer.cores[coreIndex]!.kernel
  let spreadItems := table.spread kernel
  let closed := table.closure spreadItems
  let mut buckets : Array (List (Nat × FollowSource)) := Array.replicate table.symCount []
  let mut completed : Array (Nat × Nat) := #[]
  let mut underWay : Array (Nat × TokenBits) := #[]
  for (itemIndex, position) in spreadItems do
    let item := table.items[itemIndex]!
    match item.next with
    | none => completed := completed.push (itemIndex, position)
    | some sym =>
        if 0 < item.dot then
          underWay := underWay.push (itemIndex, table.grammar.tokensOf table.firstOf sym)
        buckets := buckets.modify (table.symCode sym) fun bucket =>
          ItemTable.addSuccessor item.advanced ⟨0, 1 <<< position⟩ bucket
  for variableIndex in [0:closed.size] do
    match closed[variableIndex]! with
    | none => pure ()
    | some source =>
        if !table.grammar.isInlined (.nonterminal variableIndex) then
          for itemIndex in table.startItems[variableIndex]! do
            let item := table.items[itemIndex]!
            match item.next with
            | none =>
                -- Only the whole document can be empty, so what follows it is the end.
                completed := completed.push (itemIndex, 0)
            | some sym =>
                buckets := buckets.modify (table.symCode sym) fun bucket =>
                  ItemTable.addSuccessor item.advanced source bucket
  let mut result := explorer
  let mut sources : Array FollowSource := #[]
  let mut sourceIndex : Std.HashMap FollowSource Nat := {}
  let mut vectors : Array (Array Nat) := #[]
  let mut vectorIndex : Std.HashMap (Array Nat) Nat := {}
  let mut steps : Array CoreStep := #[]
  let mut shiftBits : TokenBits := 0
  for code in [0:buckets.size] do
    match buckets[code]! with
    | [] => pure ()
    | bucket =>
        let mut targetKernel : Array Nat := #[]
        let mut vector : Array Nat := #[]
        for (itemIndex, source) in bucket do
          targetKernel := targetKernel.push itemIndex
          match sourceIndex[source]? with
          | some found => vector := vector.push found
          | none =>
              vector := vector.push sources.size
              sourceIndex := sourceIndex.insert source sources.size
              sources := sources.push source
        let externals := table.grammar.externals.size
        let tokens := table.grammar.tokens.size
        let sym : Sym :=
          if code < externals then .external code
          else if code < externals + 1 + tokens then .terminal (code - externals - 1)
          else .nonterminal (code - externals - 1 - tokens)
        if !sym.isNonterminal then
          shiftBits := shiftBits ||| 1 <<< table.grammar.bitOf sym
        let vectorNumber := vectorIndex.getD vector vectors.size
        if vectorNumber == vectors.size then
          vectorIndex := vectorIndex.insert vector vectors.size
          vectors := vectors.push vector
        let (grown, target) := result.internCore targetKernel
        result := grown
        steps := steps.push ⟨sym, target, vectorNumber⟩
  let mut fixed : Array Nat := #[]
  let mut pool := result.pool
  result := { result with pool := {} }
  for source in sources do
    let (grown, number) := pool.intern source.tokens
    pool := grown
    fixed := fixed.push number
  let ordered := (completed.toList.mergeSort fun left right =>
    table.compareCompleted left.1 right.1 != .gt).toArray
  let core : Core :=
    { kernel, sources, vectors, steps, shiftBits, completed := ordered, underWay }
  return { result with
    pool
    fixed := result.fixed.set! coreIndex fixed
    cores := result.cores.set! coreIndex core
    isWorkedOut := result.isWorkedOut.set! coreIndex true }

/-- The follow set that a source stands for in a state. -/
def evaluate (pool : FollowPool) (follow : Array Nat) (fixed kernelBits : Nat) : FollowPool × Nat :=
  Id.run do
    let mut pool := pool
    let mut value := fixed
    for position in [0:follow.size] do
      if kernelBits.testBit position then
        let (grown, joined) := pool.union value follow[position]!
        pool := grown
        value := joined
    return (pool, value)

/-- Works out the targets of one state. -/
def expandState (explorer : Explorer) (index : Nat) : Explorer := Id.run do
  let (coreNumber, vector) := explorer.states[index]!
  let mut result := explorer
  if !result.isWorkedOut[coreNumber]! then
    result := result.workOut coreNumber
  let core := result.cores[coreNumber]!
  let fixed := result.fixed[coreNumber]!
  let follow := result.vectors[vector]!
  let mut pool := result.pool
  result := { result with pool := {} }
  let mut values : Array Nat := #[]
  for number in [0:core.sources.size] do
    let (grown, value) := evaluate pool follow fixed[number]! core.sources[number]!.kernel
    pool := grown
    values := values.push value
  let mut vectorNumbers : Array Nat := #[]
  for sourceVector in core.vectors do
    let (grown, number) := result.internVector (sourceVector.map (values[·]!))
    result := grown
    vectorNumbers := vectorNumbers.push number
  let mut targets : Array Nat := #[]
  for step in core.steps do
    let (grown, target) := result.internState step.target vectorNumbers[step.vector]!
    result := grown
    targets := targets.push target
  return { result with pool, targets := result.targets.push targets }

/-- The whole automaton: state 0 is the empty one, used after errors, and state 1 the first. -/
def run (table : ItemTable) : Explorer := Id.run do
  let mut explorer : Explorer := { table }
  let (withEmpty, emptyCore) := explorer.internCore #[]
  let (withStart, startCore) := withEmpty.internCore #[table.root]
  let (pool, atEnd) := withStart.pool.intern (1 <<< table.grammar.finishBit)
  let (withNone, noFollow) := { withStart with pool }.internVector #[]
  let (withEnd, startFollow) := withNone.internVector #[atEnd]
  explorer := ((withEnd.internState emptyCore noFollow).1.internState startCore startFollow).1
  for index in [0:1000000] do
    if explorer.states.size ≤ index then break
    explorer := explorer.expandState index
  return explorer

end Explorer

end RepoSurvey.Grammar
