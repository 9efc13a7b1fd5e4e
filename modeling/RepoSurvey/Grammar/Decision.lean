import RepoSurvey.Grammar.Automaton

/-!
# Decisions

What a state does at each token: shift it, reduce by completed items, or several of these at once
when the grammar leaves the choice open.  Competing reductions are weeded out by precedence as they
are met; a shift that competes with reductions is weighed by precedence and then associativity.
-/

namespace RepoSurvey.Grammar

/-- A reduction by a completed item. -/
structure Reduction where
  variableIndex : Nat
  childCount : Nat
  dynamicPrecedence : Int
  info : Nat
  deriving BEq, DecidableEq, Hashable, Inhabited, Repr

inductive ShiftKind
  | none
  | plain
  /-- The shift competes with the reduction of a repetition, which is always preferred. -/
  | repetition
  /-- The token is skipped over. -/
  | extra
  deriving BEq, DecidableEq, Hashable, Inhabited, Repr

/-- What is done at a token. An accepted document is an `accept`. -/
structure Decision where
  accepts : Bool := false
  reductions : List Reduction := []
  shift : ShiftKind := .none
  deriving BEq, DecidableEq, Hashable, Inhabited, Repr

namespace Normal

def matchesRank (grammar : Normal) (precedence : Precedence) (owners : List Nat) : Rank → Bool
  | .named name => precedence == .named name
  | .symbol name => owners.any fun owner => grammar.nonterminals[owner]!.name == name

/-- Which of two rules comes first in one ordering, if both are in it. -/
def compareInRanking (isLeft isRight : Rank → Bool) :
    List Rank → Bool → Bool → Option Ordering
  | [], _, _ => none
  | rank :: rest, sawLeft, sawRight =>
      if isLeft rank then
        if sawRight then some .lt else compareInRanking isLeft isRight rest true sawRight
      else if isRight rank then
        if sawLeft then some .gt else compareInRanking isLeft isRight rest sawLeft true
      else compareInRanking isLeft isRight rest sawLeft sawRight

/-- How the binding of one rule compares with that of another. -/
def compareBinding (grammar : Normal) (left : Precedence) (leftOwners : List Nat)
    (right : Precedence) (rightOwners : List Nat) : Ordering :=
  let ranked : Ordering :=
    (grammar.rankings.findSome? fun ranking =>
      compareInRanking (grammar.matchesRank left leftOwners)
        (grammar.matchesRank right rightOwners) ranking false false).getD .eq
  match left, right with
  | .level first, .level second =>
      if first != 0 || second != 0 then compare first second else ranked
  | .level first, .unset => if first != 0 then compare first 0 else ranked
  | .unset, .level second => if second != 0 then compare 0 second else ranked
  | _, _ => ranked

end Normal

/-- The reductions kept so far at a token. -/
structure Kept where
  accepts : Bool := false
  reductions : List Reduction := []
  precedence : Precedence := .unset
  owners : List Nat := []
  anyLeft : Bool := false
  anyRight : Bool := false
  anyUnbound : Bool := false
  competes : Bool := false
  deriving Inhabited

namespace Kept

def note (kept : Kept) (item : Item) : Kept :=
  { kept with
    precedence := item.precedence
    owners := if kept.owners.contains item.owner then kept.owners else kept.owners ++ [item.owner]
    anyLeft := kept.anyLeft || item.associativity == some .left
    anyRight := kept.anyRight || item.associativity == some .right
    anyUnbound := kept.anyUnbound || item.associativity.isNone }

/-- Adds the reduction by a completed item, unless one that binds more strongly is there. -/
def add (table : ItemTable) (kept : Kept) (itemIndex : Nat) : Kept :=
  let item := table.items[itemIndex]!
  let isRoot := item.owner == table.grammar.nonterminals.size
  let reduction : Reduction :=
    { variableIndex := item.owner
      childCount := item.dot
      dynamicPrecedence := table.productions[item.production]!.production.dynamicPrecedence
      info := table.infoOf[item.production]! }
  if isRoot then { kept with accepts := true }
  else if kept.reductions.isEmpty then { kept with reductions := [reduction] }.note item
  else
    match table.grammar.compareBinding item.precedence [item.owner] kept.precedence kept.owners with
    | .gt => { reductions := [reduction] : Kept }.note item
    | .eq => { kept with
        reductions := kept.reductions ++ [reduction]
        competes := true }.note item
    | .lt => kept

end Kept

namespace Explorer

/-- Weighs the reductions kept at a token against a shift of that token. The last part of the
answer lists the variables between which the grammar leaves the choice open. -/
def weigh (explorer : Explorer) (core : Core) (token : Nat) (kept : Kept) (completed : List Nat) :
    Decision × List Nat :=
  let table := explorer.table
  let contenders := core.underWay.toList.filter fun entry => entry.2.testBit token
  let owners := contenders.map (fun entry => table.items[entry.1]!.owner) ++
    completed.map fun itemIndex => table.items[itemIndex]!.owner
  let reductions := kept.reductions
  match owners with
  | [] => ({ accepts := kept.accepts, reductions, shift := .plain }, [])
  | first :: _ =>
      if table.grammar.nonterminals[first]!.visibility == .auxiliary && owners.all (· == first) then
        ({ accepts := kept.accepts, reductions, shift := .repetition }, [])
      else
        let comparisons := contenders.map fun entry =>
          let item := table.items[entry.1]!
          table.grammar.compareBinding item.precedence [item.owner] kept.precedence kept.owners
        let shiftIsMore := comparisons.contains .gt
        let shiftIsLess := comparisons.contains .lt
        let completedOwners := completed.map fun itemIndex => table.items[itemIndex]!.owner
        if shiftIsMore && !shiftIsLess then ({ shift := .plain }, [])
        else if shiftIsLess && !shiftIsMore then
          ({ accepts := kept.accepts, reductions },
            if reductions.length == 1 then [] else completedOwners)
        else if !shiftIsLess && !shiftIsMore && kept.anyLeft && !kept.anyUnbound && !kept.anyRight
        then
          ({ accepts := kept.accepts, reductions },
            if reductions.length == 1 then [] else completedOwners)
        else if !shiftIsLess && !shiftIsMore && kept.anyRight && !kept.anyUnbound && !kept.anyLeft
        then ({ shift := .plain }, [])
        else ({ accepts := kept.accepts, reductions, shift := .plain }, owners)

end Explorer

/-- Decisions by token: each entry holds for a set of tokens, and the sets are disjoint. -/
structure Row where
  entries : Array (TokenBits × Nat) := #[]
  tokens : TokenBits := 0
  deriving Inhabited

/-- The rows of all states, with the decisions numbered. -/
structure RowTable where
  decisions : Array Decision := #[]
  decisionIndex : Std.HashMap Decision Nat := {}
  rows : Array Row := #[]
  rowIndex : Std.HashMap (Array (TokenBits × Nat)) Nat := {}
  /-- The row of each state. -/
  rowOf : Array Nat := #[]
  /-- The sets of variables between which a choice was left open. -/
  openChoices : List (List Nat) := []
  deriving Inhabited

namespace RowTable

def internDecision (rows : RowTable) (decision : Decision) : RowTable × Nat :=
  match rows.decisionIndex[decision]? with
  | some found => (rows, found)
  | none =>
      ({ rows with
        decisions := rows.decisions.push decision
        decisionIndex := rows.decisionIndex.insert decision rows.decisions.size },
        rows.decisions.size)

def noteChoice (rows : RowTable) (owners : List Nat) : RowTable :=
  let sorted := (owners.eraseDups).mergeSort (· ≤ ·)
  if sorted.isEmpty || rows.openChoices.contains sorted then rows
  else { rows with openChoices := sorted :: rows.openChoices }

/-- The parts into which the follow sets of the completed items cut the tokens: each part with the
completed items whose follow set it lies in. -/
def parts (completed : List (Nat × TokenBits)) : List (TokenBits × List Nat) :=
  completed.foldl (fun parts entry =>
    let (item, bits) := entry
    let (cut, left) := parts.foldl (fun (state : List (TokenBits × List Nat) × TokenBits) part =>
      let (done, left) := state
      let common := part.1 &&& left
      if common == 0 then (done ++ [part], left)
      else
        let rest := part.1 ^^^ common
        let done := if rest == 0 then done else done ++ [(rest, part.2)]
        (done ++ [(common, part.2 ++ [item])], left ^^^ common)) ([], bits)
    if left == 0 then cut else cut ++ [(left, [item])]) []

/-- Works out the row of a core, given the follow sets of its completed items. -/
def rowFor (explorer : Explorer) (rows : RowTable) (core : Core)
    (completed : List (Nat × TokenBits)) (extras : TokenBits) : RowTable × Row := Id.run do
  let mut rows := rows
  let mut entries : Array (TokenBits × Nat) := #[]
  let mut seen : TokenBits := 0
  for (bits, items) in parts completed do
    let kept := items.foldl (Kept.add explorer.table) {}
    let alone := bits &&& (bits ^^^ (bits &&& core.shiftBits))
    if alone != 0 then
      let (grown, number) := rows.internDecision
        { accepts := kept.accepts, reductions := kept.reductions }
      rows := grown
      if kept.competes then
        rows := rows.noteChoice (items.map fun item => explorer.table.items[item]!.owner)
      entries := entries.push (alone, number)
    let contested := bits &&& core.shiftBits
    if contested != 0 then
      for token in bitsToList contested (explorer.table.grammar.finishBit + 1) do
        let (decision, owners) := explorer.weigh core token kept items
        let (grown, number) := rows.internDecision decision
        rows := grown.noteChoice owners
        entries := entries.push (1 <<< token, number)
    seen := seen ||| bits
  let shifted := core.shiftBits ^^^ (core.shiftBits &&& seen)
  if shifted != 0 then
    let (grown, number) := rows.internDecision { shift := .plain }
    rows := grown
    entries := entries.push (shifted, number)
  let all := seen ||| core.shiftBits
  let skipped := extras ^^^ (extras &&& all)
  if skipped != 0 then
    let (grown, number) := rows.internDecision { shift := .extra }
    rows := grown
    entries := entries.push (skipped, number)
  return (rows, { entries, tokens := all ||| extras })

/-- The rows of all states. States of one core share a row if the follow sets of their completed
items are the same. -/
def ofExplorer (explorer : Explorer) : RowTable := Id.run do
  let extras := explorer.table.grammar.extras.foldl (fun bits sym =>
    bits ||| 1 <<< explorer.table.grammar.bitOf sym) 0
  let mut rows : RowTable := {}
  let mut known : Std.HashMap (List Nat) Nat := {}
  for index in [0:explorer.states.size] do
    let (coreNumber, vector) := explorer.states[index]!
    let core := explorer.cores[coreNumber]!
    let follow := explorer.vectors[vector]!
    let sets := core.completed.toList.map fun entry => follow[entry.2]!
    let key := coreNumber :: sets
    match known[key]? with
    | some found => rows := { rows with rowOf := rows.rowOf.push found }
    | none =>
        let completed := core.completed.toList.map fun entry =>
          (entry.1, explorer.pool.sets[follow[entry.2]!]!)
        let (grown, row) := rowFor explorer rows core completed extras
        known := known.insert key grown.rows.size
        rows := { grown with
          rowOf := grown.rowOf.push grown.rows.size
          rows := grown.rows.push row }
  return rows

end RowTable

end RepoSurvey.Grammar
