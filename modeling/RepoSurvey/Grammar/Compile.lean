import RepoSurvey.Grammar.Normalize
import RepoSurvey.Parsing.Table

/-!
# Compilation of grammars

From a grammar to a parse table: the automaton of item sets is explored and its states merged,
states that only pass a single child on are bypassed, and lexers are made for what remains.
-/

namespace RepoSurvey.Grammar

open Parsing (Action TableEntry ParseTable SymbolInfo)

/-- A state of the table while it is being put together. -/
structure Draft where
  /-- By bit of token: the number of the decision and the target of the shift, if any. -/
  cells : Array (Option (Nat × Nat))
  /-- By variable: the state after it. -/
  gotos : Array (Option Nat)
  deriving Inhabited

namespace Draft

def tokenBits (draft : Draft) : TokenBits := Id.run do
  let mut bits : TokenBits := 0
  for token in [0:draft.cells.size] do
    if draft.cells[token]!.isSome then bits := bits ||| 1 <<< token
  return bits

/-- On how many symbols the state does something. -/
def weight (draft : Draft) : Nat :=
  draft.cells.foldl (fun count cell => if cell.isSome then count + 1 else count)
    (draft.gotos.foldl (fun count target => if target.isSome then count + 1 else count) 0)

def mapTargets (draft : Draft) (rename : Draft → Nat → Nat) : Draft :=
  { cells := draft.cells.map fun cell => cell.map fun (decision, target) =>
      (decision, if target == 0 then 0 else rename draft target)
    gotos := draft.gotos.map fun target => target.map (rename draft) }

def targets (draft : Draft) : List Nat :=
  (draft.cells.toList.filterMap fun cell => cell.map (·.2)) ++ draft.gotos.toList.filterMap id

end Draft

namespace MergeInput

/-- One draft for each group of states. -/
def drafts (input : MergeInput) (partition : Partition) : Array Draft := Id.run do
  let explorer := input.explorer
  let grammar := explorer.table.grammar
  let width := grammar.finishBit + 1
  let mut drafts : Array Draft := #[]
  for members in partition.members do
    let first := members[0]!
    let core := explorer.cores[(explorer.states[first]!).1]!
    let mut stepAt : Array Nat := Array.replicate width 0
    let mut gotos : Array (Option Nat) := Array.replicate grammar.nonterminals.size none
    for position in [0:core.steps.size] do
      match core.steps[position]!.sym with
      | .nonterminal index =>
          gotos := gotos.set! index (some partition.groupOf[(explorer.targets[first]!)[position]!]!)
      | sym => stepAt := stepAt.set! (grammar.bitOf sym) position
    let mut cells : Array (Option (Nat × Nat)) := Array.replicate width none
    let mut done : List Nat := []
    for state in members do
      let rowNumber := input.rows.rowOf[state]!
      if !done.contains rowNumber then
        done := rowNumber :: done
        for (bits, decision) in input.rows.rows[rowNumber]!.entries do
          let shifts := match input.rows.decisions[decision]!.shift with
            | .plain | .repetition => true
            | _ => false
          for token in bitsToList bits width do
            let target :=
              if shifts then partition.groupOf[(explorer.targets[state]!)[stepAt[token]!]!]! else 0
            cells := cells.set! token (some (decision, target))
    drafts := drafts.push ⟨cells, gotos⟩
  return drafts

/-- Variables whose reductions show in the tree, or are told apart by an alias, and so cannot be
bypassed. -/
def isEssential (grammar : Normal) (aliased : Array Bool) (index : Nat) : Bool :=
  let sym := Sym.nonterminal index
  (grammar.defaultAliases.lookup sym).isSome || grammar.groups.contains sym ||
    grammar.extras.contains sym || aliased[index]! ||
    grammar.nonterminals[index]!.visibility == .named

/-- The variable that a state does nothing but reduce a single child to. -/
def unitVariable (input : MergeInput) (aliased : Array Bool) (draft : Draft) : Option Nat := Id.run do
  let grammar := input.explorer.table.grammar
  let mut found : Option Nat := none
  for cell in draft.cells do
    match cell with
    | none => pure ()
    | some (number, _) =>
        let decision := input.rows.decisions[number]!
        if decision.accepts then return none
        match decision.shift with
        | .plain | .repetition => return none
        | _ => pure ()
        for reduction in decision.reductions do
          let isUnit := reduction.childCount == 1 && reduction.info == 0 &&
            reduction.dynamicPrecedence == 0 &&
            !isEssential grammar aliased reduction.variableIndex &&
            (found.isNone || found == some reduction.variableIndex)
          if !isUnit then return none
          found := some reduction.variableIndex
  return found

/-- Follows a target through states that only pass a single child on. -/
def bypass (units : Array (Option Nat)) (draft : Draft) : Nat → Nat → Nat
  | 0, target => target
  | fuel + 1, target =>
      match units[target]! with
      | none => target
      | some index =>
          match draft.gotos[index]! with
          | none => target
          | some next => bypass units draft fuel next

def withoutUnits (input : MergeInput) (drafts : Array Draft) : Array Draft := Id.run do
  let grammar := input.explorer.table.grammar
  let mut aliased : Array Bool := Array.replicate grammar.nonterminals.size false
  for entry in grammar.nonterminals do
    for production in entry.productions do
      for step in production.steps do
        match step.sym, step.shownAs with
        | .nonterminal index, some _ => aliased := aliased.set! index true
        | _, _ => pure ()
  let units := drafts.map (input.unitVariable aliased)
  return drafts.map fun draft =>
    draft.mapTargets fun original target => bypass units original drafts.size target

end MergeInput

namespace Draft

/-- Keeps the first two states and those that some state leads to. -/
def withoutUnused (drafts : Array Draft) : Array Draft := Id.run do
  let mut used : Array Bool := Array.replicate drafts.size false
  used := (used.set! 0 true).set! 1 true
  for draft in drafts do
    for target in draft.targets do
      used := used.set! target true
  let mut renamed : Array Nat := #[]
  let mut count := 0
  for index in [0:drafts.size] do
    renamed := renamed.push count
    if used[index]! then count := count + 1
  let mut kept : Array Draft := #[]
  for index in [0:drafts.size] do
    if used[index]! then
      kept := kept.push (drafts[index]!.mapTargets fun _ target => renamed[target]!)
  return kept

/-- Orders all states but the first two by falling weight. -/
def byWeight (drafts : Array Draft) : Array Draft := Id.run do
  let weights := drafts.map weight
  let rest := (List.range drafts.size).drop 2
  let order := [0, 1] ++ rest.mergeSort fun left right => weights[right]! ≤ weights[left]!
  let mut renamed : Array Nat := Array.replicate drafts.size 0
  let mut position := 0
  for index in order do
    renamed := renamed.set! index position
    position := position + 1
  return (order.map fun index =>
    drafts[index]!.mapTargets fun _ target => renamed[target]!).toArray

end Draft

namespace TokenKnowledge

/-- The tokens that are still recognised after an error: those that disturb no other token, and
those that disturb none of these. -/
def errorTokens (knowledge : TokenKnowledge) (grammar : Normal) : TokenBits :=
  let count := grammar.tokens.size
  let tokens := List.range count
  let isApart (token other : Nat) : Bool := !knowledge.together[token]!.testBit other
  let free := tokens.filter fun token =>
    !tokens.any fun other =>
      other != token && isApart token other && knowledge.rivalries.differsInLength token other
  let chosen := tokens.filter fun token =>
    free.contains token || knowledge.keywords.testBit token || grammar.word == some token ||
      !free.any fun other => isApart token other && knowledge.rivalries.doesConflict token other
  let externals := (List.range grammar.externals.size).filter fun index =>
    grammar.externals[index]!.token.isNone
  chosen.foldl (fun bits token => bits ||| 1 <<< token) 0 |||
    externals.foldl (fun bits index => bits ||| 1 <<< (count + index)) 0 |||
    1 <<< grammar.finishBit

end TokenKnowledge

/-- A numbering of symbols for parse tables. -/
structure SymbolNumbers where
  /-- By bit of token. -/
  ofBit : Array Nat
  tokenCount : Nat

def SymbolNumbers.of (grammar : Normal) : SymbolNumbers := Id.run do
  let count := grammar.tokens.size
  let mut ofBit : Array Nat := Array.replicate (grammar.finishBit + 1) 0
  let mut next := if grammar.word.isSome then 2 else 1
  for token in [0:count] do
    if grammar.word == some token then ofBit := ofBit.set! token 1
    else
      ofBit := ofBit.set! token next
      next := next + 1
  for index in [0:grammar.externals.size] do
    match grammar.externals[index]!.token with
    | some token => ofBit := ofBit.set! (count + index) ofBit[token]!
    | none =>
        ofBit := ofBit.set! (count + index) next
        next := next + 1
  return { ofBit, tokenCount := next }

namespace Normal

def symbolInfo (grammar : Normal) (sym : Sym) : SymbolInfo :=
  match grammar.defaultAliases.lookup sym with
  | some shown => ⟨shown.name, true, shown.isNamed⟩
  | none =>
      let visibility := grammar.visibilityOf sym
      ⟨grammar.nameOf sym, visibility.isVisible, visibility == .named || visibility == .hidden⟩

end Normal

/-- Everything made on the way to a table. -/
structure Compilation where
  input : MergeInput
  partition : Partition
  table : ParseTable

def compilation (grammar : Grammar) : Compilation := Id.run do
  let normal := grammar.normalize
  let lexicon := Lexicon.ofTokens normal.tokens normal.separators
  let items := ItemTable.ofNormal normal
  let explorer := Explorer.run items
  let rows := RowTable.ofExplorer explorer
  let knowledge := TokenKnowledge.ofRows items lexicon rows
  let input := MergeInput.of explorer rows knowledge
  let partition := input.partition
  let drafts := Draft.byWeight (Draft.withoutUnused (input.withoutUnits (input.drafts partition)))
  let numbers := SymbolNumbers.of normal
  let count := normal.tokens.size
  let width := normal.finishBit + 1
  -- Symbols.
  let mut symbols : Array SymbolInfo :=
    Array.replicate (numbers.tokenCount + normal.nonterminals.size) default
  symbols := symbols.set! 0 ⟨"end", false, true⟩
  for index in [0:normal.externals.size] do
    symbols := symbols.set! numbers.ofBit[count + index]! (normal.symbolInfo (.external index))
  for token in [0:count] do
    symbols := symbols.set! numbers.ofBit[token]! (normal.symbolInfo (.terminal token))
  for index in [0:normal.nonterminals.size] do
    symbols := symbols.set! (numbers.tokenCount + index) (normal.symbolInfo (.nonterminal index))
  -- Entries.
  let overlappers := (Array.range count).map fun token =>
    (List.range count).foldl (fun bits other =>
      if knowledge.rivalries.doesOverlap other token then bits ||| 1 <<< other else bits) 0
  let errorTokens := knowledge.errorTokens normal
  let mut entries : Array TableEntry := #[{}]
  let mut entryIndex : Std.HashMap (Nat × Nat × Bool) Nat := {}
  let mut cells : Array (Array Nat) := #[]
  let mut gotos : Array (Array Nat) := #[]
  let mut lexSets : Array TokenBits := #[]
  let mut externalSets : Array (Option (Array Bool)) := #[]
  entries := entries.push { actions := [.recover] }
  for state in [0:drafts.size] do
    let draft := drafts[state]!
    let ownBits := draft.tokenBits
    let bits := if state == 0 then ownBits ||| errorTokens else ownBits
    let mut row : Array Nat := Array.replicate numbers.tokenCount 0
    for token in bitsToList bits width do
      match draft.cells[token]! with
      | none => row := row.set! numbers.ofBit[token]! 1
      | some (decision, target) =>
          let isReusable := count ≤ token || (bits &&& overlappers[token]!) == 0
          let key := (decision, target, isReusable)
          match entryIndex[key]? with
          | some found => row := row.set! numbers.ofBit[token]! found
          | none =>
              let known := rows.decisions[decision]!
              let reductions := known.reductions.map fun reduction =>
                Action.reduce (numbers.tokenCount + reduction.variableIndex)
                  reduction.childCount reduction.dynamicPrecedence reduction.info
              let shifts : List Action := match known.shift with
                | .none => []
                | .plain => [.shift target false]
                | .repetition => [.shift target true]
                | .extra => [.shiftExtra]
              let accepts : List Action := if known.accepts then [.accept] else []
              entryIndex := entryIndex.insert key entries.size
              row := row.set! numbers.ofBit[token]! entries.size
              entries := entries.push { actions := accepts ++ reductions ++ shifts, isReusable }
    cells := cells.push row
    gotos := gotos.push (draft.gotos.map (·.getD 0))
    let lexBits := (bitsToList bits count).foldl (fun found token =>
      if knowledge.keywords.testBit token then
        match normal.word with
        | some word => found ||| 1 <<< word
        | none => found
      else found ||| 1 <<< token) (bits &&& (1 <<< normal.finishBit))
    lexSets := lexSets.push lexBits
    let expected := (Array.range normal.externals.size).map fun index =>
      bits.testBit (count + index) ||
        match normal.externals[index]!.token with
        | some token => bits.testBit token
        | none => false
    externalSets := externalSets.push (if expected.contains true then some expected else none)
  -- Lexers.
  let (joined, chosen) := knowledge.joinSets lexSets
  let mut builder : LexTableBuilder := { lexicon }
  let mut starts : Array Nat := #[]
  for bits in joined do
    let (grown, start) := builder.start (bitsToList bits count) (bits.testBit normal.finishBit)
    builder := grown
    starts := starts.push start
  let keywordBuilder := (({ lexicon } : LexTableBuilder).start
    (bitsToList knowledge.keywords count) false).1
  let rename (lexer : LexTable) : LexTable :=
    { lexer with states := lexer.states.map fun state =>
        { state with accepts := state.accepts.map fun token =>
            token.map fun token => numbers.ofBit[token]! } }
  let table : ParseTable :=
    { symbols
      tokenCount := numbers.tokenCount
      word := normal.word.map (numbers.ofBit[·]!)
      entries
      cells
      gotos
      lexer := rename builder.finish
      lexStart := chosen.map (starts[·]!)
      keywordLexer := rename keywordBuilder.finish
      externalSets
      externalSymbols := (Array.range normal.externals.size).map fun index =>
        numbers.ofBit[count + index]!
      infos := items.infos }
  return { input, partition, table }

/-- The parse table of a grammar. -/
def compile (grammar : Grammar) : ParseTable := grammar.compilation.table

end RepoSurvey.Grammar
