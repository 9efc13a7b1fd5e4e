import RepoSurvey.Grammar.LexTable

/-!
# Parse tables

What a parser needs at run time.  Symbols are numbered anew: the end of input is 0, the word token
comes next, then the other tokens, the external tokens and the variables.
-/

namespace RepoSurvey.Parsing

open Grammar

structure SymbolInfo where
  name : String
  isVisible : Bool
  isNamed : Bool
  deriving Inhabited, Repr

/-- One thing that can be done at a token. -/
inductive Action
  | shift (state : Nat) (isRepetition : Bool)
  | shiftExtra
  | reduce (symbol childCount : Nat) (dynamicPrecedence : Int) (info : Nat)
  | accept
  | recover
  deriving BEq, Hashable, Inhabited, Repr

structure TableEntry where
  actions : List Action := []
  /-- Whether a token read in another state may be used here without reading it again. -/
  isReusable : Bool := false
  deriving BEq, Hashable, Inhabited, Repr

structure ParseTable where
  symbols : Array SymbolInfo
  tokenCount : Nat
  word : Option Nat
  /-- The distinct entries; the first is empty. -/
  entries : Array TableEntry
  /-- For each state and token, the entry. -/
  cells : Array (Array Nat)
  /-- For each state and variable, the state after it, or 0. -/
  gotos : Array (Array Nat)
  lexer : LexTable
  /-- For each state, where its lexer starts. -/
  lexStart : Array Nat
  keywordLexer : LexTable
  /-- For each state, which external tokens it expects; `none` if it expects none. -/
  externalSets : Array (Option (Array Bool))
  externalSymbols : Array Nat
  infos : Array ProductionInfo
  deriving Inhabited

/-- The number of the tree node that holds skipped input. -/
def errorSymbol : Nat := 65535

/-- The number of the hidden node that joins such nodes. -/
def errorRepeatSymbol : Nat := 65534

namespace ParseTable

def entry (table : ParseTable) (state symbol : Nat) : TableEntry :=
  if symbol == errorSymbol || symbol == errorRepeatSymbol then {}
  else table.entries[(table.cells[state]!)[symbol]!]!

def actions (table : ParseTable) (state symbol : Nat) : List Action :=
  (table.entry state symbol).actions

/-- The state after a symbol: where a token is shifted to, or where a variable leads. -/
def next (table : ParseTable) (state symbol : Nat) : Nat :=
  if symbol == errorSymbol || symbol == errorRepeatSymbol then 0
  else if symbol < table.tokenCount then
    match (table.actions state symbol).getLast? with
    | some (.shift target _) => target
    | some .shiftExtra => state
    | _ => 0
  else (table.gotos[state]!)[symbol - table.tokenCount]!

def symbol (table : ParseTable) (symbol : Nat) : SymbolInfo :=
  if symbol == errorSymbol then ⟨"ERROR", true, true⟩
  else if symbol == errorRepeatSymbol then ⟨"_ERROR", false, false⟩
  else table.symbols[symbol]!

end ParseTable

end RepoSurvey.Parsing
