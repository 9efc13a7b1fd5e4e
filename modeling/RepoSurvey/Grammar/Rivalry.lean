import RepoSurvey.Grammar.Lexicon
import RepoSurvey.Grammar.Item

/-!
# Rivalry between tokens

Two tokens are rivals when some input can be read as both, as one and then the other, or as one
where the other would go on.  Whether two states of a parser may share a lexer, or may be merged at
all, depends on the rivalries between the tokens that they expect.
-/

namespace RepoSurvey.Grammar

/-- How one token stands to another. -/
structure Rivalry where
  /-- It is preferred although the other could be read on. -/
  isTakenEarly : Bool := false
  /-- It goes on where the other could stop. -/
  goesOn : Bool := false
  /-- It goes on with a character that may also follow the other. -/
  goesOnValidly : Bool := false
  /-- It ends inside what may be a separator before the other. -/
  endsInSeparator : Bool := false
  /-- It is preferred on a text that both match. -/
  winsOnSameText : Bool := false
  /-- It matches a text that the other does not. -/
  hasOwnText : Bool := false
  deriving BEq, DecidableEq, Inhabited, Repr

namespace Rivalry

def conflicts (rivalry : Rivalry) : Bool :=
  rivalry.goesOnValidly || rivalry.endsInSeparator || rivalry.winsOnSameText

def overlaps (rivalry : Rivalry) : Bool :=
  rivalry.endsInSeparator || rivalry.isTakenEarly || rivalry.winsOnSameText || rivalry.goesOn

end Rivalry

/-- The rivalries between all pairs of tokens. -/
structure Rivalries where
  count : Nat
  entries : Array Rivalry
  deriving Inhabited

namespace Rivalries

def get (rivalries : Rivalries) (token other : Nat) : Rivalry :=
  rivalries.entries[token * rivalries.count + other]!

def doesConflict (rivalries : Rivalries) (token other : Nat) : Bool :=
  (rivalries.get token other).conflicts

def doesOverlap (rivalries : Rivalries) (token other : Nat) : Bool :=
  (rivalries.get token other).overlaps

/-- Whether a token can end before or after the other does on the same input. -/
def differsInLength (rivalries : Rivalries) (token other : Nat) : Bool :=
  ((rivalries.get token other).goesOnValidly || (rivalries.get token other).endsInSeparator) &&
    !(rivalries.get other token).endsInSeparator

/-- Compares the tokens `left` and `right` on every input on which both are still possible. -/
def compare (lexicon : Lexicon) (followBits : Array Nat) (left right : Nat) :
    Rivalry × Rivalry := Id.run do
  let mut first : Rivalry := {}
  let mut second : Rivalry := {}
  let mut visited : List (List Nat) := []
  let mut work : List (List Nat) := [lexicon.startStates [left, right]]
  -- Each round takes one set of states that has not been seen before.
  for _ in [0:1000000] do
    match work with
    | [] => break
    | states :: rest =>
        work := rest
        match lexicon.owners states with
        | [] => pure ()
        | [only] =>
            if only == left then first := { first with hasOwnText := true }
            else second := { second with hasOwnText := true }
        | _ =>
            let beside := lexicon.canReadSeparator states
            let mut completion : Option (Nat × Int) := none
            for (token, precedence) in lexicon.completions states do
              if beside then
                if token == left then first := { first with endsInSeparator := true }
                else second := { second with endsInSeparator := true }
              match completion with
              | none => completion := some (token, precedence)
              | some known =>
                  if token != known.1 then
                    let keeps := lexicon.prefersToken known (token, precedence)
                    let preferred := if keeps then known.1 else token
                    if !keeps then completion := some (token, precedence)
                    if preferred == left then first := { first with winsOnSameText := true }
                    else second := { second with winsOnSameText := true }
            for move in lexicon.moves states do
              let owners := lexicon.owners move.states
              match completion with
              | none => pure ()
              | some done =>
                  if !owners.contains done.1 then
                    match owners.getLast? with
                    | none => pure ()
                    | some advanced =>
                        if lexicon.prefersMove move done beside then
                          let other := if advanced == left then right else left
                          let validly := (move.bits &&& followBits[other]!) != 0
                          if advanced == left then
                            first := { first with
                              goesOn := true, goesOnValidly := first.goesOnValidly || validly }
                          else
                            second := { second with
                              goesOn := true, goesOnValidly := second.goesOnValidly || validly }
                        else if done.1 == left then first := { first with isTakenEarly := true }
                        else second := { second with isTakenEarly := true }
              if !visited.contains move.states then
                visited := move.states :: visited
                work := move.states :: work
  return (first, second)

/-- All rivalries, given for each token the tokens that may follow it. -/
def ofLexicon (lexicon : Lexicon) (following : Array TokenBits) : Rivalries := Id.run do
  let count := lexicon.starts.size
  let firstBits := (Array.range count).map fun token =>
    lexicon.firstBits (lexicon.startStates [token])
  let followBits := following.map fun tokens =>
    (List.range count).foldl (fun bits token =>
      if tokens.testBit token then bits ||| firstBits[token]! else bits) 0
  let mut entries : Array Rivalry := Array.replicate (count * count) {}
  for left in [0:count] do
    for right in [0:left] do
      let (first, second) := compare lexicon followBits left right
      entries := (entries.set! (left * count + right) first).set! (right * count + left) second
  return { count, entries }

end Rivalries

namespace ItemTable

/-- For each token, the tokens that may come right after it. -/
def following (table : ItemTable) : Array TokenBits := Id.run do
  let grammar := table.grammar
  let count := grammar.tokens.size
  let all : TokenBits := (1 <<< count) - 1
  let mut result : Array TokenBits := Array.replicate count 0
  -- Pairs of neighbours are collected per left neighbour first.
  let mut after : Array TokenBits := Array.replicate table.symCount 0
  let mut syms : Array (Option Sym) := Array.replicate table.symCount none
  for owned in table.productions do
    let steps := owned.production.steps
    for position in [1:steps.size] do
      let left := steps[position - 1]!.sym
      let code := table.symCode left
      syms := syms.set! code (some left)
      after := after.modify code
        (· ||| (grammar.tokensOf table.firstOf steps[position]!.sym &&& all))
  for code in [0:table.symCount] do
    match syms[code]! with
    | none => pure ()
    | some left =>
        let lasts := grammar.tokensOf table.lastOf left
        for token in [0:count] do
          if lasts.testBit token then result := result.modify token (· ||| after[code]!)
  let extraTokens := grammar.extras.filterMap fun sym => match sym with
    | .terminal index => some index
    | _ => none
  for extra in extraTokens do
    result := result.map (· ||| 1 <<< extra)
  for extra in extraTokens do
    result := result.set! extra all
  return result

end ItemTable

end RepoSurvey.Grammar
