import RepoSurvey.Grammar.Production
import RepoSurvey.Text.CharClasses

/-!
# Lexicons

The tokens of a grammar as one nondeterministic automaton.  Each state belongs to one token.  A
token may be preceded by separators, which are read by transitions marked as such, unless it must
follow the token before it immediately.
-/

namespace RepoSurvey.Grammar

/-- A state of the automaton while it is being built. -/
inductive LexNode
  | accept (token : Nat) (precedence : Int)
  | advance (set : CharSet) (next : Nat) (precedence : Int) (inSeparator : Bool)
  | split (first second : Nat)
  deriving Inhabited

/-- One way to read a character. -/
structure LexEdge where
  /-- The classes of the characters that can be read. -/
  bits : Nat
  next : Nat
  precedence : Int
  inSeparator : Bool
  deriving Inhabited

/-- What a state does that no further state can be entered from without reading. -/
inductive LexState
  | accept (token : Nat) (precedence : Int)
  | advance (edge : LexEdge)
  | pass
  deriving Inhabited

structure Lexicon where
  classes : CharClasses
  states : Array LexState
  /-- The token that each state belongs to. -/
  owner : Array Nat
  /-- For each state, those among the states reached from it without reading that accept or
  advance, ascending. -/
  reach : Array (List Nat)
  /-- Where each token starts. -/
  starts : Array Nat
  /-- Texts beat patterns of equal precedence. -/
  rank : Array Nat
  deriving Inhabited

namespace LexNode

/-- Builds the part of the automaton in front of `next`, and gives its first state. -/
abbrev Builder := StateM (Array LexNode)

def add (node : LexNode) : Builder Nat := do
  let nodes ← get
  set (nodes.push node)
  return nodes.size

def ofPattern (precedence : Int) (inSeparator : Bool) : Pattern → Nat → Builder Nat
  | .empty, next => return next
  | .chars chars, next => add (.advance chars next precedence inSeparator)
  | .chain first second, next => do
      ofPattern precedence inSeparator first (← ofPattern precedence inSeparator second next)
  | .either first second, next => do
      let left ← ofPattern precedence inSeparator first next
      let right ← ofPattern precedence inSeparator second next
      add (.split left right)
  | .many1 body, next => do
      let fork ← add (.split next next)
      let start ← ofPattern precedence inSeparator body fork
      modify (·.set! fork (.split start next))
      return start

mutual

def ofRule (precedence : Int) (inSeparator : Bool) : Rule → Nat → Builder Nat
  | .blank, next => return next
  | .text word, next =>
      word.toList.foldrM (fun character next =>
        add (.advance (.single character) next precedence inSeparator)) next
  | .pattern pattern, next => ofPattern precedence inSeparator pattern next
  | .ref _, next => return next
  | .choice options, next => ofOptions precedence inSeparator options next
  | .seq parts, next => ofParts precedence inSeparator parts next
  | .many1 body, next => do
      let fork ← add (.split next next)
      let start ← ofRule precedence inSeparator body fork
      modify (·.set! fork (.split start next))
      return start
  | .annotated marks body, next =>
      let precedence := match marks.precedence with
        | .level value => value
        | _ => precedence
      ofRule precedence inSeparator body next

def ofOptions (precedence : Int) (inSeparator : Bool) : List Rule → Nat → Builder Nat
  | [], next => return next
  | [only], next => ofRule precedence inSeparator only next
  | option :: rest, next => do
      let first ← ofRule precedence inSeparator option next
      let others ← ofOptions precedence inSeparator rest next
      add (.split first others)

def ofParts (precedence : Int) (inSeparator : Bool) : List Rule → Nat → Builder Nat
  | [], next => return next
  | part :: rest, next => do
      ofRule precedence inSeparator part (← ofParts precedence inSeparator rest next)

end

/-- The states reached without reading, each once. -/
def reachFrom (nodes : Array LexNode) : Nat → List Nat → List Nat → List Nat
  | 0, _, found => found
  | _, [], found => found
  | fuel + 1, index :: rest, found =>
      if found.contains index then reachFrom nodes fuel rest found
      else match nodes[index]! with
        | .split first second => reachFrom nodes fuel (first :: second :: rest) (index :: found)
        | _ => reachFrom nodes fuel rest (index :: found)

end LexNode

namespace Lexicon

/-- The precedence with which a token is completed. -/
def completionPrecedence : Rule → Int
  | .annotated marks _ =>
      match marks.precedence with
      | .level value => value
      | _ => 0
  | _ => 0

def rankOf : Rule → Nat
  | .text _ => 2
  | .annotated marks body => rankOf body + if marks.isImmediate then 1 else 0
  | _ => 0

def mustBeImmediate : Rule → Bool
  | .annotated marks _ => marks.isImmediate
  | _ => false

/-- Adds the states of one token and gives the first of them. -/
def addToken (separators : List Rule) (index : Nat) (rule : Rule) : LexNode.Builder Nat := do
  let last ← LexNode.add (.accept index (completionPrecedence rule))
  let start ← LexNode.ofRule 0 false rule last
  if mustBeImmediate rule || separators.isEmpty then return start
  else
    let fork ← LexNode.add (.split start start)
    let again ← LexNode.ofOptions 0 true separators fork
    modify (·.set! fork (.split again start))
    return fork

def ofTokens (tokens : Array Token) (separators : List Rule) : Lexicon := Id.run do
  let mut nodes : Array LexNode := #[]
  let mut owner : Array Nat := #[]
  let mut starts : Array Nat := #[]
  for index in [0:tokens.size] do
    let (start, grown) := (addToken separators index tokens[index]!.rule).run nodes
    nodes := grown
    owner := owner ++ Array.replicate (nodes.size - owner.size) index
    starts := starts.push start
  let sets := nodes.foldl (fun sets node => match node with
    | .advance set _ _ _ => if sets.contains set then sets else set :: sets
    | _ => sets) ([] : List CharSet)
  let classes := CharClasses.ofSets (.between 0 0 :: sets)
  let bits := sets.map fun set => (set, classes.bitsOf set)
  let states := nodes.map fun
    | .accept token precedence => LexState.accept token precedence
    | .advance set next precedence inSeparator =>
        .advance ⟨(bits.lookup set).getD 0, next, precedence, inSeparator⟩
    | .split _ _ => .pass
  let reach := (Array.range nodes.size).map fun index =>
    ((LexNode.reachFrom nodes (3 * nodes.size + 1) [index] []).filter fun found =>
      match nodes[found]! with
      | .split _ _ => false
      | _ => true).mergeSort (· ≤ ·)
  return { classes, states, owner, reach, starts, rank := tokens.map (rankOf ·.rule) }

/-- Merges two ascending lists, keeping common members once. -/
def mergeAscending : List Nat → List Nat → List Nat
  | [], right => right
  | left, [] => left
  | first :: left, second :: right =>
      if first < second then first :: mergeAscending left (second :: right)
      else if second < first then second :: mergeAscending (first :: left) right
      else first :: mergeAscending left right
  termination_by left right => left.length + right.length

/-- The states one can be in at the start of one of `tokens`. -/
def startStates (lexicon : Lexicon) (tokens : List Nat) : List Nat :=
  tokens.foldl (fun states token =>
    mergeAscending states lexicon.reach[lexicon.starts[token]!]!) []

/-- A step of the automaton from a set of states: the characters read, the states after it, the
greatest precedence of the edges taken, and whether all of them read a separator. -/
structure Move where
  bits : Nat
  states : List Nat
  precedence : Int
  inSeparator : Bool
  deriving Inhabited

/-- Splits the moves found so far by one more edge, of which `bits` are not yet placed. -/
def placeEdge (after : List Nat) (edge : LexEdge) : List Move → Nat → List Move
  | [], bits => if bits == 0 then [] else [⟨bits, after, edge.precedence, edge.inSeparator⟩]
  | move :: rest, bits =>
      let common := move.bits &&& bits
      if common == 0 then move :: placeEdge after edge rest bits
      else
        let both : Move :=
          ⟨common, mergeAscending move.states after, max move.precedence edge.precedence,
            move.inSeparator && edge.inSeparator⟩
        let others := placeEdge after edge rest (bits ^^^ common)
        if common == move.bits then both :: others
        else both :: { move with bits := move.bits ^^^ common } :: others

/-- Joins moves that differ only in the characters read. -/
def joinMoves : List Move → List Move
  | [] => []
  | move :: rest =>
      let joined := joinMoves rest
      let same (other : Move) : Bool :=
        other.precedence == move.precedence && other.inSeparator == move.inSeparator &&
          other.states == move.states
      match joined.find? same with
      | some _ => joined.map fun other =>
          if same other then { other with bits := other.bits ||| move.bits } else other
      | none => move :: joined

/-- All moves from a set of states. Their character sets are disjoint. -/
def moves (lexicon : Lexicon) (states : List Nat) : List Move :=
  joinMoves <| states.foldl (fun moves state => match lexicon.states[state]! with
    | .advance edge => placeEdge lexicon.reach[edge.next]! edge moves edge.bits
    | _ => moves) []

/-- The tokens completed in a set of states, with their precedences. -/
def completions (lexicon : Lexicon) (states : List Nat) : List (Nat × Int) :=
  states.filterMap fun state => match lexicon.states[state]! with
    | .accept token precedence => some (token, precedence)
    | _ => none

/-- Whether a separator can be read next. -/
def canReadSeparator (lexicon : Lexicon) (states : List Nat) : Bool :=
  states.any fun state => match lexicon.states[state]! with
    | .advance edge => edge.inSeparator
    | _ => false

/-- The tokens that a set of states belongs to, each once, ascending. -/
def owners (lexicon : Lexicon) (states : List Nat) : List Nat :=
  CharClasses.distinct (states.map (lexicon.owner[·]!))

/-- The classes of the characters that can be read first. -/
def firstBits (lexicon : Lexicon) (states : List Nat) : Nat :=
  states.foldl (fun bits state => match lexicon.states[state]! with
    | .advance edge => bits ||| edge.bits
    | _ => bits) 0

/-- Of two completed tokens, whether the left one is taken. -/
def prefersToken (lexicon : Lexicon) (left right : Nat × Int) : Bool :=
  if left.2 != right.2 then right.2 < left.2
  else if lexicon.rank[left.1]! != lexicon.rank[right.1]! then
    lexicon.rank[right.1]! < lexicon.rank[left.1]!
  else left.1 < right.1

/-- Whether reading on is preferred to stopping at a completed token. -/
def prefersMove (lexicon : Lexicon) (move : Move) (completed : Nat × Int)
    (besideSeparator : Bool) : Bool :=
  if move.precedence < completed.2 then false
  else if move.precedence == completed.2 then
    !move.inSeparator &&
      !(besideSeparator && !(move.states.any fun state => lexicon.owner[state]! == completed.1))
  else true

/-- The completed token that is taken. -/
def bestCompletion (lexicon : Lexicon) (states : List Nat) : Option (Nat × Int) :=
  (lexicon.completions states).foldl (fun best next => match best with
    | none => some next
    | some kept => if lexicon.prefersToken kept next then some kept else some next) none

end Lexicon

end RepoSurvey.Grammar
