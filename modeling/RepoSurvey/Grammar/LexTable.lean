import RepoSurvey.Grammar.Merge

/-!
# Deterministic lexers

The lexicon made deterministic, started once for each set of tokens that a state of the parser can
expect.  Such sets are joined as long as the tokens of one cannot disturb those of the other.
-/

namespace RepoSurvey.Grammar

/-- Where reading a character leads, and whether the character belongs to a separator. -/
structure LexMove where
  target : Nat
  isSeparator : Bool
  deriving Inhabited

structure LexTableState where
  /-- The token completed here; `none` inside stands for the end of input. -/
  accepts : Option (Option Nat) := none
  atEnd : Option Nat := none
  /-- By class of character. -/
  moves : Array (Option LexMove) := #[]
  deriving Inhabited

structure LexTable where
  classes : CharClasses
  states : Array LexTableState := #[]
  deriving Inhabited

/-- A lexer being built: its states, each known by the states of the lexicon and by whether the
input may end there. -/
structure LexTableBuilder where
  lexicon : Lexicon
  states : Array LexTableState := #[]
  sets : Array (List Nat × Bool) := #[]
  index : Std.HashMap (List Nat × Bool) Nat := {}
  deriving Inhabited

namespace LexTableBuilder

def intern (builder : LexTableBuilder) (states : List Nat) (endIsValid : Bool) :
    LexTableBuilder × Nat :=
  match builder.index[(states, endIsValid)]? with
  | some found => (builder, found)
  | none =>
      let fresh := builder.sets.size
      ({ builder with
        sets := builder.sets.push (states, endIsValid)
        index := builder.index.insert (states, endIsValid) fresh }, fresh)

/-- Whether a move that reads the classes in `bits` reads this one. A move that is open to all characters
but some does not read the null character, which might as well mean that the text has ended. -/
def reads (classes : CharClasses) (bits number : Nat) : Bool :=
  bits.testBit number &&
    !(number == classes.ofCode 0 && bits.testBit (classes.ofCode CharSet.topCode))

def populate (builder : LexTableBuilder) (number : Nat) : LexTableBuilder := Id.run do
  let lexicon := builder.lexicon
  let (states, endIsValid) := builder.sets[number]!
  let mut builder := builder
  let completion := lexicon.bestCompletion states
  let beside := lexicon.canReadSeparator states
  let mut atEnd : Option Nat := none
  if endIsValid then
    let (grown, target) := builder.intern [] false
    builder := grown
    atEnd := some target
  let mut moves : Array (Option LexMove) := Array.replicate lexicon.classes.count none
  for move in lexicon.moves states do
    let goesOn := match completion with
      | some done => lexicon.prefersMove move done beside
      | none => true
    if goesOn then
      let (grown, target) := builder.intern move.states (endIsValid && move.inSeparator)
      builder := grown
      for number in [0:lexicon.classes.count] do
        if reads lexicon.classes move.bits number then
          moves := moves.set! number (some ⟨target, move.inSeparator⟩)
  let accepts := match completion with
    | some done => some (some done.1)
    | none => if states.isEmpty then some none else none
  return { builder with states := builder.states.push { accepts, atEnd, moves } }

/-- Adds the states for a set of tokens and gives the first. -/
def start (builder : LexTableBuilder) (tokens : List Nat) (endIsValid : Bool) :
    LexTableBuilder × Nat := Id.run do
  let (grown, number) := builder.intern (builder.lexicon.startStates tokens) endIsValid
  let mut builder := grown
  for _ in [0:1000000] do
    if builder.sets.size ≤ builder.states.size then break
    builder := builder.populate builder.states.size
  return (builder, number)

def finish (builder : LexTableBuilder) : LexTable := ⟨builder.lexicon.classes, builder.states⟩

end LexTableBuilder

namespace TokenKnowledge

/-- For each token, the tokens that may not be expected where it is added to a lexer. -/
def disturbed (knowledge : TokenKnowledge) : Array TokenBits :=
  let rivalries := knowledge.rivalries
  (Array.range rivalries.count).map fun token =>
    (List.range rivalries.count).foldl (fun bits other =>
      if rivalries.doesConflict token other || (rivalries.get token other).isTakenEarly ||
          !knowledge.together[token]!.testBit other &&
            (rivalries.doesOverlap other token || rivalries.doesOverlap token other) then
        bits ||| 1 <<< other
      else bits) 0

/-- Whether the lexers for two sets of tokens can be one. -/
def canJoin (disturbed : Array TokenBits) (left right : TokenBits) : Bool :=
  let common := left &&& right
  let fits (added present : TokenBits) : Bool :=
    added == 0 || (List.range disturbed.size).all fun token =>
      !added.testBit token || (present &&& disturbed[token]!) == 0
  fits (left ^^^ common) right && fits (right ^^^ common) left

/-- For each set of tokens, one of the joined sets that it goes into. -/
def joinSets (knowledge : TokenKnowledge) (sets : Array TokenBits) :
    Array TokenBits × Array Nat := Id.run do
  let disturbed := knowledge.disturbed
  let mut joined : Array TokenBits := #[]
  let mut chosen : Array Nat := #[]
  let mut known : Std.HashMap UInt64 (List (TokenBits × Nat)) := {}
  for bits in sets do
    let key := FollowPool.digest bits
    match (known.getD key []).lookup bits with
    | some index => chosen := chosen.push index
    | none =>
        let place := ((List.range joined.size).find? fun index =>
          canJoin disturbed joined[index]! bits).getD joined.size
        if place == joined.size then joined := joined.push bits
        else joined := joined.modify place (· ||| bits)
        known := known.insert key ((bits, place) :: known.getD key [])
        chosen := chosen.push place
  return (joined, chosen)

end TokenKnowledge

end RepoSurvey.Grammar
