import RepoSurvey.Grammar.Decision
import RepoSurvey.Grammar.Rivalry

/-!
# Merging of states

States with the same items are merged unless that would change what the parser or its lexer does:
two states stay apart when they decide differently on a token that both expect, when one expects a
token that is a rival of one that the other expects, or when their successors stay apart.
-/

namespace RepoSurvey.Grammar

/-- What is known of the tokens of a grammar when states are merged. -/
structure TokenKnowledge where
  rivalries : Rivalries
  /-- For each token, the tokens that are expected together with it in some state. -/
  together : Array TokenBits
  keywords : TokenBits
  /-- For each token, the tokens beside which a state must not come to expect it. -/
  hostile : Array TokenBits
  /-- Tokens that hand-written code may have to recognise. -/
  guarded : TokenBits
  deriving Inhabited

namespace TokenKnowledge

/-- Whether all characters that a token can start with are letters or underscores. -/
def startsLikeWord (lexicon : Lexicon) (token : Nat) : Bool :=
  let letters := lexicon.classes.bitsOf (CharSet.letters ++ .single '_')
  (lexicon.startStates [token]).all fun state => match lexicon.states[state]! with
    | .advance edge => edge.inSeparator || (edge.bits ||| letters) == letters
    | _ => true

/-- The tokens that are special cases of the word token: they start with letters, and taking them
for words first makes no difference to any other token. -/
def findKeywords (lexicon : Lexicon) (rivalries : Rivalries) (word : Option Nat)
    (apart : Array TokenBits) : TokenBits :=
  match word with
  | none => 0
  | some word =>
      let tokens := List.range rivalries.count
      let candidates := tokens.filter fun token =>
        startsLikeWord lexicon token && (rivalries.get token word).winsOnSameText &&
          !(rivalries.get token word).hasOwnText
      let unshadowed := candidates.filter fun token =>
        !(candidates.any fun other =>
          other != token && (rivalries.get other token).winsOnSameText)
      let harmless := unshadowed.filter fun token =>
        tokens.all fun other =>
          candidates.contains other || !apart[token]!.testBit other ||
            rivalries.get token other == rivalries.get word other
      harmless.foldl (fun bits token => bits ||| 1 <<< token) 0

def ofRows (table : ItemTable) (lexicon : Lexicon) (rows : RowTable) : TokenKnowledge := Id.run do
  let grammar := table.grammar
  let count := grammar.tokens.size
  let all : TokenBits := (1 <<< count) - 1
  let rivalries := Rivalries.ofLexicon lexicon table.following
  let sets := (rows.rows.map fun row => row.tokens &&& all).toList.eraseDups
  let mut together : Array TokenBits := Array.replicate count 0
  -- Tokens expected together where the word token is not.
  let mut apart : Array TokenBits := Array.replicate count 0
  for bits in sets do
    let hasWord := match grammar.word with
      | some word => bits.testBit word
      | none => true
    for token in [0:count] do
      if bits.testBit token then
        together := together.modify token (· ||| bits)
        if !hasWord then apart := apart.modify token (· ||| bits)
  let keywords := findKeywords lexicon rivalries grammar.word apart
  let isWordPair (token other : Nat) : Bool :=
    grammar.word == some other && keywords.testBit token
  let hostile := (Array.range count).map fun token =>
    (List.range count).foldl (fun bits other =>
      if !isWordPair token other && !isWordPair other token &&
          (rivalries.get token other).conflicts then bits ||| 1 <<< other
      else bits) 0
  let externalBits := (List.range grammar.externals.size).foldl (fun bits index =>
    let own := bits ||| 1 <<< (count + index)
    match grammar.externals[index]!.token with
    | some token => own ||| 1 <<< token
    | none => own) 0
  return { rivalries, together, keywords, hostile, guarded := externalBits }

/-- The tokens that a state which expects `present` ones must not come to expect, lest the lexer be
confused. -/
def refusedBeside (knowledge : TokenKnowledge) (present : TokenBits) : TokenBits :=
  (List.range knowledge.rivalries.count).foldl (fun bits token =>
    if (present &&& knowledge.hostile[token]!) != 0 then bits ||| 1 <<< token else bits)
    knowledge.guarded

end TokenKnowledge

/-- A partition of the states. -/
structure Partition where
  groupOf : Array Nat
  members : Array (Array Nat)
  deriving Inhabited

namespace Partition

/-- Splits a group: from the first member on, each member that is still in the group sends away
those after it that it cannot stay with. Members of one class behave alike. -/
def sentAway (conflict : Nat → Nat → Bool) : List Nat → List Nat
  | [] => []
  | first :: rest =>
      rest.filter (conflict first) ++ sentAway conflict (rest.filter fun other => !conflict first other)
  termination_by classes => classes.length
  decreasing_by
    simp only [List.length_cons, List.unattach_filter, List.unattach_attach]
    exact Nat.lt_succ_of_le (List.length_filter_le _ _)

/-- Splits one group by the classes of its members, and says whether it was split. -/
def splitGroup (partition : Partition) (group : Nat) (classes : Array Nat)
    (conflict : Nat → Nat → Bool) : Partition × Bool := Id.run do
  let members := partition.members[group]!
  let mut order : Array Nat := #[]
  for number in classes do
    if !order.contains number then order := order.push number
  let away := sentAway conflict order.toList
  if away.isEmpty then return (partition, false)
  let fresh := partition.members.size
  let mut stay : Array Nat := #[]
  let mut gone : Array Nat := #[]
  let mut groupOf := partition.groupOf
  for position in [0:members.size] do
    if away.contains classes[position]! then
      gone := gone.push members[position]!
      groupOf := groupOf.set! members[position]! fresh
    else stay := stay.push members[position]!
  return ({ groupOf, members := (partition.members.set! group stay).push gone }, true)

end Partition

/-- What merging needs to know of the automaton. -/
structure MergeInput where
  explorer : Explorer
  rows : RowTable
  knowledge : TokenKnowledge
  /-- For each row, the tokens that are shifted. -/
  shifted : Array TokenBits
  /-- For each row, the tokens that a state with the row must not come to expect. -/
  refused : Array TokenBits

namespace MergeInput

def of (explorer : Explorer) (rows : RowTable) (knowledge : TokenKnowledge) : MergeInput := Id.run do
  let shifted := rows.rows.map fun row =>
    row.entries.foldl (fun bits (entry : TokenBits × Nat) =>
      match rows.decisions[entry.2]!.shift with
      | .plain | .repetition => bits ||| entry.1
      | _ => bits) 0
  let mut known : Std.HashMap TokenBits TokenBits := {}
  let mut refused : Array TokenBits := #[]
  for row in rows.rows do
    match known[row.tokens]? with
    | some found => refused := refused.push found
    | none =>
        let found := knowledge.refusedBeside row.tokens
        known := known.insert row.tokens found
        refused := refused.push found
  return { explorer, rows, knowledge, shifted, refused }

/-- Whether two rows decide differently on a common token, or cannot be expected together. -/
def rowsConflict (input : MergeInput) (left right : Nat) : Bool :=
  if left == right then false
  else
    let first := input.rows.rows[left]!
    let second := input.rows.rows[right]!
    let common := first.tokens &&& second.tokens
    ((first.tokens ^^^ common) &&& input.refused[right]!) != 0 ||
      ((second.tokens ^^^ common) &&& input.refused[left]!) != 0 ||
      first.entries.any fun entry => second.entries.any fun other =>
        entry.2 != other.2 && (entry.1 &&& other.1) != 0

/-- The transitions of a state on tokens (or on all symbols) whose targets are in other groups than
those of another state. -/
def targetsDiffer (input : MergeInput) (groupOf : Array Nat) (onTokensOnly : Bool)
    (left right : Nat) : Bool := Id.run do
  let core := input.explorer.cores[(input.explorer.states[left]!).1]!
  let leftTargets := input.explorer.targets[left]!
  let rightTargets := input.explorer.targets[right]!
  let shifts := input.shifted[input.rows.rowOf[left]!]! &&& input.shifted[input.rows.rowOf[right]!]!
  for position in [0:core.steps.size] do
    if groupOf[leftTargets[position]!]! != groupOf[rightTargets[position]!]! then
      let sym := core.steps[position]!.sym
      if sym.isNonterminal then
        if !onTokensOnly then return true
      else if shifts.testBit (input.explorer.table.grammar.bitOf sym) then return true
  return false

/-- Whether all members lead to the same groups as the first one. -/
def agreeOnTargets (input : MergeInput) (groupOf : Array Nat) (members : Array Nat) : Bool := Id.run do
  let first := input.explorer.targets[members[0]!]!
  for position in [1:members.size] do
    let other := input.explorer.targets[members[position]!]!
    for step in [0:first.size] do
      if groupOf[first[step]!]! != groupOf[other[step]!]! then return false
  return true

/-- Numbers the members so that those with equal numbers behave alike; the numbers are positions
of representatives. -/
def classesOf (input : MergeInput) (groupOf : Array Nat) (members : Array Nat) : Array Nat := Id.run do
  let mut known : Std.HashMap (Array Nat) Nat := {}
  let mut classes : Array Nat := #[]
  for position in [0:members.size] do
    let state := members[position]!
    let key := (input.explorer.targets[state]!.map (groupOf[·]!)).push input.rows.rowOf[state]!
    match known[key]? with
    | some found => classes := classes.push found
    | none =>
        known := known.insert key position
        classes := classes.push position
  return classes

/-- One pass over all groups, those made on the way included. -/
def pass (input : MergeInput) (partition : Partition) (onSuccessors : Bool) :
    Partition × Bool := Id.run do
  let mut partition := partition
  let mut changed := false
  for group in [0:input.explorer.states.size] do
    if partition.members.size ≤ group then break
    let members := partition.members[group]!
    if 1 < members.size then
      let agree := input.agreeOnTargets partition.groupOf members
      let sameRow := members.all fun state =>
        input.rows.rowOf[state]! == input.rows.rowOf[members[0]!]!
      if !(agree && (onSuccessors || sameRow)) then
        let classes := input.classesOf partition.groupOf members
        let groupOf := partition.groupOf
        let conflict (left right : Nat) : Bool :=
          let first := members[left]!
          let second := members[right]!
          if onSuccessors then input.targetsDiffer groupOf false first second
          else
            input.rowsConflict input.rows.rowOf[first]! input.rows.rowOf[second]! ||
              input.targetsDiffer groupOf true first second
        let (split, didSplit) := partition.splitGroup group classes conflict
        partition := split
        changed := changed || didSplit
  return (partition, changed)

/-- The final partition. -/
def partition (input : MergeInput) : Partition := Id.run do
  let states := input.explorer.states
  let mut members : Array (Array Nat) := Array.replicate input.explorer.cores.size #[]
  let mut groupOf : Array Nat := #[]
  for index in [0:states.size] do
    let core := states[index]!.1
    members := members.modify core (·.push index)
    groupOf := groupOf.push core
  let mut current := (input.pass { groupOf, members } false).1
  for _ in [0:states.size + 1] do
    let (next, changed) := input.pass current true
    current := next
    if !changed then break
  return current

end MergeInput

end RepoSurvey.Grammar
