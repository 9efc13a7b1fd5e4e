import Std.Data.HashMap
import RepoSurvey.Grammar.Production

/-!
# Items

An item is a production with a place in it.  Items that agree on everything a parser can still
observe are put into one class, and the classes are numbered.  Rules that are to be inlined are
replaced by their bodies when the place of an item reaches them.
-/

namespace RepoSurvey.Grammar

/-- A set of terminals, external tokens and the end of input, as the bits of a number. -/
abbrev TokenBits := Nat

namespace Normal

/-- The bit of a token. Variables have none. -/
def bitOf (grammar : Normal) : Sym → Nat
  | .terminal index => index
  | .external index => grammar.tokens.size + index
  | _ => grammar.tokens.size + grammar.externals.size

def finishBit (grammar : Normal) : Nat := grammar.tokens.size + grammar.externals.size

def visibilityOf (grammar : Normal) : Sym → Visibility
  | .terminal index => grammar.tokens[index]!.visibility
  | .nonterminal index => grammar.nonterminals[index]!.visibility
  | .external index => grammar.externals[index]!.visibility
  | .finish => .hidden

def nameOf (grammar : Normal) : Sym → String
  | .terminal index => grammar.tokens[index]!.name
  | .nonterminal index => grammar.nonterminals[index]!.name
  | .external index => grammar.externals[index]!.name
  | .finish => "end"

end Normal

/-- The numbers of the bits that are set, ascending. The bits are taken in blocks, so that single bits
are only looked up in small numbers. -/
def bitsToList (bits : Nat) (count : Nat) : List Nat :=
  (List.range (count / 32 + 1)).flatMap fun block =>
    let part := (bits >>> (32 * block)) % Nat.pow 2 32
    (List.range (min 32 (count - 32 * block))).filterMap fun index =>
      if part.testBit index then some (32 * block + index) else none

/-- Fields of a production: name, position, and whether the field belongs to a hidden child. -/
structure FieldEntry where
  name : String
  position : Nat
  inherited : Bool
  deriving BEq, DecidableEq, Hashable, Inhabited, Repr

/-- What a reduction needs to know of its production to name its children. -/
structure ProductionInfo where
  aliases : List (Option Alias) := []
  fields : List FieldEntry := []
  deriving BEq, DecidableEq, Hashable, Inhabited, Repr

/-- A production with its owner, or with the owner `none` for the whole document. -/
structure OwnedProduction where
  owner : Nat
  production : Production
  deriving BEq, Hashable, Inhabited

/-- A class of items. -/
structure Item where
  /-- A production of the class, and the place in it. -/
  production : Nat
  dot : Nat
  /-- The variable the production belongs to. -/
  owner : Nat
  next : Option Sym
  /-- The class of the item with the place moved on by one symbol. -/
  advanced : Nat
  /-- The classes that take the place of this one if its next symbol is inlined. -/
  replacements : Option (Array Nat)
  /-- The precedence and associativity of the symbol before the place. -/
  precedence : Precedence
  associativity : Option Associativity
  deriving Inhabited

/-- What can be said about the start of a variable: the variables that can be first in it, each
with the tokens that then follow it, and whether it can make up the whole. -/
structure Opening where
  first : Nat
  follow : TokenBits
  isWhole : Bool
  deriving Inhabited

structure ItemTable where
  grammar : Normal
  productions : Array OwnedProduction
  items : Array Item
  /-- The classes at the starts of the productions of each variable. -/
  startItems : Array (Array Nat)
  /-- The class of the item for the whole document. -/
  root : Nat
  firstOf : Array TokenBits
  lastOf : Array TokenBits
  openings : Array (Array Opening)
  infos : Array ProductionInfo
  /-- For each production, its entry in `infos`. -/
  infoOf : Array Nat
  deriving Inhabited

namespace Normal

/-- For each variable, the tokens its expansions can start with (or end with, if `atEnd`). -/
def edgeTokens (grammar : Normal) (atEnd : Bool) : Array TokenBits := Id.run do
  let edges := grammar.nonterminals.map fun entry =>
    entry.productions.toList.filterMap fun production =>
      (if atEnd then production.steps.back? else production.steps[0]?).map (·.sym)
  let mut sets : Array TokenBits := Array.replicate edges.size 0
  for _ in [0:edges.size + 1] do
    let before := sets
    for index in [0:edges.size] do
      let found := edges[index]!.foldl (fun bits sym => match sym with
        | .nonterminal other => bits ||| sets[other]!
        | sym => bits ||| 1 <<< grammar.bitOf sym) sets[index]!
      sets := sets.set! index found
    if before == sets then break
  return sets

def tokensOf (grammar : Normal) (sets : Array TokenBits) : Sym → TokenBits
  | .nonterminal index => sets[index]!
  | sym => 1 <<< grammar.bitOf sym

/-- The openings of one variable. -/
def openingsOf (grammar : Normal) (firstOf : Array TokenBits) (root : Nat) : Array Opening := Id.run do
  let mut follow : Std.HashMap Nat (TokenBits × Bool) := {}
  let mut order : Array Nat := #[]
  let mut work : List (Nat × TokenBits × Bool) := [(root, 0, true)]
  -- Every round either adds a token to a follow set or marks a variable as whole.
  for _ in [0:64 * (grammar.nonterminals.size + 1) * (grammar.finishBit + 2)] do
    match work with
    | [] => break
    | (index, bits, isWhole) :: rest =>
        work := rest
        let known := follow[index]?
        if known.isNone then order := order.push index
        let (oldBits, oldWhole) := known.getD (0, false)
        let changed := if isWhole then !oldWhole else (oldBits ||| bits) != oldBits
        if isWhole then follow := follow.insert index (oldBits, true)
        else follow := follow.insert index (oldBits ||| bits, oldWhole)
        if changed then
          for production in grammar.nonterminals[index]!.productions do
            match production.steps[0]?.map Step.sym, production.steps[1]? with
            | some (.nonterminal other), none => work := (other, bits, isWhole) :: work
            | some (.nonterminal other), some second =>
                work := (other, grammar.tokensOf firstOf second.sym, false) :: work
            | _, _ => pure ()
  return order.map fun index =>
    let (bits, isWhole) := follow.getD index (0, false)
    ⟨index, bits, isWhole⟩

/-- Puts the body of an inlined variable in the place of its use. -/
def inlineStep (host : Production) (position : Nat) (body : Production) : Production :=
  match host.steps[position]? with
  | none => host
  | some removed =>
      let lastIndex := body.steps.size - 1
      let inserted := body.steps.mapIdx fun index step =>
        let step := { step with
          shownAs := removed.shownAs <|> step.shownAs
          field := removed.field <|> step.field }
        if index == lastIndex then
          { step with
            precedence := if step.precedence == .unset then removed.precedence else step.precedence
            associativity := step.associativity <|> removed.associativity }
        else step
      { steps := host.steps.extract 0 position ++ inserted ++
          host.steps.extract (position + 1) host.steps.size
        dynamicPrecedence :=
          if body.dynamicPrecedence.natAbs > host.dynamicPrecedence.natAbs then
            body.dynamicPrecedence
          else host.dynamicPrecedence }

/-- Replaces the symbol at `position` as long as it is to be inlined. -/
def inlineAt (grammar : Normal) (position : Nat) : Nat → Production → List Production
  | 0, production => [production]
  | fuel + 1, production =>
      match production.steps[position]?.map Step.sym with
      | some (.nonterminal index) =>
          if grammar.inlined.contains (.nonterminal index) then
            grammar.nonterminals[index]!.productions.toList.flatMap fun body =>
              inlineAt grammar position fuel (inlineStep production position body)
          else [production]
      | _ => [production]

def isInlined (grammar : Normal) : Sym → Bool := grammar.inlined.contains

/-- The names of the fields that each variable's children can carry, looking through hidden
children. -/
def fieldsOfVariables (grammar : Normal) : Array (List String) := Id.run do
  let own := grammar.nonterminals.map fun entry => entry.productions.foldl (fun fields production =>
    production.steps.foldl (fun fields step => match step.field with
      | some name => if fields.contains name then fields else fields ++ [name]
      | none => fields) fields) ([] : List String)
  let isTransparent (step : Step) : Bool :=
    step.shownAs.isNone && !(grammar.visibilityOf step.sym).isVisible &&
      !grammar.groups.contains step.sym
  let mut fields := own
  for _ in [0:grammar.nonterminals.size + 1] do
    let before := fields
    for index in [0:grammar.nonterminals.size] do
      let found := grammar.nonterminals[index]!.productions.foldl (fun found production =>
        production.steps.foldl (fun found step => match step.sym with
          | .nonterminal other =>
              if isTransparent step then
                fields[other]!.foldl (fun found name =>
                  if found.contains name then found else found ++ [name]) found
              else found
          | _ => found) found) fields[index]!
      fields := fields.set! index found
    if before == fields then break
  return fields

/-- What a reduction by `production` needs. -/
def infoFor (grammar : Normal) (fieldsOf : Array (List String)) (production : Production) :
    ProductionInfo :=
  let aliases := production.steps.toList.map (·.shownAs)
  let trimmed := (aliases.reverse.dropWhile (·.isNone)).reverse
  let fields := (production.steps.mapIdx fun position step =>
    let own := step.field.toList.map fun name => FieldEntry.mk name position false
    let inherited := match step.sym with
      | .nonterminal index =>
          if grammar.nonterminals[index]!.visibility.isVisible then []
          else fieldsOf[index]!.map fun name => FieldEntry.mk name position true
      | _ => []
    own ++ inherited).toList.flatten
  ⟨trimmed, fields.mergeSort fun left right =>
    left.name < right.name || left.name == right.name && left.position ≤ right.position⟩

end Normal

namespace ItemTable

/-- The number of a symbol in the order of symbols. -/
def symCode (table : ItemTable) : Sym → Nat
  | .external index => index
  | .finish => table.grammar.externals.size
  | .terminal index => table.grammar.externals.size + 1 + index
  | .nonterminal index =>
      table.grammar.externals.size + 1 + table.grammar.tokens.size + index

def symCount (table : ItemTable) : Nat :=
  table.grammar.externals.size + 1 + table.grammar.tokens.size + table.grammar.nonterminals.size

/-- What a parser can still observe of an item: its place, its binding, the names given to the
symbols before the place, and all of the symbols after it. The symbols before the place count only
if one of them hands fields up. -/
structure Signature where
  owner : Nat
  dot : Nat
  dynamicPrecedence : Int
  precedence : Precedence
  associativity : Option Associativity
  inheritsFields : Bool
  before : List (Option Alias × Option String × Option Sym)
  after : List Step
  deriving BEq, Hashable

def Signature.of (owned : OwnedProduction) (dot : Nat) (inheritsFields : Bool) : Signature :=
  let steps := owned.production.steps
  let previous := if dot == 0 then none else steps[dot - 1]?
  { owner := owned.owner
    dot
    dynamicPrecedence := owned.production.dynamicPrecedence
    precedence := (previous.map (·.precedence)).getD .unset
    associativity := previous.bind (·.associativity)
    inheritsFields
    before := (steps.toList.take dot).map fun step =>
      (step.shownAs, step.field, if inheritsFields then some step.sym else none)
    after := steps.toList.drop dot }

def ofNormal (grammar : Normal) : ItemTable := Id.run do
  let firstOf := grammar.edgeTokens false
  let nonterminals := grammar.nonterminals.size
  let fieldsOf := grammar.fieldsOfVariables
  let handsUpFields (sym : Sym) : Bool := match sym with
    | .nonterminal index =>
        !grammar.nonterminals[index]!.visibility.isVisible && !fieldsOf[index]!.isEmpty
    | _ => false
  -- All productions, with those made by inlining. A production reached by inlining is entered
  -- once for each owner.
  let mut productions : Array OwnedProduction :=
    #[⟨nonterminals, { steps := #[{ sym := .nonterminal 0 }] }⟩]
  let mut known : Std.HashMap OwnedProduction Nat := {}
  let mut ranges : Array (List Nat) := #[]
  for index in [0:nonterminals] do
    let mut range : List Nat := []
    for production in grammar.nonterminals[index]!.productions do
      range := range ++ [productions.size]
      productions := productions.push ⟨index, production⟩
    ranges := ranges.push range
  let mut replaced : Std.HashMap (Nat × Nat) (List Nat) := {}
  let mut reached := 0
  for _ in [0:1000000] do
    if reached < productions.size then
      let owned := productions[reached]!
      if owned.owner == nonterminals || !grammar.isInlined (.nonterminal owned.owner) then
        for dot in [0:owned.production.steps.size] do
          if grammar.isInlined owned.production.steps[dot]!.sym then
            let mut results : List Nat := []
            for production in grammar.inlineAt dot nonterminals owned.production do
              let made : OwnedProduction := ⟨owned.owner, production⟩
              match known[made]? with
              | some found => results := results ++ [found]
              | none =>
                  known := known.insert made productions.size
                  results := results ++ [productions.size]
                  productions := productions.push made
            replaced := replaced.insert (reached, dot) results
      reached := reached + 1
    else break
  -- Number the classes of items.
  let mut classes : Std.HashMap Signature Nat := {}
  let mut members : Array (Nat × Nat × Bool) := #[]
  let mut classAt : Array (Array Nat) := #[]
  for index in [0:productions.size] do
    let owned := productions[index]!
    let mut row : Array Nat := #[]
    for dot in [0:owned.production.steps.size + 1] do
      for inherits in [false, true] do
        let signature := Signature.of owned dot inherits
        match classes[signature]? with
        | some found => row := row.push found
        | none =>
            classes := classes.insert signature members.size
            row := row.push members.size
            members := members.push (index, dot, inherits)
    classAt := classAt.push row
  let classOf (production dot : Nat) (inherits : Bool) : Nat :=
    (classAt[production]!)[2 * dot + inherits.toNat]!
  let items := members.map fun (production, dot, inherits) =>
    let steps := productions[production]!.production.steps
    let next := steps[dot]?.map (·.sym)
    let previous := if dot == 0 then none else steps[dot - 1]?
    { production
      dot
      owner := productions[production]!.owner
      next
      advanced := match next with
        | some sym => classOf production (dot + 1) (inherits || handsUpFields sym)
        | none => 0
      replacements := (replaced[(production, dot)]?).map fun made =>
        (made.map fun other => classOf other dot inherits).toArray
      precedence := (previous.map (·.precedence)).getD .unset
      associativity := previous.bind (·.associativity) }
  let startItems := ranges.map fun range => Id.run do
    let mut found : Array Nat := #[]
    for production in range do
      let own := classOf production 0 false
      let all := match replaced[(production, 0)]? with
        | some made => made.map fun other => classOf other 0 false
        | none => [own]
      for item in all do
        if !found.contains item then found := found.push item
    return found
  let mut infos : Array ProductionInfo := #[{}]
  let mut infoIndex : Std.HashMap ProductionInfo Nat := Std.HashMap.ofList [({}, 0)]
  let mut infoOf : Array Nat := #[]
  for owned in productions do
    let info := grammar.infoFor fieldsOf owned.production
    match infoIndex[info]? with
    | some found => infoOf := infoOf.push found
    | none =>
        infoIndex := infoIndex.insert info infos.size
        infoOf := infoOf.push infos.size
        infos := infos.push info
  return {
    grammar
    productions
    items
    startItems
    root := classOf 0 0 false
    firstOf
    lastOf := grammar.edgeTokens true
    openings := (Array.range nonterminals).map (grammar.openingsOf firstOf)
    infos
    infoOf }

end ItemTable

end RepoSurvey.Grammar
