import RepoSurvey.Grammar.Production

/-!
# Normalisation of grammars

Rules become productions in four steps: tokens are drawn out of the rules and numbered,
repetitions become variables that double themselves, choices are multiplied out, and aliases that
a symbol always carries become its default.
-/

namespace RepoSurvey.Grammar

/-- A rule after its tokens have been drawn out. -/
inductive Body
  | blank
  | sym (sym : Sym)
  | choice (options : List Body)
  | seq (parts : List Body)
  | many1 (body : Body)
  | annotated (marks : Annotation) (body : Body)
  deriving Inhabited, Repr

namespace Body

mutual

def same : Body → Body → Bool
  | .blank, .blank => true
  | .sym left, .sym right => left == right
  | .choice left, .choice right => sameList left right
  | .seq left, .seq right => sameList left right
  | .many1 left, .many1 right => same left right
  | .annotated leftNote left, .annotated rightNote right =>
      leftNote == rightNote && same left right
  | _, _ => false

def sameList : List Body → List Body → Bool
  | [], [] => true
  | left :: lefts, right :: rights => same left right && sameList lefts rights
  | _, _ => false

end

instance : BEq Body := ⟨same⟩

mutual

/-- Renames every symbol. -/
def mapSym (rename : Sym → Sym) : Body → Body
  | .blank => .blank
  | .sym leaf => .sym (rename leaf)
  | .choice options => .choice (mapSyms rename options)
  | .seq parts => .seq (mapSyms rename parts)
  | .many1 body => .many1 (mapSym rename body)
  | .annotated marks body => .annotated marks (mapSym rename body)

def mapSyms (rename : Sym → Sym) : List Body → List Body
  | [] => []
  | body :: rest => mapSym rename body :: mapSyms rename rest

end

mutual

def flattenOption (found : List Body) : Body → List Body
  | .choice options => flattenOptions found options
  | body => if found.contains body then found else found ++ [body]

def flattenOptions (found : List Body) : List Body → List Body
  | [] => found
  | option :: rest => flattenOptions (flattenOption found option) rest

end

end Body

/-! ## Tokens -/

/-- The tokens found so far, with the number of uses of each. -/
structure TokenPool where
  tokens : Array Token := #[]
  uses : Array Nat := #[]
  /-- The variable whose rule is being read, and how many nameless tokens it has had. -/
  owner : String := ""
  nameless : Nat := 0

namespace TokenPool

/-- The token with this rule, added if it is new. -/
def draw (rule : Rule) (word : Option String) : StateM TokenPool Body := do
  let pool ← get
  match pool.tokens.findIdx? (fun token => token.rule == rule) with
  | some index =>
      set { pool with uses := pool.uses.modify index (· + 1) }
      return .sym (.terminal index)
  | none =>
      let nameless := if word.isNone then pool.nameless + 1 else pool.nameless
      let token : Token := match word with
        | some word => ⟨word, .anonymous, rule⟩
        | none => ⟨pool.owner ++ "_token" ++ toString nameless, .auxiliary, rule⟩
      set { pool with tokens := pool.tokens.push token, uses := pool.uses.push 1, nameless }
      return .sym (.terminal pool.tokens.size)

mutual

/-- Draws the tokens out of a rule. Unknown names are dropped. -/
def drawAll (find : String → Option Sym) : Rule → StateM TokenPool Body
  | .blank => return .blank
  | .text word => draw (.text word) (some word)
  | .pattern pattern => draw (.pattern pattern) none
  | .ref name => return (find name).elim .blank .sym
  | .choice options => return .choice (← drawEach find options)
  | .seq parts => return .seq (← drawEach find parts)
  | .many1 body => return .many1 (← drawAll find body)
  | .annotated marks body =>
      if marks.isToken then
        let rule :=
          if { marks with isToken := false } == ({} : Annotation) then body
          else .annotated marks body
        let word := match body with
          | .text word => some word
          | _ => none
        draw rule word
      else return .annotated marks (← drawAll find body)

def drawEach (find : String → Option Sym) : List Rule → StateM TokenPool (List Body)
  | [] => return []
  | rule :: rest => return (← drawAll find rule) :: (← drawEach find rest)

end

/-- Draws the tokens out of the rule of the variable called `owner`. -/
def drawFrom (find : String → Option Sym) (owner : String) (rule : Rule) : StateM TokenPool Body := do
  modify fun pool => { pool with owner, nameless := 0 }
  drawAll find rule

end TokenPool

/-! ## Repetitions -/

/-- A variable whose rule still has choices in it. -/
structure Definition where
  name : String
  visibility : Visibility
  body : Body
  deriving Inhabited

structure Repetitions where
  /-- How many variables there were before any repetition was expanded. -/
  base : Nat
  added : Array Definition := #[]
  known : List (Body × Sym) := []
  owner : String := ""
  count : Nat := 0

namespace Repetitions

/-- Either `body` once, or two repetitions of it in a row. -/
def doubling (self : Sym) (body : Body) : Body :=
  .choice (Body.flattenOptions [] [.seq [.sym self, .sym self], body])

mutual

def expand : Body → StateM Repetitions Body
  | .many1 inner => do
      let body ← expand inner
      let state ← get
      match state.known.find? (fun entry => entry.1 == body) with
      | some entry => return .sym entry.2
      | none =>
          let count := state.count + 1
          let self := Sym.nonterminal (state.base + state.added.size)
          set { state with
            count
            known := state.known ++ [(body, self)]
            added := state.added.push
              ⟨state.owner ++ "_repeat" ++ toString count, .auxiliary, doubling self body⟩ }
          return .sym self
  | .choice options => return .choice (← expandEach options)
  | .seq parts => return .seq (← expandEach parts)
  | .annotated marks body => return .annotated marks (← expand body)
  | .sym sym => return .sym sym
  | .blank => return .blank

def expandEach : List Body → StateM Repetitions (List Body)
  | [] => return []
  | body :: rest => return (← expand body) :: (← expandEach rest)

end

/-- A hidden variable that is a repetition as a whole doubles itself. -/
def expandDefinition (index : Nat) (definition : Definition) : StateM Repetitions Definition := do
  modify fun state => { state with owner := definition.name, count := 0 }
  match definition.visibility, definition.body with
  | .hidden, .many1 inner =>
      let body ← expand inner
      return { definition with visibility := .auxiliary, body := doubling (.nonterminal index) body }
  | _, body => return { definition with body := ← expand body }

end Repetitions

/-! ## Choices -/

namespace Body

mutual

/-- The readings of a rule, each free of choices. -/
def readings : Body → List Body
  | .seq parts => readingsOfSeq [.blank] parts
  | .choice options => readingsOfChoice options
  | .annotated marks body => (readings body).map (.annotated marks)
  | body => [body]

def readingsOfSeq (done : List Body) : List Body → List Body
  | [] => done
  | part :: rest =>
      let next := readings part
      readingsOfSeq (done.flatMap fun before => next.map fun after => .seq [before, after]) rest

def readingsOfChoice : List Body → List Body
  | [] => []
  | option :: rest => readings option ++ readingsOfChoice rest

end

/-- The annotations around the part of a reading that is being written out. -/
structure Surroundings where
  precedence : Precedence := .unset
  associativity : Option Associativity := none
  shownAs : Option Alias := none
  field : Option String := none

mutual

/-- Appends the symbols of a reading. The last symbol of an annotated part takes the binding of
what surrounds the part, unless the part ends the whole reading. The flag says whether a symbol
was appended. -/
def writeOut (around : Surroundings) (atEnd : Bool) (production : Production) :
    Body → Production × Bool
  | .sym leaf =>
      let step : Step :=
        ⟨leaf, around.precedence, around.associativity, around.shownAs, around.field⟩
      ({ production with steps := production.steps.push step }, true)
  | .seq parts => writeOutSeq around atEnd production parts false
  | .annotated marks body =>
      let setsPrecedence := marks.precedence != .unset
      let inner : Surroundings :=
        { precedence := if setsPrecedence then marks.precedence else around.precedence
          associativity := marks.associativity <|> around.associativity
          shownAs := marks.shownAs <|> around.shownAs
          field := marks.field <|> around.field }
      let opened : Production :=
        if marks.dynamicPrecedence.natAbs > production.dynamicPrecedence.natAbs then
          { production with dynamicPrecedence := marks.dynamicPrecedence }
        else production
      let (written, didWrite) := writeOut inner atEnd opened body
      if didWrite && !atEnd then
        let restore (step : Step) : Step :=
          { step with
            precedence := if setsPrecedence then around.precedence else step.precedence
            associativity :=
              if marks.associativity.isSome then around.associativity
              else step.associativity }
        ({ written with steps := written.steps.modify (written.steps.size - 1) restore }, didWrite)
      else (written, didWrite)
  | _ => (production, false)

def writeOutSeq (around : Surroundings) (atEnd : Bool) (production : Production) :
    List Body → Bool → Production × Bool
  | [], didWrite => (production, didWrite)
  | [last], didWrite =>
      let (written, wrote) := writeOut around atEnd production last
      (written, didWrite || wrote)
  | part :: rest, didWrite =>
      let (written, wrote) := writeOut around false production part
      writeOutSeq around atEnd written rest (didWrite || wrote)

end

/-- The distinct productions of a rule, in order. -/
def productions (body : Body) : Array Production :=
  (readings body).foldl (fun found reading =>
    let production := (writeOut {} true {} reading).1
    if found.contains production then found else found.push production) #[]

end Body

/-! ## Default aliases -/

/-- What the uses of one symbol show: its aliases with their counts, and whether it is used bare. -/
structure AliasUse where
  counts : List (Alias × Nat) := []
  isBare : Bool := false
  deriving Inhabited

namespace AliasUse

def add (use : AliasUse) : Option Alias → AliasUse
  | none => { use with isBare := true }
  | some name =>
      if use.counts.any (·.1 == name) then
        { use with counts := use.counts.map fun entry =>
            if entry.1 == name then (entry.1, entry.2 + 1) else entry }
      else { use with counts := use.counts ++ [(name, 1)] }

/-- The most frequent alias, the earlier of two equally frequent ones. -/
def favourite (use : AliasUse) : Option Alias :=
  if use.isBare then none
  else (use.counts.foldl (fun best entry => match best with
    | none => some entry
    | some kept => if kept.2 < entry.2 then some entry else some kept) none).map (·.1)

end AliasUse

namespace Normal

/-- Every symbol that is used, in the order of tokens, variables and external tokens, with its
uses. -/
def aliasUses (grammar : Normal) : List (Sym × AliasUse) := Id.run do
  let mut tokens : Array AliasUse := Array.replicate grammar.tokens.size {}
  let mut nonterminals : Array AliasUse := Array.replicate grammar.nonterminals.size {}
  let mut externals : Array AliasUse := Array.replicate grammar.externals.size {}
  let extras : List Step := grammar.extras.map fun sym => { sym }
  let steps := grammar.nonterminals.foldl (fun steps entry =>
    entry.productions.foldl (fun steps production => steps ++ production.steps) steps) #[]
  for step in steps.toList.filter (fun step => !grammar.inlined.contains step.sym) ++ extras do
    match step.sym with
    | .terminal index => tokens := tokens.modify index (·.add step.shownAs)
    | .nonterminal index => nonterminals := nonterminals.modify index (·.add step.shownAs)
    | .external index => externals := externals.modify index (·.add step.shownAs)
    | .finish => pure ()
  return (List.range tokens.size).map (fun index => (Sym.terminal index, tokens[index]!)) ++
    (List.range nonterminals.size).map (fun index => (Sym.nonterminal index, nonterminals[index]!)) ++
    (List.range externals.size).map (fun index => (Sym.external index, externals[index]!))

/-- Whether another production of the same variable needs the alias of this step to stand where it
does. -/
def mustKeepAlias (defaults : List (Sym × Alias)) (productions : Array Production)
    (own position : Nat) (step : Step) : Bool :=
  (List.range productions.size).any fun other =>
    other != own &&
      match productions[other]!.steps[position]? with
      | some otherStep =>
          otherStep.shownAs == step.shownAs && defaults.lookup otherStep.sym != step.shownAs
      | none => false

/-- Gives each symbol that is never used bare its favourite alias as a default, and removes that
alias from the uses. -/
def withDefaultAliases (grammar : Normal) : Normal :=
  let defaults := grammar.aliasUses.filterMap fun entry => entry.2.favourite.map (entry.1, ·)
  let clear (entry : Variable) : Variable :=
    { entry with
      productions := entry.productions.mapIdx fun own production =>
        { production with
          steps := production.steps.mapIdx fun position step =>
            if step.shownAs.isSome && defaults.lookup step.sym == step.shownAs
                && !mustKeepAlias defaults entry.productions own position step then
              { step with shownAs := none }
            else step } }
  { grammar with nonterminals := grammar.nonterminals.map clear, defaultAliases := defaults }

end Normal

/-! ## The whole normalisation -/

/-- The symbol that a name stands for: a rule of that name, or else an external token. -/
def find (grammar : Grammar) (name : String) : Option Sym :=
  match grammar.rules.findIdx? (·.1 == name) with
  | some index => some (.nonterminal index)
  | none =>
      (grammar.externals.findIdx? fun
        | .ref external => external == name
        | _ => false).map .external

/-- The token that makes up a whole variable and is used nowhere else takes the variable's place.
The table gives, for each such variable, its token. -/
def promotions (definitions : Array Definition) (pool : TokenPool) :
    List (Nat × Nat) × Array Token :=
  (List.range definitions.size).foldl (fun (promoted, tokens) index =>
    let definition := definitions[index]!
    match definition.body with
    | .sym (.terminal token) =>
        if 0 < index && pool.uses[token]! == 1 &&
            (tokens[token]!.visibility == .auxiliary || definition.visibility != .hidden) then
          (promoted ++ [(index, token)], tokens.modify token fun entry =>
            { entry with name := definition.name, visibility := definition.visibility })
        else (promoted, tokens)
    | _ => (promoted, tokens)) ([], pool.tokens)

/-- Renumbers variables once those in `promoted` have become tokens. -/
def renumber (promoted : List (Nat × Nat)) : Sym → Sym
  | .nonterminal index =>
      match promoted.lookup index with
      | some token => .terminal token
      | none => .nonterminal (index - (promoted.filter (·.1 < index)).length)
  | sym => sym

/-- Inserts a symbol into an ascending list without repetitions. -/
def insertSym (sym : Sym) : List Sym → List Sym
  | [] => [sym]
  | first :: rest =>
      if sym == first then first :: rest
      else if sym.before first then sym :: first :: rest
      else first :: insertSym sym rest

def normalize (grammar : Grammar) : Normal := Id.run do
  let find := grammar.find
  let isGroup (name : String) := grammar.groups.contains name
  let drawVariables : StateM TokenPool (Array Definition × List Body) := do
    let definitions ← grammar.rules.toArray.mapM fun (name, rule) => do
      let visibility := if isGroup name then .hidden else Visibility.ofName name
      return Definition.mk name visibility (← TokenPool.drawFrom find name rule)
    let externals ← grammar.externals.mapM fun rule =>
      TokenPool.drawFrom find (match rule with | .ref name => name | _ => "") rule
    return (definitions, externals)
  let ((drawn, externalBodies), pool) := drawVariables.run {}
  let (promoted, tokens) := promotions drawn pool
  let rename := renumber promoted
  let definitions := ((drawn.mapIdx fun index definition => (index, definition)).filter
    fun entry => (promoted.lookup entry.1).isNone).map fun entry =>
      { entry.2 with body := entry.2.body.mapSym rename }
  -- Repetitions become variables of their own.
  let expandAll : StateM Repetitions (Array Definition) :=
    (definitions.mapIdx fun index definition => (index, definition)).mapM fun entry =>
      Repetitions.expandDefinition entry.1 entry.2
  let (expanded, repetitions) := expandAll.run { base := definitions.size }
  let nonterminals := (expanded ++ repetitions.added).map fun definition =>
    Variable.mk definition.name definition.visibility definition.body.productions
  -- Extras are symbols, known tokens, or else separators.
  let mut extras : List Sym := []
  let mut separators : List Rule := []
  for rule in grammar.extras do
    let sym := match rule with
      | .ref name => (find name).map rename
      | _ => (tokens.findIdx? fun (token : Token) => token.rule == rule).map .terminal
    match sym with
    | some sym => extras := extras ++ [sym]
    | none => separators := separators ++ [rule]
  let externals := (grammar.externals.zip externalBodies).map fun (rule, body) =>
    let name := match rule with
      | .ref name => name
      | _ => ""
    let visibility := match rule with
      | .ref name => Visibility.ofName name
      | _ => .anonymous
    match body.mapSym rename with
    | .sym (.terminal token) => External.mk tokens[token]!.name visibility (some token)
    | _ => External.mk name visibility none
  let symbolsOf (names : List String) := names.filterMap fun name => (find name).map rename
  let doubled := (List.range expanded.size).filter fun index =>
    expanded[index]!.visibility == .auxiliary && definitions[index]!.visibility == .hidden
  let normal : Normal :=
    { nonterminals
      tokens
      externals := externals.toArray
      separators
      extras
      conflicts := grammar.conflicts.map fun names => (symbolsOf names).foldr insertSym []
      rankings := grammar.rankings
      groups := symbolsOf grammar.groups
      inlined := (symbolsOf grammar.inlined).filter fun
        | .nonterminal index => !doubled.contains index
        | _ => true
      word := match grammar.word.bind find |>.map rename with
        | some (.terminal token) => some token
        | _ => none }
  return normal.withDefaultAliases

end RepoSurvey.Grammar
