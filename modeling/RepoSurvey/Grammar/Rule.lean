import RepoSurvey.Text.CharSet

/-!
# Grammar rules

A grammar is a list of named rules over texts, character patterns and references, each part of a
rule carrying at most one annotation of precedence, alias, field or token status.  The combinators
below keep that last property: a second annotation around an annotated rule is merged into it,
unless the inner one already makes a token.
-/

namespace RepoSurvey

namespace Grammar

/-- How strongly a rule binds when two readings compete. -/
inductive Precedence
  | unset
  | level (value : Int)
  | named (name : String)
  deriving BEq, DecidableEq, Hashable, Inhabited, Repr

inductive Associativity
  | left
  | right
  deriving BEq, DecidableEq, Hashable, Inhabited, Repr

/-- The name under which an occurrence of a symbol shows in the tree. -/
structure Alias where
  name : String
  isNamed : Bool
  deriving BEq, DecidableEq, Hashable, Inhabited, Repr

/-- A regular expression over characters. -/
inductive Pattern
  | empty
  | chars (set : CharSet)
  | chain (first second : Pattern)
  | either (first second : Pattern)
  | many1 (body : Pattern)
  deriving BEq, Hashable, Inhabited, Repr

namespace Pattern

def char (character : Char) : Pattern := .chars (.single character)

/-- One of the characters of `text`. -/
def oneOf (text : String) : Pattern := .chars (.ofString text)

/-- A character that is not one of `set`. -/
def noneOf (set : CharSet) : Pattern := .chars set.complement

def seq : List Pattern → Pattern
  | [] => .empty
  | [only] => only
  | first :: rest => .chain first (seq rest)

def choice : List Pattern → Pattern
  | [] => .chars .empty
  | [only] => only
  | first :: rest => .either first (choice rest)

def optional (body : Pattern) : Pattern := .either body .empty

def many (body : Pattern) : Pattern := .either (.many1 body) .empty

def text (word : String) : Pattern := seq (word.toList.map char)

/-- Between `least` and `least + extra` copies of `body`. -/
def times (body : Pattern) (least extra : Nat) : Pattern :=
  seq (List.replicate least body ++ [upTo extra])
where
  upTo : Nat → Pattern
    | 0 => .empty
    | count + 1 => .either (.chain body (upTo count)) .empty

end Pattern

/-- What is said about one part of a rule. -/
structure Annotation where
  precedence : Precedence := .unset
  dynamicPrecedence : Int := 0
  associativity : Option Associativity := none
  /-- The part is one token, with no blanks inside. -/
  isToken : Bool := false
  /-- The token must follow the token before it with nothing between. -/
  isImmediate : Bool := false
  shownAs : Option Alias := none
  field : Option String := none
  deriving BEq, DecidableEq, Hashable, Inhabited, Repr

inductive Rule
  | blank
  | text (word : String)
  | pattern (pattern : Pattern)
  | ref (name : String)
  | choice (options : List Rule)
  | seq (parts : List Rule)
  | many1 (body : Rule)
  | annotated (marks : Annotation) (body : Rule)
  deriving Inhabited, Repr

namespace Rule

mutual

/-- Structural equality of rules. -/
def same : Rule → Rule → Bool
  | .blank, .blank => true
  | .text left, .text right => left == right
  | .pattern left, .pattern right => left == right
  | .ref left, .ref right => left == right
  | .choice left, .choice right => sameList left right
  | .seq left, .seq right => sameList left right
  | .many1 left, .many1 right => same left right
  | .annotated leftNote left, .annotated rightNote right =>
      leftNote == rightNote && same left right
  | _, _ => false

def sameList : List Rule → List Rule → Bool
  | [], [] => true
  | left :: lefts, right :: rights => same left right && sameList lefts rights
  | _, _ => false

end

instance : BEq Rule := ⟨same⟩

mutual

/-- Lists the options of nested choices, each kept at its first occurrence. -/
def flattenOption (found : List Rule) : Rule → List Rule
  | .choice options => flattenOptions found options
  | rule => if found.contains rule then found else found ++ [rule]

def flattenOptions (found : List Rule) : List Rule → List Rule
  | [] => found
  | option :: rest => flattenOptions (flattenOption found option) rest

end

end Rule

/-- A choice, with choices directly inside it dissolved and repeated options dropped. -/
def oneOf (options : List Rule) : Rule := .choice (Rule.flattenOptions [] options)

def seq (parts : List Rule) : Rule := .seq parts

def optional (rule : Rule) : Rule := oneOf [rule, .blank]

def many1 (rule : Rule) : Rule := .many1 rule

def many (rule : Rule) : Rule := oneOf [.many1 rule, .blank]

/-- One or more `item`s with `separator` between them. -/
def separated1 (separator item : Rule) : Rule := seq [item, many (seq [separator, item])]

def separated (separator item : Rule) : Rule := optional (separated1 separator item)

/-- Annotates `rule`, merging with an annotation already there unless that one makes a token. -/
def annotate (change : Annotation → Annotation) : Rule → Rule
  | .annotated marks body =>
      if marks.isToken then .annotated (change {}) (.annotated marks body)
      else .annotated (change marks) body
  | rule => .annotated (change {}) rule

def binding (precedence : Precedence) : Rule → Rule :=
  annotate fun note => { note with precedence }

def bindingLeft (precedence : Precedence) : Rule → Rule :=
  annotate fun note => { note with precedence, associativity := some .left }

def bindingRight (precedence : Precedence) : Rule → Rule :=
  annotate fun note => { note with precedence, associativity := some .right }

/-- Prefers a whole reading over another by `level` once both have been completed. -/
def preferring (level : Int) : Rule → Rule :=
  annotate fun note => { note with dynamicPrecedence := level }

def token : Rule → Rule := annotate fun note => { note with isToken := true }

def immediate : Rule → Rule :=
  annotate fun note => { note with isToken := true, isImmediate := true }

def field (name : String) : Rule → Rule := annotate fun note => { note with field := some name }

/-- Shows `rule` in the tree as a node called `name`. -/
def shownAs (name : String) : Rule → Rule :=
  annotate fun note => { note with shownAs := some ⟨name, true⟩ }

/-- Shows `rule` in the tree as the bare token `name`. -/
def shownAsToken (name : String) : Rule → Rule :=
  annotate fun note => { note with shownAs := some ⟨name, false⟩ }

instance : Coe String Rule := ⟨.text⟩

/-- The rule of that name. -/
def rule (name : String) : Rule := .ref name

/-- A named rule. -/
def define (name : String) (body : Rule) : String × Rule := (name, body)

/-- An entry of an ordering of precedences: a name, or every rule for one symbol. -/
inductive Rank
  | named (name : String)
  | symbol (name : String)
  deriving BEq, Repr

end Grammar

open Grammar in
/-- A grammar before it is compiled. The first rule is the one for whole documents. -/
structure Grammar where
  rules : List (String × Rule)
  /-- What may stand between any two tokens. -/
  extras : List Rule := []
  /-- Sets of symbols that are allowed to compete. -/
  conflicts : List (List String) := []
  /-- Orderings of named precedences, the strongest first. -/
  rankings : List (List Rank) := []
  /-- Tokens recognised by hand-written code. -/
  externals : List Rule := []
  /-- Rules that are replaced by their bodies wherever they are used. -/
  inlined : List String := []
  /-- Hidden rules that only group other rules. -/
  groups : List String := []
  /-- The token of which keywords are special cases. -/
  word : Option String := none

end RepoSurvey
