import RepoSurvey.Grammar.Rule

/-!
# Productions

The normal form of a grammar: numbered variables with flat productions over numbered tokens,
variables and externally recognised tokens.
-/

namespace RepoSurvey.Grammar

/-- A grammar symbol. Tokens, external tokens and variables are each numbered from zero. -/
inductive Sym
  | external (index : Nat)
  | finish
  | terminal (index : Nat)
  | nonterminal (index : Nat)
  deriving BEq, DecidableEq, Hashable, Inhabited, Repr

namespace Sym

/-- External tokens come first, then the end of input, tokens and variables. -/
def rank : Sym → Nat × Nat
  | external index => (0, index)
  | finish => (1, 0)
  | terminal index => (2, index)
  | nonterminal index => (3, index)

def before (left right : Sym) : Bool :=
  left.rank.1 < right.rank.1 || left.rank.1 == right.rank.1 && left.rank.2 < right.rank.2

def isNonterminal : Sym → Bool
  | nonterminal _ => true
  | _ => false

end Sym

/-- How a symbol shows in a tree. Helper symbols made by the compiler are `auxiliary`. -/
inductive Visibility
  | named
  | anonymous
  | hidden
  | auxiliary
  deriving BEq, DecidableEq, Inhabited, Repr

def Visibility.isVisible : Visibility → Bool
  | named | anonymous => true
  | hidden | auxiliary => false

/-- Names that start with an underscore are hidden. -/
def Visibility.ofName (name : String) : Visibility :=
  if name.startsWith "_" then hidden else named

/-- One symbol of a production, with what is said about it there. -/
structure Step where
  sym : Sym
  precedence : Precedence := .unset
  associativity : Option Associativity := none
  shownAs : Option Alias := none
  field : Option String := none
  deriving BEq, DecidableEq, Hashable, Inhabited, Repr

structure Production where
  steps : Array Step := #[]
  dynamicPrecedence : Int := 0
  deriving BEq, Hashable, Inhabited, Repr

structure Variable where
  name : String
  visibility : Visibility
  productions : Array Production
  deriving Inhabited

structure Token where
  name : String
  visibility : Visibility
  rule : Rule
  deriving Inhabited

structure External where
  name : String
  visibility : Visibility
  /-- The token of the same name that is also recognised by its rule. -/
  token : Option Nat
  deriving Inhabited

/-- A grammar in normal form. -/
structure Normal where
  nonterminals : Array Variable
  tokens : Array Token
  externals : Array External
  /-- What may stand in front of a token without being one. -/
  separators : List Rule
  /-- Symbols that may stand anywhere. -/
  extras : List Sym
  conflicts : List (List Sym)
  rankings : List (List Rank)
  groups : List Sym
  inlined : List Sym
  word : Option Nat
  /-- The name under which a symbol shows that is never used under its own. -/
  defaultAliases : List (Sym × Alias) := []
  deriving Inhabited

end RepoSurvey.Grammar
