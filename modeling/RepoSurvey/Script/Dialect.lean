import RepoSurvey.Grammar.Rule
import RepoSurvey.Text.Trim

/-!
# Script dialects

Scripts are read in one of two dialects.  They differ in what a name in angle brackets means before
an expression: markup in one, a type assertion in the other.
-/

namespace RepoSurvey.Script

inductive Dialect
  | tsx
  | typescript
  deriving DecidableEq, Repr

def Dialect.name : Dialect → String
  | tsx => "tsx"
  | typescript => "typescript"

/-- The dialect of a file, told from the end of its path. -/
def Dialect.ofPath (path : String) : Dialect :=
  if [".ts", ".mts", ".cts"].any fun ending => (withoutSuffix? ending (asciiLower path)).isSome then
    typescript
  else tsx

end RepoSurvey.Script

namespace RepoSurvey.Grammar

def commaSeparated1 (item : Rule) : Rule := separated1 "," item

def commaSeparated (item : Rule) : Rule := separated "," item

/-- The words of `texts`, as rules. -/
def wordsOf (texts : List String) : List Rule := texts.map .text

end RepoSurvey.Grammar
