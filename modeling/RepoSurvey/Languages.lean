import RepoSurvey.Grammar.Compile
import RepoSurvey.Markup.Grammar
import RepoSurvey.Markup.Scanner
import RepoSurvey.Parsing.Visible
import RepoSurvey.Script.Grammar
import RepoSurvey.Script.Scanner
import RepoSurvey.Stylesheet.Grammar
import RepoSurvey.Stylesheet.Scanner

/-!
# Languages

The languages whose syntax trees are read, each with its parse table.
-/

namespace RepoSurvey

open Parsing

def scriptLanguage (dialect : Script.Dialect) : Language :=
  { table := (Script.grammar dialect).compile, scanner := Script.scanner }

def markupLanguage : Language :=
  { table := Markup.grammar.compile, scanner := Markup.scanner }

def stylesheetLanguage : Language :=
  { table := Stylesheet.grammar.compile, scanner := Stylesheet.scanner }

/-- The languages at hand. Making them takes a while, so they are made once and passed on. -/
structure Languages where
  script : Script.Dialect → Language := scriptLanguage
  markup : Language := markupLanguage
  stylesheet : Language := stylesheetLanguage

end RepoSurvey
