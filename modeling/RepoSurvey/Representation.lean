import RepoSurvey.Category
import RepoSurvey.Json.Reader
import RepoSurvey.Languages
import RepoSurvey.Markup.Document
import RepoSurvey.Prose.Render
import RepoSurvey.Schema.Graph
import RepoSurvey.Script.Document
import RepoSurvey.Stylesheet.Document

/-!
# Representations

What is recorded of the content of a file: a syntax tree, a schema, a document or a tree of rules.
-/

namespace RepoSurvey

open RepoSurvey.Graph

inductive Representation
  | syntaxTree (dialect : Script.Dialect) (source : String) (root : SyntaxNode)
  | schema (schema : SchemaNode)
  /-- A document without a tree is empty. -/
  | document (source : String) (tree : Option SyntaxNode)
  | ruleTree (source : String) (root : SyntaxNode)

namespace Representation

/-- The key under which a representation is recorded. -/
def key : Representation → String
  | syntaxTree .. | schema _ => "ast"
  | document .. => "dom"
  | ruleTree .. => "cssAst"

/-- The graph of a representation. -/
def object : Representation → Build Value
  | syntaxTree dialect source root => Script.fileObject dialect source root
  | schema node => node.documentObject
  | document source tree => Markup.rootObject source tree
  | ruleTree source root => Stylesheet.sheetObject source root

end Representation

/-- Content that is not what its category promises. -/
structure ParseError where
  category : Category
  message : String
  deriving DecidableEq, Repr

def ParseError.display (error : ParseError) : String :=
  error.category.name ++ " parse error: " ++ error.message

/-- What becomes of content: it is represented, or passed over for a reason. -/
inductive ParseOutcome
  | parsed (representation : Representation)
  | skipped (reason : String)

namespace Languages

/-- The syntax tree of a text without errors. -/
def soundTree (language : Parsing.Language) (category : Category) (content : String) :
    Except ParseError SyntaxNode :=
  match language.parse? content with
  | none => .error ⟨category, "parser produced no tree"⟩
  | some root =>
      if root.label.hasError then .error ⟨category, root.describeFirstError content⟩ else .ok root

/-- Represents content of a category that is parsed. The path tells the dialect of a script. -/
def represent (languages : Languages) (describesItems : Bool) (category : Category)
    (path content : String) : Except ParseError ParseOutcome := do
  match category with
  | .script =>
      let dialect := Script.Dialect.ofPath path
      let root ← soundTree (languages.script dialect) .script content
      return .parsed (.syntaxTree dialect content root)
  | .structuredData =>
      match Json.read content with
      | .error error => throw ⟨.structuredData, error.message⟩
      | .ok value => return .parsed (.schema (.ofValue describesItems value))
  | .markup => return .parsed (.document content (languages.markup.parse? content))
  | .stylesheet =>
      return .parsed (.ruleTree content (← soundTree languages.stylesheet .stylesheet content))
  | .prose =>
      let html := Prose.renderHtml content
      return .parsed (.document html (languages.markup.parse? html))
  | .media | .unsupported => return .skipped category.skipReason

end Languages

end RepoSurvey
