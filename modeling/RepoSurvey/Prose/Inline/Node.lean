/-!
# Rich text

The content of paragraphs, headings and cells.
-/

namespace RepoSurvey.Prose

inductive Style
  | emphasis
  | strong
  | strikethrough
  deriving BEq, DecidableEq, Repr

/-- What a link leads to. -/
structure Target where
  destination : String
  title : String := ""
  isMailbox : Bool := false
  deriving BEq, DecidableEq, Repr

inductive Inline
  | text (text : String)
  | code (text : String)
  /-- Markup that is passed on. -/
  | markup (text : String)
  | softBreak
  | hardBreak
  | styled (style : Style) (content : List Inline)
  | link (target : Target) (content : List Inline)
  | image (target : Target) (content : List Inline)
  | footnote (name : String)
  deriving Inhabited

end RepoSurvey.Prose
