import RepoSurvey.Yaml.Cursor

/-!
# Tokens of YAML
-/

namespace RepoSurvey.Yaml

/-- How the text of a value is written. -/
inductive TextStyle
  | plain
  | quoted
  | literal
  | folded
  deriving BEq, DecidableEq, Repr

/-- A tag as it is written: a handle that stands for the start of a name, and the rest of the name.
Without a handle the name is complete. -/
structure TagName where
  handle : String
  suffix : String
  deriving BEq, DecidableEq, Repr

inductive TokenKind
  | version (major minor : Nat)
  /-- From here on the handle stands for these characters. -/
  | handle (handle start : String)
  | documentStart
  | documentEnd
  | streamEnd
  | blockSequenceStart
  | blockMappingStart
  | blockEnd
  | flowSequenceStart
  | flowSequenceEnd
  | flowMappingStart
  | flowMappingEnd
  | blockEntry
  | flowEntry
  | key
  | value
  | reference (name : String)
  | anchor (name : String)
  | tag (name : TagName)
  | text (content : String) (style : TextStyle)
  deriving BEq, DecidableEq, Repr

structure Token where
  kind : TokenKind
  start : Mark
  stop : Mark
  deriving BEq, DecidableEq, Repr

end RepoSurvey.Yaml
