import RepoSurvey.Json.Text

/-!
# Layouts

How the parts of a document are set: in one line, or with each part on a line of its own.
-/

namespace RepoSurvey.Graph

/-- Whether brackets belong to an array or to an object. -/
inductive BracketKind
  | array
  | object
  deriving BEq, DecidableEq, Repr

namespace BracketKind

def opening : BracketKind → String
  | array => "["
  | object => "\x7b"

def closing : BracketKind → String
  | array => "]"
  | object => "\x7d"

end BracketKind

/-- The state of a layout. The layout with lines of their own keeps count of the open containers,
and of whether the innermost one has got a part yet. -/
inductive Layout
  | compact
  | pretty (depth : Nat) (hasPart : Bool)
  deriving BEq, DecidableEq, Repr

namespace Layout

def start : Layout := .pretty 0 false

/-- Line break and indentation, two blanks for each open container. -/
def newline (depth : Nat) : String := "\n" ++ "".pushn ' ' (2 * depth)

def beginContainer (kind : BracketKind) : Layout → String × Layout
  | compact => (kind.opening, compact)
  | pretty depth _ => (kind.opening, pretty (depth + 1) false)

def endContainer (kind : BracketKind) : Layout → String × Layout
  | compact => (kind.closing, compact)
  | pretty depth hasPart =>
      ((if hasPart then newline (depth - 1) else "") ++ kind.closing, pretty (depth - 1) hasPart)

/-- What comes before an element or a key. -/
def beginPart (isFirst : Bool) : Layout → String
  | compact => if isFirst then "" else ","
  | pretty depth _ => (if isFirst then "" else ",") ++ newline depth

/-- What stands between a key and its value. -/
def afterKey : Layout → String
  | compact => ":"
  | pretty .. => ": "

/-- After an element or the value of a key. -/
def endPart : Layout → Layout
  | compact => compact
  | pretty depth _ => pretty depth true

end Layout

end RepoSurvey.Graph
