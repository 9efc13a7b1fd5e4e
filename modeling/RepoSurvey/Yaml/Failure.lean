/-!
# What can be wrong with a YAML text

A failure tells a problem and where it is, and often what was being read at that moment.
-/

namespace RepoSurvey.Yaml

/-- A place in a text: how many lines come before, and how many characters of its line. -/
structure Mark where
  line : Nat := 0
  column : Nat := 0
  /-- How many characters of the text come before. -/
  index : Nat := 0
  deriving BEq, DecidableEq, Inhabited, Repr

namespace Mark

/-- The place some characters further on the same line. -/
def along (mark : Mark) (count : Nat) : Mark :=
  ⟨mark.line, mark.column + count, mark.index + count⟩

/-- The start of the next line, behind a line break of so many characters. -/
def nextLine (mark : Mark) (count : Nat) : Mark := ⟨mark.line + 1, 0, mark.index + count⟩

/-- The place as it is told. Nothing is told about the start of the text. -/
def text (mark : Mark) : String :=
  if mark.line == 0 && mark.column == 0 then ""
  else s!" at line {mark.line + 1} column {mark.column + 1}"

end Mark

structure Failure where
  problem : String
  mark : Mark := {}
  /-- What was being read, and where it started. -/
  context : Option (String × Mark) := none
  /-- The byte that is to blame, where characters are not yet counted. -/
  byte : Nat := 0
  deriving BEq, DecidableEq, Repr

namespace Failure

/-- The place of the problem as it is told. -/
def place (failure : Failure) : String :=
  if failure.mark.text.isEmpty && failure.byte != 0 then s!" at position {failure.byte}"
  else failure.mark.text

/-- What is told about what was being read. Its place is left out if it is the place of the problem. -/
def contextText (failure : Failure) : String :=
  match failure.context with
  | none => ""
  | some (activity, mark) =>
      let isElsewhere := mark.line != failure.mark.line || mark.column != failure.mark.column
      ", " ++ activity ++ (if isElsewhere then mark.text else "")

def message (failure : Failure) : String :=
  failure.problem ++ failure.place ++ failure.contextText

end Failure

end RepoSurvey.Yaml
