import RepoSurvey.Yaml.Token

/-!
# Block texts

A block text consists of the lines that are indented further than what holds it.  A header says how to
read its last line breaks and may say how far it is indented.  In a folded text a line break between
two lines that start with a word is read as a space.
-/

namespace RepoSurvey.Yaml

/-- What becomes of the line breaks at the end of a block text. -/
inductive Chomping
  | strip
  | clip
  | keep
  deriving BEq, DecidableEq, Repr

structure BlockHeader where
  chomping : Chomping := .clip
  /-- How far the text is indented beyond what holds it, if the header says so. -/
  indentation : Option Nat := none
  deriving Repr

namespace BlockHeader

def activity : String := "while scanning a block scalar"

def chompingOf? : Char → Option Chomping
  | '+' => some .keep
  | '-' => some .strip
  | _ => none

/-- Reads the mark that says what becomes of the last line breaks. -/
def readChomping (header : BlockHeader) (cursor : Cursor) : BlockHeader × Cursor :=
  match cursor.rest.head?.bind chompingOf? with
  | some chomping => ({ header with chomping }, cursor.along 1)
  | none => (header, cursor)

/-- Reads the digit that says how far the text is indented. -/
def readIndentation (header : BlockHeader) (cursor : Cursor) (start : Mark) :
    Except Failure (BlockHeader × Cursor) :=
  match cursor.rest with
  | digit :: _ =>
      if !digit.isDigit then .ok (header, cursor)
      else if digit == '0' then
        .error (cursor.failure "found an indentation indicator equal to 0" activity start)
      else .ok ({ header with indentation := some (digit.toNat - '0'.toNat) }, cursor.along 1)
  | [] => .ok (header, cursor)

/-- Reads the two marks in either order, and the rest of the line. -/
def read (cursor : Cursor) (start : Mark) : Except Failure (BlockHeader × Cursor) := do
  let (header, cursor) := ({} : BlockHeader).readChomping cursor
  let (header, cursor) ← header.readIndentation cursor start
  let (header, cursor) :=
    if header.chomping == .clip then header.readChomping cursor else (header, cursor)
  return (header, ← cursor.endLine activity start)

end BlockHeader

/-- A block text that is being read. What is written is in reverse order. -/
structure BlockLines where
  isLiteral : Bool
  /-- The column where the lines start, once it is known. -/
  column : Option Nat
  /-- The least column where they can start. -/
  least : Nat
  /-- The last column seen before the first line. -/
  widest : Nat := 0
  written : List Char := []
  isInLine : Bool := false
  /-- Whether the last line starts with a blank. -/
  wasIndented : Bool := false
  /-- What the break that ends the last line is read as. -/
  first : Option Char := none
  /-- The line breaks of the empty lines behind it. -/
  more : List Char := []
  deriving Repr

namespace BlockLines

/-- Whether a column still belongs to the indentation. -/
def isMargin (lines : BlockLines) (column : Nat) : Bool :=
  match lines.column with
  | none => true
  | some start => column < start

def see (lines : BlockLines) (column : Nat) : BlockLines :=
  { lines with widest := max lines.widest column }

/-- Settles where the lines start, when the first of them or the end is at a column. -/
def settle (lines : BlockLines) (column : Nat) : BlockLines :=
  match lines.column with
  | some _ => lines
  | none => { lines with column := some (max (max lines.widest column) lines.least) }

/-- Starts a line with its first character. -/
def startLine (lines : BlockLines) (character : Char) : BlockLines :=
  let isIndented := isBlank character
  let isFolded := !lines.isLiteral && lines.first == some '\n' && !lines.wasIndented && !isIndented
  let separation :=
    if isFolded then if lines.more.isEmpty then [' '] else lines.more
    else lines.more ++ lines.first.toList
  { lines with
    written := character :: (separation ++ lines.written)
    isInLine := true
    wasIndented := isIndented
    first := none
    more := [] }

def push (lines : BlockLines) (character : Char) : BlockLines :=
  { lines with written := character :: lines.written }

def endLine (lines : BlockLines) (character : Char) : BlockLines :=
  { lines with isInLine := false, first := some (readBreak character) }

def emptyLine (lines : BlockLines) (character : Char) : BlockLines :=
  { lines with more := readBreak character :: lines.more }

def text (lines : BlockLines) (chomping : Chomping) : String :=
  let ending := match chomping with
    | .strip => []
    | .clip => lines.first.toList
    | .keep => lines.more ++ lines.first.toList
  String.ofList (ending ++ lines.written).reverse

end BlockLines

/-- Reads the lines of a block text. -/
def blockLines (start : Mark) (lines : BlockLines) (mark : Mark) (characters : List Char) :
    Except Failure (BlockLines × Cursor) :=
  match characters with
  | [] => .ok (lines, ⟨[], mark⟩)
  | character :: rest =>
      let width := breakWidth (character :: rest)
      if lines.isInLine then
        if isBreak character then
          blockLines start (lines.endLine character) (mark.nextLine width)
            ((character :: rest).drop width)
        else blockLines start (lines.push character) (mark.along 1) rest
      else if character == ' ' && lines.isMargin mark.column then
        blockLines start lines (mark.along 1) rest
      else if character == '\t' && lines.isMargin mark.column then
        .error ⟨"found a tab character where an indentation space is expected", mark,
          some (BlockHeader.activity, start), 0⟩
      else if isBreak character then
        blockLines start ((lines.see mark.column).emptyLine character) (mark.nextLine width)
          ((character :: rest).drop width)
      else
        let lines := lines.settle mark.column
        if lines.column == some mark.column then
          blockLines start (lines.startLine character) (mark.along 1) rest
        else .ok (lines, ⟨character :: rest, mark⟩)
termination_by characters.length
decreasing_by
  all_goals simp_all only [List.length_cons, List.length_drop]
  all_goals have := breakWidth_pos (character :: rest)
  all_goals omega

/-- Reads a block text from behind the sign that opens it. What holds the text is indented by
`indent`, or not at all. -/
def blockText (isLiteral : Bool) (indent : Int) (start : Mark) (cursor : Cursor) :
    Except Failure (String × Cursor) := do
  let (header, cursor) ← BlockHeader.read cursor start
  let column := header.indentation.map fun further => (max indent 0).toNat + further
  let lines : BlockLines := { isLiteral, column, least := (max (indent + 1) 1).toNat }
  let (lines, cursor) ← blockLines start lines cursor.mark cursor.rest
  return (lines.text header.chomping, cursor)

end RepoSurvey.Yaml
