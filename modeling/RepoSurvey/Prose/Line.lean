/-!
# Lines

A document is a list of lines, each with the line feed that ends it.  The start of a line is read
with a cursor that knows how wide tabulators are: they reach to the next multiple of four columns,
and may be used up one column at a time.
-/

namespace RepoSurvey.Prose

abbrev Line := List Char

/-- Splits a text into lines, given the start of the first line in reverse. -/
def splitLines (started : List Char) : List Char → List Line
  | [] => if started.isEmpty then [] else [started.reverse]
  | '\r' :: '\n' :: rest => ('\n' :: started).reverse :: splitLines [] rest
  | character :: rest =>
      if character == '\n' || character == '\r' then
        ('\n' :: started).reverse :: splitLines [] rest
      else splitLines (character :: started) rest

/-- The lines of a text. All line ends become line feeds; the last line may lack one. -/
def linesOf (text : List Char) : List Line := splitLines [] text

/-- White space that does not end a line. -/
def isBlankChar (character : Char) : Bool :=
  character == ' ' || character == '\t' || character == '\x0b' || character == '\x0c'

/-- White space, line feeds included. -/
def isSpaceChar (character : Char) : Bool := isBlankChar character || character == '\n'

def isPunctuationChar (character : Char) : Bool :=
  let code := character.toNat
  (0x21 ≤ code && code ≤ 0x2F) || (0x3A ≤ code && code ≤ 0x40) || (0x5B ≤ code && code ≤ 0x60) ||
    (0x7B ≤ code && code ≤ 0x7E)

/-- Whether nothing is left of a line. -/
def isAtEnd : Line → Bool
  | [] => true
  | character :: _ => character == '\n'

/-- Whether the rest of a line holds nothing but white space. -/
def isBlank (line : Line) : Bool := isAtEnd (line.dropWhile isBlankChar)

/-- How often a character is repeated at the start. -/
def runLength (character : Char) (line : List Char) : Nat :=
  (line.takeWhile (· == character)).length

/-- A list without the elements at its end that satisfy a test. -/
def dropLastWhile (test : Char → Bool) (characters : List Char) : List Char :=
  (characters.reverse.dropWhile test).reverse

/-- A place in a line. -/
structure Cursor where
  rest : Line
  /-- The columns since the start of the line or the last tabulator. -/
  column : Nat := 0
  /-- The columns of the last tabulator that have not been used up. -/
  spare : Nat := 0
  deriving Repr

namespace Cursor

def isAtEnd (cursor : Cursor) : Bool := Prose.isAtEnd cursor.rest

/-- Goes over one character that is no tabulator. -/
def next (cursor : Cursor) : Cursor :=
  { cursor with rest := cursor.rest.tail, column := cursor.column + 1 }

/-- Goes over blanks in a line, at most `wanted` columns wide. The answer is how many are missing. -/
def skipColumnsIn (wanted column : Nat) : Line → Nat × Cursor
  | [] => (wanted, ⟨[], column, 0⟩)
  | character :: rest =>
      if wanted == 0 then (0, ⟨character :: rest, column, 0⟩)
      else if character == ' ' then skipColumnsIn (wanted - 1) (column + 1) rest
      else if character == '\t' then
        let width := 4 - column % 4
        if width ≤ wanted then skipColumnsIn (wanted - width) 0 rest
        else (0, ⟨rest, 0, width - wanted⟩)
      else (wanted, ⟨character :: rest, column, 0⟩)

/-- Goes over white space at most `wanted` columns wide. The answer is how many are missing. -/
def skipColumns (wanted : Nat) (cursor : Cursor) : Nat × Cursor :=
  if wanted ≤ cursor.spare then (0, { cursor with spare := cursor.spare - wanted })
  else skipColumnsIn (wanted - cursor.spare) cursor.column cursor.rest

/-- Goes over exactly this many columns of white space, if there are so many. -/
def indented? (wanted : Nat) (cursor : Cursor) : Option Cursor :=
  match cursor.skipColumns wanted with
  | (0, after) => some after
  | _ => none

/-- Goes over up to this many columns. The answer is how many there were. -/
def indentation (limit : Nat) (cursor : Cursor) : Nat × Cursor :=
  let (missing, after) := cursor.skipColumns limit
  (limit - missing, after)

/-- Goes over all blanks and tabulators. -/
def skipBlanks (cursor : Cursor) : Cursor :=
  { cursor with rest := cursor.rest.dropWhile fun c => c == ' ' || c == '\t', spare := 0 }

/-- What is left of the line, with blanks for what is left of a tabulator. -/
def remainder (cursor : Cursor) : Line := List.replicate cursor.spare ' ' ++ cursor.rest

end Cursor

end RepoSurvey.Prose
