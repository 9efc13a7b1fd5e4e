/-!
# Source text

A text as an array of characters, and places in it measured in bytes, rows and bytes within the
row.
-/

namespace RepoSurvey.Parsing

/-- A distance in a text. The column counts bytes after the last line feed. -/
structure Extent where
  bytes : Nat := 0
  row : Nat := 0
  column : Nat := 0
  deriving BEq, DecidableEq, Inhabited, Repr

namespace Extent

def add (left right : Extent) : Extent :=
  { bytes := left.bytes + right.bytes
    row := left.row + right.row
    column := if 0 < right.row then right.column else left.column + right.column }

/-- The distance from `left` on to `right`. -/
def sub (right left : Extent) : Extent :=
  { bytes := right.bytes - left.bytes
    row := right.row - left.row
    column := if left.row < right.row then right.column else right.column - left.column }

/-- The place after one more character. -/
def after (place : Extent) (character : Char) : Extent :=
  if character == '\n' then ⟨place.bytes + 1, place.row + 1, 0⟩
  else ⟨place.bytes + character.utf8Size, place.row, place.column + character.utf8Size⟩

end Extent

/-- A place between two characters of a text. -/
structure Cursor where
  index : Nat := 0
  place : Extent := {}
  deriving BEq, Inhabited, Repr

abbrev Source := Array Char

namespace Source

def atEnd (source : Source) (cursor : Cursor) : Bool := source.size ≤ cursor.index

/-- The character after a place, if there is one. -/
def peek (source : Source) (cursor : Cursor) : Option Char := source[cursor.index]?

/-- Moves over one character; at the end nothing happens. -/
def advance (source : Source) (cursor : Cursor) : Cursor :=
  match source[cursor.index]? with
  | some character => ⟨cursor.index + 1, cursor.place.after character⟩
  | none => cursor

/-- Moves over characters as long as they satisfy `test`, at most `fuel` of them. -/
def advanceWhile (source : Source) (test : Char → Bool) : Nat → Cursor → Cursor
  | 0, cursor => cursor
  | fuel + 1, cursor =>
      match source[cursor.index]? with
      | some character =>
          if test character then advanceWhile source test fuel (source.advance cursor) else cursor
      | none => cursor

/-- Moves over all characters that satisfy `test`. -/
def skipWhile (source : Source) (test : Char → Bool) (cursor : Cursor) : Cursor :=
  source.advanceWhile test source.size cursor

end Source

end RepoSurvey.Parsing
