import RepoSurvey.Yaml.Failure

/-!
# Cursors

A cursor is a place in a text together with what follows it.
-/

namespace RepoSurvey.Yaml

/-- The characters that a text may consist of. -/
def isAllowed (character : Char) : Bool :=
  let code := character.toNat
  code == 0x9 || code == 0xA || code == 0xD || code == 0x85 || (0x20 ≤ code && code ≤ 0x7E) ||
    (0xA0 ≤ code && code != 0xFFFE && code != 0xFFFF)

def isBlank (character : Char) : Bool := character == ' ' || character == '\t'

def isBreak (character : Char) : Bool :=
  character == '\n' || character == '\r' || character == '\u0085' || character == '\u2028' ||
    character == '\u2029'

/-- The characters of the names of anchors, tag handles and directives. -/
def isNameCharacter (character : Char) : Bool :=
  character.isAlphanum || character == '_' || character == '-'

/-- What a line break is read as. -/
def readBreak (character : Char) : Char :=
  if character == '\u2028' || character == '\u2029' then character else '\n'

/-- How many characters the line break has that stands here. -/
def breakWidth : List Char → Nat
  | '\r' :: '\n' :: _ => 2
  | _ => 1

theorem breakWidth_pos (characters : List Char) : 0 < breakWidth characters := by
  unfold breakWidth
  split <;> decide

def hexDigit? (character : Char) : Option Nat :=
  if character.isDigit then some (character.toNat - '0'.toNat)
  else if 'a' ≤ character && character ≤ 'f' then some (character.toNat - 'a'.toNat + 10)
  else if 'A' ≤ character && character ≤ 'F' then some (character.toNat - 'A'.toNat + 10)
  else none

/-- Whether the next character satisfies a test. -/
def startsWith (test : Char → Bool) : List Char → Bool
  | [] => false
  | character :: _ => test character

/-- Whether a line ends here. -/
def atLineEnd : List Char → Bool
  | [] => true
  | character :: _ => isBreak character

/-- Whether a word ends here. -/
def atWordEnd : List Char → Bool
  | [] => true
  | character :: _ => isBlank character || isBreak character

/-- Whether three equal characters stand here as a word. -/
def isTripled (mark : Char) : List Char → Bool
  | first :: second :: third :: rest =>
      first == mark && second == mark && third == mark && atWordEnd rest
  | _ => false

/-- Whether a document ends before these characters, which start a line. -/
def atDocumentEdge (characters : List Char) : Bool :=
  isTripled '-' characters || isTripled '.' characters

structure Cursor where
  rest : List Char
  mark : Mark := {}
  deriving BEq, DecidableEq, Inhabited, Repr

namespace Cursor

/-- The cursor some characters further on the same line. -/
def along (cursor : Cursor) (count : Nat) : Cursor :=
  ⟨cursor.rest.drop count, cursor.mark.along count⟩

/-- The characters that satisfy a test, up to the first that does not, and the cursor behind them. -/
def span (cursor : Cursor) (test : Char → Bool) : List Char × Cursor :=
  let passed := cursor.rest.takeWhile test
  (passed, cursor.along passed.length)

def skipWhile (cursor : Cursor) (test : Char → Bool) : Cursor := (cursor.span test).2

/-- Whether the next character is this one. -/
def isAt (cursor : Cursor) (character : Char) : Bool := startsWith (· == character) cursor.rest

/-- The cursor behind a line break, if one is here. -/
def skipBreak (cursor : Cursor) : Cursor :=
  if startsWith isBreak cursor.rest then
    let width := breakWidth cursor.rest
    ⟨cursor.rest.drop width, cursor.mark.nextLine width⟩
  else cursor

/-- The cursor behind blanks and a comment. -/
def skipComment (cursor : Cursor) : Cursor :=
  let cursor := cursor.skipWhile isBlank
  if cursor.isAt '#' then cursor.skipWhile (!isBreak ·) else cursor

/-- The failure with a problem at the cursor. -/
def failure (cursor : Cursor) (problem activity : String) (start : Mark) : Failure :=
  ⟨problem, cursor.mark, some (activity, start), 0⟩

/-- The start of the line behind the rest of this one, which may only hold a comment. -/
def endLine (cursor : Cursor) (activity : String) (start : Mark) : Except Failure Cursor :=
  let cursor := cursor.skipComment
  if atLineEnd cursor.rest then .ok cursor.skipBreak
  else .error (cursor.failure "did not find expected comment or line break" activity start)

end Cursor

/-- The failure of a text with a character that it may not hold. -/
def forbiddenCharacter? (text : List Char) : Option Failure :=
  let sound := text.takeWhile isAllowed
  if sound.length == text.length then none
  else
    let bytes := sound.foldl (fun count character => count + character.utf8Size) 0
    some { problem := "control characters are not allowed", byte := bytes }

end RepoSurvey.Yaml
