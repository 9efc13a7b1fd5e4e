import RepoSurvey.Yaml.Token

/-!
# Quoted and plain texts

Both kinds of text may go on over several lines.  One line break is then read as a space, several as
all but the first of them, and blanks at the ends of lines are dropped.
-/

namespace RepoSurvey.Yaml

/-- A text that is being read, and what separates it from the next word. All is in reverse order. -/
structure Words where
  written : List Char := []
  /-- The blanks behind the last word, if it ends no line. -/
  blanks : List Char := []
  /-- Whether a line has ended behind the last word. -/
  isBroken : Bool := false
  /-- What the first of the line breaks is read as, unless it is escaped. -/
  first : Option Char := none
  more : List Char := []
  deriving Repr

namespace Words

/-- Whether a blank or line break stands behind the last word. -/
def isSeparated (words : Words) : Bool := words.isBroken || !words.blanks.isEmpty

/-- What the separation of two words is read as, in reverse order. -/
def separation (words : Words) : List Char :=
  if !words.isBroken then words.blanks
  else match words.first, words.more with
    | some '\n', [] => [' ']
    | some '\n', more => more
    | first, more => more ++ first.toList

/-- Begins the next word. -/
def join (words : Words) : Words := { written := words.separation ++ words.written }

def push (words : Words) (character : Char) : Words :=
  { words with written := character :: words.written }

def blank (words : Words) (character : Char) : Words :=
  if words.isBroken then words else { words with blanks := character :: words.blanks }

def lineBreak (words : Words) (character : Char) : Words :=
  if words.isBroken then { words with more := readBreak character :: words.more }
  else { words with blanks := [], isBroken := true, first := some (readBreak character) }

/-- Drops a line break that is escaped; words before it are kept apart by the blanks that are
written. -/
def escapedBreak (words : Words) : Words := { words with isBroken := true }

def text (words : Words) : String := String.ofList words.written.reverse

end Words

/-- What the character behind a backslash stands for. -/
inductive Escape
  | character (value : Char)
  /-- A character whose number follows in so many digits. -/
  | digits (count : Nat)

def escape? : Char → Option Escape
  | '0' => some (.character '\x00')
  | 'a' => some (.character '\x07')
  | 'b' => some (.character '\x08')
  | 't' => some (.character '\t')
  | '\t' => some (.character '\t')
  | 'n' => some (.character '\n')
  | 'v' => some (.character '\x0b')
  | 'f' => some (.character '\x0c')
  | 'r' => some (.character '\r')
  | 'e' => some (.character '\x1b')
  | ' ' => some (.character ' ')
  | '"' => some (.character '"')
  | '/' => some (.character '/')
  | '\\' => some (.character '\\')
  | 'N' => some (.character '\u0085')
  | '_' => some (.character '\u00a0')
  | 'L' => some (.character '\u2028')
  | 'P' => some (.character '\u2029')
  | 'x' => some (.digits 2)
  | 'u' => some (.digits 4)
  | 'U' => some (.digits 8)
  | _ => none

/-- The number that hexadecimal digits stand for, if there are enough of them. -/
def hexValue? (count : Nat) (characters : List Char) : Option Nat :=
  let digits := (characters.take count).filterMap hexDigit?
  if digits.length == count then some (digits.foldl (fun value digit => value * 16 + digit) 0)
  else none

def isScalarValue (value : Nat) : Bool := value < 0xD800 || (0xE000 ≤ value && value < 0x110000)

/-- The character that the escape behind a backslash stands for, and how many characters the escape
has. The backslash is at the mark. -/
def readEscape (start mark : Mark) (characters : List Char) : Except Failure (Char × Nat) :=
  let failed (problem : String) (mark : Mark) : Except Failure (Char × Nat) :=
    .error ⟨problem, mark, some ("while parsing a quoted scalar", start), 0⟩
  match characters with
  | [] => failed "found unknown escape character" mark
  | character :: rest =>
      match escape? character with
      | none => failed "found unknown escape character" mark
      | some (.character value) => .ok (value, 1)
      | some (.digits count) =>
          match hexValue? count rest with
          | none => failed "did not find expected hexdecimal number" (mark.along 2)
          | some value =>
              if isScalarValue value then .ok (Char.ofNat value, 1 + count)
              else failed "found invalid Unicode character escape code" (mark.along 2)

/-- Reads a quoted text from behind the opening quote. -/
def quotedText (quote : Char) (start : Mark) (words : Words) (mark : Mark)
    (characters : List Char) : Except Failure (String × Cursor) :=
  let failed (problem : String) : Except Failure (String × Cursor) :=
    .error ⟨problem, mark, some ("while scanning a quoted scalar", start), 0⟩
  match characters with
  | [] => failed "found unexpected end of stream"
  | character :: rest =>
      if mark.column == 0 && atDocumentEdge (character :: rest) then
        failed "found unexpected document indicator"
      else if isBlank character then
        quotedText quote start (words.blank character) (mark.along 1) rest
      else if isBreak character then
        let width := breakWidth (character :: rest)
        quotedText quote start (words.lineBreak character) (mark.nextLine width)
          ((character :: rest).drop width)
      else if character == quote then
        if quote == '\'' && startsWith (· == '\'') rest then
          quotedText quote start (words.join.push quote) (mark.along 2) (rest.drop 1)
        else .ok (words.join.text, ⟨rest, mark.along 1⟩)
      else if quote == '"' && character == '\\' then
        if startsWith isBreak rest then
          let width := breakWidth rest
          quotedText quote start words.join.escapedBreak ((mark.along 1).nextLine width)
            (rest.drop width)
        else
          match readEscape start mark rest with
          | .error failure => .error failure
          | .ok (value, count) =>
              quotedText quote start (words.join.push value) (mark.along (1 + count))
                (rest.drop count)
      else quotedText quote start (words.join.push character) (mark.along 1) rest
termination_by characters.length
decreasing_by
  all_goals simp_all only [List.length_cons, List.length_drop]
  all_goals have := breakWidth_pos (character :: rest)
  all_goals omega

/-- Whether a plain text ends before these characters. -/
def endsPlainText (inFlow : Bool) : List Char → Bool
  | ':' :: rest => atWordEnd rest
  | character :: _ =>
      inFlow && (character == ',' || character == '[' || character == ']' || character == '\x7b' ||
        character == '\x7d')
  | [] => true

/-- A colon in a flow collection stands right before a character that it must not stand before. -/
def hasStrayColon : List Char → Bool
  | ':' :: next :: _ =>
      next == ',' || next == '?' || next == '[' || next == ']' || next == '\x7b' || next == '\x7d'
  | _ => false

/-- Reads a plain text. Outside flow collections its lines are indented by at least `indent`. -/
def plainText (inFlow : Bool) (indent : Int) (start : Mark) (words : Words) (mark : Mark)
    (characters : List Char) : Except Failure (Words × Cursor) :=
  let failed (problem : String) : Except Failure (Words × Cursor) :=
    .error ⟨problem, mark, some ("while scanning a plain scalar", start), 0⟩
  match characters with
  | [] => .ok (words, ⟨[], mark⟩)
  | character :: rest =>
      if isBlank character then
        if words.isBroken && character == '\t' && (mark.column : Int) < indent then
          failed "found a tab character that violates indentation"
        else plainText inFlow indent start (words.blank character) (mark.along 1) rest
      else if isBreak character then
        let width := breakWidth (character :: rest)
        plainText inFlow indent start (words.lineBreak character) (mark.nextLine width)
          ((character :: rest).drop width)
      else
        let hasEnded := words.isSeparated &&
          ((!inFlow && (mark.column : Int) < indent) || character == '#' ||
            (mark.column == 0 && atDocumentEdge (character :: rest)))
        if hasEnded then .ok (words, ⟨character :: rest, mark⟩)
        else if inFlow && hasStrayColon (character :: rest) then failed "found unexpected ':'"
        else if endsPlainText inFlow (character :: rest) then .ok (words, ⟨character :: rest, mark⟩)
        else plainText inFlow indent start (words.join.push character) (mark.along 1) rest
termination_by characters.length
decreasing_by
  all_goals simp_all only [List.length_cons, List.length_drop]
  all_goals have := breakWidth_pos (character :: rest)
  all_goals omega

end RepoSurvey.Yaml
