import RepoSurvey.Prose.Line

/-!
# Marks at the start of a line

What makes a line a heading, a rule, a fence, an item of a list, the start of markup or the head of
a table.
-/

namespace RepoSurvey.Prose

/-- Three or more of the same mark with nothing but blanks between them. -/
def isRule (line : Line) : Bool :=
  match line.head? with
  | none => false
  | some mark =>
      let content := line.takeWhile (· != '\n')
      (mark == '*' || mark == '-' || mark == '_') &&
        content.all (fun c => c == mark || c == ' ' || c == '\t') && 3 ≤ content.count mark

/-- The level of a heading that starts with number signs. -/
def headingLevel? (line : Line) : Option Nat :=
  let level := runLength '#' line
  match line.drop level with
  | [] => if 1 ≤ level && level ≤ 6 then some level else none
  | next :: _ => if 1 ≤ level && level ≤ 6 && isSpaceChar next then some level else none

/-- The level of the heading whose text stands above an underline. -/
def underlineLevel? (line : Line) : Option Nat :=
  match line.head? with
  | some '=' => if isBlank (line.drop (runLength '=' line)) then some 1 else none
  | some '-' => if isBlank (line.drop (runLength '-' line)) then some 2 else none
  | _ => none

/-- The fence around a block of code. -/
structure Fence where
  mark : Char
  length : Nat
  deriving BEq, DecidableEq, Repr

def fence? (line : Line) : Option Fence :=
  match line.head? with
  | some mark =>
      let length := runLength mark line
      if (mark == '`' || mark == '~') && 3 ≤ length &&
          !(mark == '`' && (line.drop length).contains '`') then
        some ⟨mark, length⟩
      else none
  | none => none

/-- Whether a line ends a block of code. -/
def Fence.isClosedBy (fence : Fence) (line : Line) : Bool :=
  let length := runLength fence.mark line
  fence.length ≤ length &&
    isAtEnd (((line.drop length).dropWhile (· == ' ')))

/-! ## Items of lists -/

/-- What an item starts with: a bullet, or a number and the character after it. -/
structure ItemMark where
  character : Char
  number : Nat := 0
  deriving BEq, DecidableEq, Repr

def isBullet (character : Char) : Bool := character == '-' || character == '+' || character == '*'

def numberOf (digits : List Char) : Nat :=
  digits.foldl (fun value digit => value * 10 + (digit.toNat - '0'.toNat)) 0

/-- The mark at the start of a line and its width. Numbers have at most nine digits. -/
def itemMark? (line : Line) : Option (ItemMark × Nat) :=
  match line.head? with
  | none => none
  | some first =>
      if isBullet first then some (⟨first, 0⟩, 1)
      else
        let digits := line.takeWhile Char.isDigit
        match line.drop digits.length with
        | mark :: _ =>
            if 1 ≤ digits.length && digits.length ≤ 9 && (mark == '.' || mark == ')') then
              some (⟨mark, numberOf digits⟩, digits.length + 1)
            else none
        | [] => none

/-- The mark of an item that starts here, the indentation of its content, and what follows.
`indent` is the indentation of the mark. -/
def startItem? (indent : Nat) (cursor : Cursor) : Option (ItemMark × Nat × Cursor) :=
  match itemMark? cursor.rest with
  | none => none
  | some (mark, width) =>
      if isBullet mark.character && isRule cursor.rest then none
      else
        let marked : Cursor :=
          { cursor with rest := cursor.rest.drop width, column := cursor.column + width }
        let after? := if marked.isAtEnd then some marked else marked.indented? 1
        after?.map fun after =>
          let least := indent + width + 1
          if isBlank after.rest then (mark, least, after)
          else
            let (more, content) := after.indentation 4
            if more < 4 then (mark, least + more, content) else (mark, least, after)

/-- Whether an item of a list may stand right after a paragraph. -/
def interruptsAsItem (line next : Line) : Bool :=
  match itemMark? line with
  | none => false
  | some (mark, width) =>
      let rest := line.drop width
      (isAtEnd rest || rest.head? == some ' ' || rest.head? == some '\t') &&
        (isBullet mark.character || mark.number == 1) && !(isBlank rest && isBlank next)

/-- Whether an item of a list starts here. -/
def startsItem (line : Line) : Bool :=
  match itemMark? line with
  | none => false
  | some (_, width) =>
      let rest := line.drop width
      isAtEnd rest || rest.head? == some ' ' || rest.head? == some '\t'

/-! ## Markup -/

/-- Whether a line starts with a name, in any case. -/
def startsWithName (name : String) (line : Line) : Bool :=
  (line.take name.length).map Char.toLower == name.toList

/-- What ends markup that starts with `<` and then this, if it is of a kind with an end of its own. -/
def markupEnd? (line : Line) : Option String :=
  let named := ["pre", "style", "script", "textarea"].find? fun name =>
    startsWithName name line &&
      match line.drop name.length with
      | [] => true
      | next :: _ => isSpaceChar next || next == '>'
  match named with
  | some name => some ("</" ++ name ++ ">")
  | none =>
      if "!--".toList.isPrefixOf line then some "-->"
      else if "?".toList.isPrefixOf line then some "?>"
      else if "![CDATA[".toList.isPrefixOf line then some "]]>"
      else
        match line with
        | '!' :: letter :: _ => if letter.isAlpha then some ">" else none
        | _ => none

/-- The names of elements that are blocks. -/
def blockNames : List String :=
  ["address", "article", "aside", "base", "basefont", "blockquote", "body", "caption", "center",
    "col", "colgroup", "dd", "details", "dialog", "dir", "div", "dl", "dt", "fieldset",
    "figcaption", "figure", "footer", "form", "frame", "frameset", "h1", "h2", "h3", "h4", "h5",
    "h6", "head", "header", "hr", "html", "iframe", "legend", "li", "link", "main", "menu",
    "menuitem", "nav", "noframes", "ol", "optgroup", "option", "p", "param", "search", "section",
    "summary", "table", "tbody", "td", "tfoot", "th", "thead", "title", "tr", "track", "ul"]

/-- Whether the tag of a block starts here, after its `<`. -/
def startsBlockTag (line : Line) : Bool :=
  let line := if line.head? == some '/' then line.tail else line
  let name := line.takeWhile fun c => c.isAlphanum
  blockNames.contains (String.ofList (name.map Char.toLower)) &&
    match line.drop name.length with
    | [] => true
    | '/' :: '>' :: _ => true
    | next :: _ => next == ' ' || next == '\t' || next == '\n' || next == '>'

/-! ## Tables -/

inductive Alignment
  | none
  | left
  | center
  | right
  deriving BEq, DecidableEq, Repr

/-- A reader of the line under the head of a table. -/
structure Delimiters where
  columns : List Alignment := []
  current : Alignment := .none
  isFresh : Bool := true
  hasHyphen : Bool := false
  hasPipe : Bool := false

namespace Delimiters

def step (reader : Delimiters) (character : Char) : Option Delimiters :=
  if character == ' ' then some reader
  else if character == ':' then
    let current := match reader.isFresh, reader.current with
      | true, .none => .left
      | false, .left => .center
      | false, .none => .right
      | _, other => other
    some { reader with current, isFresh := false }
  else if character == '-' then some { reader with isFresh := false, hasHyphen := true }
  else if character == '|' then
    if reader.hasHyphen then
      some ⟨reader.columns ++ [reader.current], .none, true, false, true⟩
    else none
  else none

def finish (reader : Delimiters) : Option (List Alignment) :=
  if !reader.hasPipe then none
  else if reader.isFresh then some reader.columns
  else if reader.hasHyphen then some (reader.columns ++ [reader.current])
  else none

end Delimiters

/-- The alignments of the columns of a table, from the line under its head. -/
def alignments? (line : Line) : Option (List Alignment) :=
  let (indent, cursor) := (Cursor.mk line 0 0).indentation 4
  let content := cursor.rest.takeWhile (· != '\n')
  if 3 < indent || content.isEmpty then none
  else
    let (hasPipe, content) := match content with
      | '|' :: rest => (true, rest)
      | _ => (false, content)
    (content.foldlM Delimiters.step { hasPipe }).bind Delimiters.finish

/-- The number of pipes in a line that are not escaped, and whether nothing follows the last one. -/
def pipes : List Char → Nat × Bool
  | [] => (0, false)
  | '\\' :: second :: rest => if isPunctuationChar second then pipes rest else pipes (second :: rest)
  | character :: rest =>
      let (count, isLast) := pipes rest
      if character == '|' then (count + 1, if count == 0 then isBlank rest else isLast)
      else (count, isLast)

/-- How many columns the head of a table has. -/
def headColumns (line : Line) : Nat :=
  let (count, endsWithPipe) := pipes (line.takeWhile (· != '\n'))
  let count := if (line.dropWhile isBlankChar).head? == some '|' then count - 1 else count
  if endsWithPipe then count else count + 1

/-- Whether two lines are the first lines of a table, and how its columns are aligned. -/
def tableStart? (head below : Line) : Option (List Alignment) :=
  if (pipes (head.takeWhile (· != '\n'))).1 == 0 then none
  else
    match alignments? below with
    | some alignments => if alignments.length == headColumns head then some alignments else none
    | none => none

/-- Splits a row at the pipes that no backslash precedes. Other pipes lose their backslash. -/
def splitRow (started : List Char) : List Char → List (List Char)
  | [] => [started.reverse]
  | '\\' :: '|' :: rest => splitRow ('|' :: started) rest
  | '|' :: rest => started.reverse :: splitRow [] rest
  | character :: rest => splitRow (character :: started) rest

/-- The cells of a row, filled up or cut to the width of the table. -/
def rowCells (width : Nat) (line : Line) : List String :=
  let line := line.takeWhile (· != '\n')
  let content := line.dropWhile isBlankChar
  let content := if content.head? == some '|' then content.tail else content
  let cells := splitRow [] content
  -- What follows the last pipe counts only if it is not blank.
  let cells := match cells.getLast? with
    | some last => if last.all isBlankChar then cells.dropLast else cells
    | none => cells
  let cells := cells.map fun cell =>
    String.ofList (dropLastWhile isBlankChar (cell.dropWhile isBlankChar))
  (cells ++ List.replicate (width - cells.length) "").take width

end RepoSurvey.Prose
