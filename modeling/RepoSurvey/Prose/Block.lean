import RepoSurvey.Prose.Inline.Parse
import RepoSurvey.Prose.Marks

/-!
# Blocks

The blocks of a document: paragraphs, headings, lists, quotes, code, tables and what is inside them.
The text of a block is kept as it stands, without the marks of the blocks around it.
-/

namespace RepoSurvey.Prose

inductive Block
  | paragraph (source : String)
  | heading (level : Nat) (source : String)
  | rule
  /-- The words after the fence come along, if there is a fence. -/
  | code (info : Option String) (text : String)
  /-- Markup that is passed on. -/
  | markup (text : String)
  | quote (content : List Block)
  | list (isTight : Bool) (mark : ItemMark) (items : List Block)
  | item (content : List Block)
  | checkbox (isChecked : Bool)
  | table (alignments : List Alignment) (head : List String) (rows : List (List String))
  | footnote (name : String) (content : List Block)
  deriving Inhabited

/-- A block that other blocks are put into. -/
inductive Container
  | quote
  | list (isTight : Bool) (mark : ItemMark)
  /-- The lines of an item are indented by so many columns. -/
  | item (indent : Nat)
  | footnote (name : String)
  deriving DecidableEq, Repr

namespace Container

/-- The block with this content, given in reverse. -/
def finish (content : List Block) : Container → Block
  | quote => .quote content.reverse
  | list isTight mark => .list isTight mark content.reverse
  | item _ => .item content.reverse
  | footnote name => .footnote name content.reverse

/-- Goes over what a line must start with to be inside. Blank lines need no indentation. -/
def continued? (cursor : Cursor) : Container → Option Cursor
  | quote =>
      let (indent, mark) := cursor.indentation 4
      if indent ≤ 3 && mark.rest.head? == some '>' then some (mark.next.indentation 1).2 else none
  | list _ _ => some cursor
  | item indent => indented indent
  | footnote _ => indented 4
where
  indented (indent : Nat) : Option Cursor :=
    let (missing, after) := cursor.skipColumns indent
    if missing == 0 || after.isAtEnd then some after else none

/-- Goes over the starts of containers, from the outermost on. The answer is how many of them a line
continues. -/
def continuedIn (cursor : Cursor) : List Container → Nat × Cursor
  | [] => (0, cursor)
  | container :: rest =>
      match container.continued? cursor with
      | none => (0, cursor)
      | some after =>
          let (count, inside) := continuedIn after rest
          (count + 1, inside)

/-- Goes over the starts of all containers, if a line continues them. -/
def allContinued? (containers : List Container) (line : Line) : Option Cursor :=
  let (count, cursor) := continuedIn ⟨line, 0, 0⟩ containers
  if count == containers.length then some cursor else none

end Container

/-! ## What ends a paragraph -/

/-- The name of a footnote that starts here, and what follows its colon. -/
def footnoteStart? (line : Line) : Option (String × Line) :=
  match line with
  | '[' :: '^' :: rest =>
      match label? rest with
      | some (name, length) =>
          if (rest.take length).contains '\n' then none
          else
            match rest.drop length with
            | ':' :: after => some (name, after)
            | _ => none
      | none => none
  | _ => none

/-- Whether a line is the start of something other than a paragraph, tables left aside. -/
def startsBlock (isCurrent isInTable : Bool) (line next : Line) : Bool :=
  isAtEnd line || isRule line || (headingLevel? line).isSome || (fence? line).isSome ||
    line.head? == some '>' ||
    (startsItem line && (!isCurrent || isInTable || interruptsAsItem line next)) ||
    (line.head? == some '<' && ((markupEnd? line.tail).isSome || startsBlockTag line.tail)) ||
    (footnoteStart? line).isSome

/-- Whether a line ends the paragraph before it. `isCurrent` says whether the line continues all
containers. -/
def interrupts (containers : List Container) (isCurrent : Bool) (line : Line) (rest : List Line) :
    Bool :=
  startsBlock isCurrent false line (rest.headD []) ||
    (line.head? == some '|' &&
      match rest with
      | [] => false
      | next :: _ =>
          match Container.allContinued? containers next with
          | some cursor => (tableStart? line cursor.rest).isSome
          | none => false)

/-- The lines that go on with a paragraph, what is left, and the level of the underline that comes
next, if one does. -/
def paragraphLines (containers : List Container) : List Line → List Line × List Line × Option Nat
  | [] => ([], [], none)
  | line :: rest =>
      let (count, cursor) := Container.continuedIn ⟨line, 0, 0⟩ containers
      let isCurrent := count == containers.length
      let goOn : List Line × List Line × Option Nat :=
        let (lines, after, level) := paragraphLines containers rest
        (cursor.rest :: lines, after, level)
      let (indent, content) := cursor.indentation 4
      let level := if isCurrent && indent < 4 then underlineLevel? content.rest else none
      if level.isSome then ([], line :: rest, level)
      else if isBlank content.rest || (indent < 4 && interrupts containers isCurrent content.rest rest)
        then ([], line :: rest, none)
      else goOn

/-! ## Blocks of raw text -/

/-- The lines of markup after its first line, up to the one that holds `ending`. -/
def markupUntil (containers : List Container) (ending : String) (last : Line) :
    List Line → List Line × List Line
  | [] => ([], [])
  | line :: rest =>
      match Container.allContinued? containers line with
      | none => ([], line :: rest)
      | some cursor =>
          if (lengthThrough? ending.toList last).isSome then ([], line :: rest)
          else
            let (lines, after) := markupUntil containers ending cursor.remainder rest
            (cursor.remainder :: lines, after)

/-- The lines of markup after its first line, up to a blank one. -/
def markupUntilBlank (containers : List Container) : List Line → List Line × List Line
  | [] => ([], [])
  | line :: rest =>
      match Container.allContinued? containers line with
      | none => ([], line :: rest)
      | some cursor =>
          if isBlank cursor.rest then ([], line :: rest)
          else
            let (lines, after) := markupUntilBlank containers rest
            (cursor.remainder :: lines, after)

/-- The indented lines of code, and what is left. -/
def indentedLines (containers : List Container) : List Line → List Line × List Line
  | [] => ([], [])
  | line :: rest =>
      match Container.allContinued? containers line with
      | none => ([], line :: rest)
      | some cursor =>
          let (missing, content) := cursor.skipColumns 4
          if missing == 0 || content.isAtEnd then
            if content.rest.isEmpty then ([], [])
            else
              let (lines, after) := indentedLines containers rest
              (content.remainder :: lines, after)
          else ([], line :: rest)

/-- The lines up to the end of a fence, without the indentation that the fence has. -/
def fencedLines (containers : List Container) (fence : Fence) (indent : Nat) :
    List Line → List Line × List Line
  | [] => ([], [])
  | line :: rest =>
      match Container.allContinued? containers line with
      | none => ([], line :: rest)
      | some cursor =>
          let content := (cursor.skipColumns indent).2
          let (missing, mark) := content.skipColumns (4 - indent)
          if missing != 0 && fence.isClosedBy mark.rest then ([], rest)
          else
            let (lines, after) := fencedLines containers fence indent rest
            (content.remainder :: lines, after)

/-- The rows of a table, and what is left. -/
def tableRows (containers : List Container) (width : Nat) :
    List Line → List (List String) × List Line
  | [] => ([], [])
  | line :: rest =>
      match Container.allContinued? containers line with
      | none => ([], line :: rest)
      | some cursor =>
          let content := cursor.skipBlanks.rest
          if startsBlock true true content (rest.headD []) then ([], line :: rest)
          else
            let (rows, after) := tableRows containers width rest
            (rowCells width content :: rows, after)

/-! ## Texts of blocks -/

def textOf (lines : List Line) : String := String.ofList lines.flatten

/-- The text of the lines of a paragraph, without the end of the last line. -/
def paragraphText (lines : List Line) : List Char := dropLastWhile isSpaceChar lines.flatten

/-- The text of a heading after its number signs, without number signs that close it. -/
def headingText (line : Line) : String :=
  let content := dropLastWhile (fun c => c == ' ' || c == '\n') (line.dropWhile isBlankChar)
  let open' := dropLastWhile (· == '#') content
  let trimmed := if open'.isEmpty then [] else
    if open'.getLast? == some ' ' then dropLastWhile (· == ' ') open' else content
  String.ofList trimmed

/-- The first of a list of code lines to the last that is not blank. -/
def trimBlankLines (lines : List Line) : List Line :=
  (lines.reverse.dropWhile isBlank).reverse

end RepoSurvey.Prose
