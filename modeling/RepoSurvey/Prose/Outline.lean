import RepoSurvey.Prose.Block

/-!
# Outlines

A document is read line by line into an outline: the containers that are open, the blocks that are
finished, and the definitions found on the way.
-/

namespace RepoSurvey.Prose

/-- A container that is open, with its content in reverse. -/
structure OpenBlock where
  container : Container
  content : List Block := []

structure Outline where
  /-- The open containers, the innermost first. -/
  stack : List OpenBlock := []
  /-- The finished blocks outside all open containers, in reverse. -/
  content : List Block := []
  lastLineBlank : Bool := false
  /-- The innermost item has no content yet. -/
  isItemEmpty : Bool := false
  references : References := {}

namespace Outline

def containers (outline : Outline) : List Container :=
  (outline.stack.map (·.container)).reverse

def innermost? (outline : Outline) : Option Container := outline.stack.head?.map (·.container)

def add (outline : Outline) (block : Block) : Outline :=
  match outline.stack with
  | [] => { outline with content := block :: outline.content }
  | top :: rest => { outline with stack := { top with content := block :: top.content } :: rest }

def push (outline : Outline) (container : Container) : Outline :=
  { outline with stack := ⟨container, []⟩ :: outline.stack }

/-- Closes the innermost container. -/
def close (outline : Outline) : Outline :=
  match outline.stack with
  | [] => outline
  | top :: rest =>
      let closed := { outline with stack := rest }.add (top.container.finish top.content)
      match top.container with
      | .list true _ => { closed with isItemEmpty := false }
      | _ => closed

/-- Closes the `count` innermost containers. -/
def closeMany : Nat → Outline → Outline
  | 0, outline => outline
  | count + 1, outline => closeMany count outline.close

def closeAll (outline : Outline) : Outline := closeMany outline.stack.length outline

/-- Changes the list `depth` containers further out than the innermost into a loose one. -/
def loosen (outline : Outline) (depth : Nat) : Outline :=
  { outline with stack := outline.stack.modify depth fun opened =>
      match opened.container with
      | .list _ mark => { opened with container := .list false mark }
      | _ => opened }

/-- An item that starts with two blank lines has ended. -/
def finishEmptyItem (outline : Outline) : Outline :=
  let ended := outline.isItemEmpty && outline.lastLineBlank &&
    match outline.innermost? with
    | some (.item _) => true
    | _ => false
  { (if ended then outline.close else outline) with isItemEmpty := false }

/-- Something other than an item comes next. A blank line before it makes the list around it
loose. -/
def finishList (outline : Outline) : Outline :=
  let outline := outline.finishEmptyItem
  let outline := match outline.innermost? with
    | some (.list _ _) => outline.close
    | _ => outline
  if outline.lastLineBlank then { outline.loosen 1 with lastLineBlank := false } else outline

/-- An item comes next: it continues the innermost list if it has the same mark. -/
def continueList (outline : Outline) (mark : ItemMark) : Outline :=
  let outline := outline.finishEmptyItem
  let start (outline : Outline) : Outline :=
    { outline.push (.list true mark) with lastLineBlank := false }
  match outline.innermost? with
  | none => start outline
  | some (.list _ known) =>
      if known.character == mark.character then
        if outline.lastLineBlank then { outline.loosen 0 with lastLineBlank := false } else outline
      else start outline.finishList
  | some _ => start outline.finishList

def startFootnote (outline : Outline) (name : String) : Outline :=
  let outline := outline.finishList
  let outline := match outline.innermost? with
    | some (.footnote _) => outline.close
    | _ => outline
  { outline.push (.footnote name) with references := outline.references.addFootnote name }

/-! ## The start of a line -/

/-- A box at the start of an item, and what follows it. -/
def checkbox? (cursor : Cursor) : Option (Bool × Cursor) :=
  let inside := (cursor.indentation 3).2
  match inside.rest with
  | '[' :: state :: ']' :: next :: rest =>
      let after : Cursor := { inside with rest := next :: rest, column := inside.column + 3 }
      if !isBlankChar next then none
      else if isBlankChar state then some (false, after)
      else if state == 'x' || state == 'X' then some (true, after)
      else none
  | _ => none

/-- Opens the containers that start in a line. The answer is the rest of the line, unless it has
been dealt with. The fuel exceeds the length of the line. -/
def openContainers : Nat → Outline → Cursor → Outline × Option Cursor
  | 0, outline, cursor => (outline, some cursor)
  | fuel + 1, outline, cursor =>
      let (indent, mark) := cursor.indentation 4
      if 4 ≤ indent then (outline, some cursor)
      else
        match footnoteStart? mark.rest with
        | some (name, rest) =>
            openContainers fuel (outline.startFootnote name) ⟨rest.dropWhile isBlankChar, 0, 0⟩
        | none =>
            match startItem? indent mark with
            | some (itemMark, inner, after) =>
                let opened := (outline.continueList itemMark).push (.item inner)
                if isBlank after.rest then ({ opened with isItemEmpty := true }, none)
                else
                  match checkbox? after with
                  | some (isChecked, after) =>
                      openContainers fuel (opened.add (.checkbox isChecked)) after
                  | none => openContainers fuel opened after
            | none =>
                if mark.rest.head? == some '>' then
                  openContainers fuel (outline.finishList.push .quote) (mark.next.indentation 1).2
                else (outline, some cursor)

/-! ## Blocks without containers -/

/-- Reads a paragraph, a heading with an underline, a table or a definition. -/
def readText (outline : Outline) (first : Line) (rest : List Line) : Outline × List Line :=
  let containers := outline.containers
  let (more, after, level) := paragraphLines containers rest
  let source := paragraphText (first :: more)
  match if source.head? == some '[' then definition? source else none with
  | some (name, definition, length) =>
      -- The lines of the definition; the next block starts in the line after them.
      let lines := (source.take length).count '\n' + if source.length ≤ length then 1 else 0
      ({ outline with references := outline.references.define name definition },
        rest.drop (lines - 1))
  | none =>
      let table := match rest with
        | [] => none
        | below :: _ =>
            if trailing (· == '\\') (first.takeWhile (· != '\n')).reverse % 2 == 1 then none
            else
              (Container.allContinued? containers below).bind fun cursor =>
                tableStart? first cursor.rest
      match table with
      | some alignments =>
          let width := alignments.length
          let (rows, after) := tableRows containers width rest.tail
          (outline.add (.table alignments (rowCells width first) rows), after)
      | none =>
          match level with
          | some level => (outline.add (.heading level (String.ofList source)), after.tail)
          | none => (outline.add (.paragraph (String.ofList source)), after)

/-- Reads the block that starts in a line. -/
def readBlock (outline : Outline) (cursor : Cursor) (rest : List Line) : Outline × List Line :=
  let outline := outline.finishList
  let containers := outline.containers
  let (indent, content) := cursor.indentation 4
  if indent == 4 then
    let (more, after) := indentedLines containers rest
    let lines := content.remainder :: more
    let last := lines.getLast?.getD []
    ({ outline.add (.code none (textOf (trimBlankLines lines))) with
        lastLineBlank := isBlank last }, after)
  else
    let line := content.rest
    let indented := List.replicate indent ' ' ++ line
    let markup := if line.head? == some '<' then
        match markupEnd? line.tail with
        | some ending => some (markupUntil containers ending line rest)
        | none =>
            if startsBlockTag line.tail || isTagLine line then
              some (markupUntilBlank containers rest)
            else none
      else none
    match markup with
    | some (more, after) => (outline.add (.markup (textOf (indented :: more))), after)
    | none =>
        if isRule line then (outline.add .rule, rest)
        else
          match headingLevel? line, fence? line with
          | some level, _ => (outline.add (.heading level (headingText (line.drop level))), rest)
          | none, some fence =>
              let info := (line.drop fence.length).dropWhile isBlankChar
              let (lines, after) := fencedLines containers fence indent rest
              (outline.add (.code (some (unescape (dropLastWhile isSpaceChar info)))
                (textOf lines)), after)
          | none, none => readText outline line rest

/-- Reads the line at the start of the rest, and the lines that belong to the same block. -/
def readLine (outline : Outline) (line : Line) (rest : List Line) : Outline × List Line :=
  let (count, cursor) := Container.continuedIn ⟨line, 0, 0⟩ outline.containers
  let outline := closeMany (outline.stack.length - count) outline
  match openContainers (line.length + 1) outline cursor with
  | (outline, none) => (outline, rest)
  | (outline, some cursor) =>
      if isBlank cursor.rest then
        match outline.innermost? with
        | none | some .quote => (outline, rest)
        | some _ => ({ outline with lastLineBlank := true }, rest)
      else readBlock outline cursor rest

/-- Reads all lines. The fuel is at least their number. -/
def readLines : Nat → Outline → List Line → Outline
  | _, outline, [] => outline
  | 0, outline, _ => outline
  | fuel + 1, outline, line :: rest =>
      let (outline, rest) := readLine outline line rest
      readLines fuel outline rest

end Outline

/-- A document: its blocks, and what the labels in it stand for. -/
structure Document where
  blocks : List Block
  references : References

def Document.ofText (text : String) : Document :=
  let lines := linesOf text.toList
  let outline := (Outline.readLines lines.length {} lines).closeAll
  ⟨outline.content.reverse, outline.references⟩

end RepoSurvey.Prose
