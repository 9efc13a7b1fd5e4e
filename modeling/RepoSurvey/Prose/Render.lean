import RepoSurvey.Prose.Outline

/-!
# Prose as markup

Documents are written as markup with a line for each block.
-/

namespace RepoSurvey.Prose

/-- A character in the text of an element. -/
def escapeBodyChar (character : Char) : String :=
  if character == '&' then "&amp;"
  else if character == '<' then "&lt;"
  else if character == '>' then "&gt;"
  else character.toString

/-- A character in the value of an attribute. -/
def escapeValueChar (character : Char) : String :=
  if character == '"' then "&quot;"
  else if character == '\'' then "&#x27;"
  else escapeBodyChar character

def escapeBody (text : String) : String := String.join (text.toList.map escapeBodyChar)

def escapeValue (text : String) : String := String.join (text.toList.map escapeValueChar)

/-- Whether a character stands for itself in the address of a link. -/
def isAddressChar (character : Char) : Bool :=
  character.isAlphanum || "!#$%()*+,-./:;=?@_~".toList.contains character

def hexByte (byte : UInt8) : String :=
  "%" ++ String.ofList ((Nat.toDigits 16 (256 + byte.toNat)).tail.map Char.toUpper)

def escapeAddressChar (character : Char) : String :=
  if isAddressChar character then character.toString
  else if character == '&' then "&amp;"
  else if character == '\'' then "&#x27;"
  else String.join (character.toString.toUTF8.toList.map hexByte)

def escapeAddress (text : String) : String := String.join (text.toList.map escapeAddressChar)

/-- A writer of markup. -/
structure Writer where
  written : String := ""
  isLineStart : Bool := true
  /-- The numbers of the footnotes, in the order in which they came up. -/
  footnotes : List String := []

namespace Writer

def put (text : String) (writer : Writer) : Writer :=
  if text.isEmpty then writer
  else { writer with
    written := writer.written ++ text
    isLineStart := text.toList.getLast? == some '\n' }

/-- Writes at the start of a line. -/
def putLine (text : String) (writer : Writer) : Writer :=
  (if writer.isLineStart then writer else writer.put "\n").put text

/-- The number of a footnote; a new one gets the next number. -/
def footnoteNumber (name : String) (writer : Writer) : Nat × Writer :=
  match writer.footnotes.findIdx? (· == name) with
  | some index => (index + 1, writer)
  | none =>
      (writer.footnotes.length + 1, { writer with footnotes := writer.footnotes ++ [name] })

end Writer

def Style.tag : Style → String
  | emphasis => "em"
  | strong => "strong"
  | strikethrough => "del"

/-- The start of a link or an image: an address in an attribute. -/
def Target.address (target : Target) : String :=
  (if target.isMailbox then "mailto:" else "") ++ escapeAddress target.destination

def Target.titlePart (target : Target) : String :=
  if target.title.isEmpty then "" else "\" title=\"" ++ escapeValue target.title

mutual

/-- Writes rich text as the value of an attribute, without its styles. -/
def writePlain : Inline → Writer → Writer
  | .text text, writer => writer.put (escapeValue text)
  | .code text, writer => writer.put (escapeValue text)
  | .markup text, writer => writer.put (escapeValue text)
  | .softBreak, writer => writer.put " "
  | .hardBreak, writer => writer.put " "
  | .styled _ content, writer => writeAllPlain content writer
  | .link _ content, writer => writeAllPlain content writer
  | .image _ content, writer => writeAllPlain content writer
  | .footnote name, writer =>
      let (number, writer) := writer.footnoteNumber name
      writer.put s!"[{number}]"

def writeAllPlain : List Inline → Writer → Writer
  | [], writer => writer
  | first :: rest, writer => writeAllPlain rest (writePlain first writer)

end

mutual

/-- Writes rich text. -/
def writeInline : Inline → Writer → Writer
  | .text text, writer => writer.put (escapeBody text)
  | .code text, writer => ((writer.put "<code>").put (escapeBody text)).put "</code>"
  | .markup text, writer => writer.put text
  | .softBreak, writer => writer.put "\n"
  | .hardBreak, writer => writer.put "<br />\n"
  | .styled style content, writer =>
      (writeInlines content (writer.put ("<" ++ style.tag ++ ">"))).put ("</" ++ style.tag ++ ">")
  | .link target content, writer =>
      let opened := writer.put ("<a href=\"" ++ target.address ++ target.titlePart ++ "\">")
      (writeInlines content opened).put "</a>"
  | .image target content, writer =>
      let opened := writer.put ("<img src=\"" ++ target.address ++ "\" alt=\"")
      (writeAllPlain content opened).put (target.titlePart ++ "\" />")
  | .footnote name, writer =>
      let (number, writer) := writer.footnoteNumber name
      writer.put ("<sup class=\"footnote-reference\"><a href=\"#" ++ escapeValue name ++ "\">" ++
        toString number ++ "</a></sup>")

def writeInlines : List Inline → Writer → Writer
  | [], writer => writer
  | first :: rest, writer => writeInlines rest (writeInline first writer)

end

/-! ## Blocks -/

def Alignment.attribute : Alignment → String
  | none => ""
  | left => " style=\"text-align: left\""
  | center => " style=\"text-align: center\""
  | right => " style=\"text-align: right\""

/-- Writes the cells of a row. -/
def writeCells (references : References) (tag : String) :
    List Alignment → List String → Writer → Writer
  | alignment :: alignments, cell :: cells, writer =>
      let opened := writer.put ("<" ++ tag ++ alignment.attribute ++ ">")
      let closed := (writeInlines (richText references cell) opened).put ("</" ++ tag ++ ">")
      writeCells references tag alignments cells closed
  | _, _, writer => writer

mutual

/-- Writes a block. In tight lists paragraphs are not marked. -/
def writeBlock (references : References) (isTight : Bool) : Block → Writer → Writer
  | .paragraph source, writer =>
      let content := richText references source
      if isTight then writeInlines content writer
      else (writeInlines content (writer.putLine "<p>")).put "</p>\n"
  | .heading level source, writer =>
      let opened := writer.putLine s!"<h{level}>"
      (writeInlines (richText references source) opened).put s!"</h{level}>\n"
  | .rule, writer => writer.putLine "<hr />\n"
  | .code info text, writer =>
      let language := (((info.getD "").splitOn " ").headD "")
      let opening := if language.isEmpty then "<pre><code>"
        else "<pre><code class=\"language-" ++ escapeValue language ++ "\">"
      ((writer.putLine opening).put (escapeBody text)).put "</code></pre>\n"
  | .markup text, writer => writer.put text
  | .quote content, writer =>
      (writeBlocks references false content (writer.putLine "<blockquote>\n")).put
        "</blockquote>\n"
  | .list isTight mark items, writer =>
      let (opening, closing) :=
        if isBullet mark.character then ("<ul>\n", "</ul>\n")
        else if mark.number == 1 then ("<ol>\n", "</ol>\n")
        else (s!"<ol start=\"{mark.number}\">\n", "</ol>\n")
      (writeBlocks references isTight items (writer.putLine opening)).put closing
  | .item content, writer =>
      (writeBlocks references isTight content (writer.putLine "<li>")).put "</li>\n"
  | .checkbox isChecked, writer =>
      writer.put ("<input disabled=\"\" type=\"checkbox\"" ++
        (if isChecked then " checked=\"\"" else "") ++ "/>\n")
  | .table alignments head rows, writer =>
      let headed := (writeCells references "th" alignments head
        (writer.put "<table><thead><tr>")).put "</tr></thead><tbody>\n"
      (rows.foldl (fun writer row =>
        (writeCells references "td" alignments row (writer.put "<tr>")).put "</tr>\n") headed).put
        "</tbody></table>\n"
  | .footnote name content, writer =>
      let opened := writer.putLine ("<div class=\"footnote-definition\" id=\"" ++
        escapeValue name ++ "\"><sup class=\"footnote-definition-label\">")
      let (number, numbered) := opened.footnoteNumber name
      let labelled := (numbered.put (toString number)).put "</sup>"
      (writeBlocks references false content labelled).put "</div>\n"

def writeBlocks (references : References) (isTight : Bool) : List Block → Writer → Writer
  | [], writer => writer
  | first :: rest, writer => writeBlocks references isTight rest (writeBlock references isTight first writer)

end

/-- A text in prose as markup. -/
def renderHtml (text : String) : String :=
  let document := Document.ofText text
  (writeBlocks document.references false document.blocks {}).written

end RepoSurvey.Prose
