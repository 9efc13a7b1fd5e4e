import RepoSurvey.Markup.Elements
import RepoSurvey.Parsing.Lexer

/-!
# Tokens of markup that depend on the open elements

Tag names open and close elements, some elements end without an end tag, and the text of scripts
and styles runs up to their end tags.
-/

namespace RepoSurvey.Markup

open Parsing

/-- The tokens found here. Their order is that of the grammar's list of them. -/
inductive ScannedKind
  | startTagName
  | scriptStartTagName
  | styleStartTagName
  | endTagName
  | erroneousEndTagName
  | selfClosingEnd
  | implicitEnd
  | rawText
  | comment
  deriving DecidableEq, Repr

def ScannedKind.index (kind : ScannedKind) : Nat := kind.ctorIdx

private def found (kind : ScannedKind) (start stop : Cursor) (elements : List String) :
    Option ScannedToken :=
  some { kind := kind.index, start, stop, state := elements }

private def isBlank (character : Char) : Bool :=
  character == ' ' || ('\t' ≤ character && character ≤ '\r')

/-- The next character; the end of the text and the null character both give the latter. -/
private def look (source : Source) (cursor : Cursor) : Char := (source.peek cursor).getD '\x00'

private def isNameChar (character : Char) : Bool :=
  character.isAlphanum || character == '-' || character == ':'

/-- A tag name, in upper case, and where it ends. -/
def readName (source : Source) (cursor : Cursor) : String × Cursor :=
  let stop := source.skipWhile isNameChar cursor
  (String.ofList ((source.extract cursor.index stop.index).toList.map Char.toUpper), stop)

/-- The rest of a comment after two hyphens; `dashes` counts those just before. -/
def skipComment (source : Source) : Nat → Nat → Cursor → Option Cursor
  | 0, _, _ => none
  | fuel + 1, dashes, cursor =>
      let character := look source cursor
      let next := source.advance cursor
      if character == '\x00' then none
      else if character == '-' then skipComment source fuel (dashes + 1) next
      else if character == '>' && 2 ≤ dashes then some next
      else skipComment source fuel 0 next

/-- A comment, after its opening bracket and exclamation mark. -/
def scanComment (source : Source) (elements : List String) (start cursor : Cursor) :
    Option ScannedToken :=
  let second := source.advance cursor
  if look source cursor == '-' && look source second == '-' then
    match skipComment source source.size 0 (source.advance second) with
    | some stop => found .comment start stop elements
    | none => none
  else none

/-- The end of raw text: where the last character stands that does not begin the delimiter.
`matched` is how much of the delimiter has just been read. -/
def skipRawText (source : Source) (delimiter : List Char) : Nat → List Char → Cursor → Cursor → Cursor
  | 0, _, _, stop => stop
  | fuel + 1, expected, cursor, stop =>
      let character := look source cursor
      if character == '\x00' then stop
      else
        let next := source.advance cursor
        match expected with
        | [] => stop
        | wanted :: rest =>
            if character.toUpper == wanted then skipRawText source delimiter fuel rest next stop
            else skipRawText source delimiter fuel delimiter next next

def scanRawText (source : Source) (elements : List String) (start : Cursor) :
    Option ScannedToken :=
  match elements with
  | [] => none
  | innermost :: _ =>
      let delimiter := if innermost == "SCRIPT" then "</SCRIPT" else "</STYLE"
      let stop := skipRawText source delimiter.toList (source.size + 1) delimiter.toList start start
      found .rawText start stop elements

/-- Whether the innermost element ends here without an end tag. `start` is where the token would
be, `cursor` is behind an opening bracket or at the end of the text. -/
def scanImplicitEnd (source : Source) (elements : List String) (start stop cursor : Cursor) :
    Option ScannedToken :=
  let close := found .implicitEnd start stop (elements.drop 1)
  let isClosing := look source cursor == '/'
  if !isClosing && (elements.head?.elim false isVoid) then close
  else
    let (name, after) := readName source (if isClosing then source.advance cursor else cursor)
    if name.isEmpty && !source.atEnd after then none
    else if isClosing then
      if elements.head? == some name then none
      else if elements.any (sameKind · name) then close
      else none
    else
      match elements with
      | [] => none
      | parent :: _ =>
          if !canContain parent name || (endsWithDocument parent && source.atEnd after) then close
          else none

def scanStartTagName (source : Source) (elements : List String) (start : Cursor) :
    Option ScannedToken :=
  let (name, stop) := readName source start
  if name.isEmpty then none
  else
    let kind : ScannedKind :=
      if name == "SCRIPT" then .scriptStartTagName
      else if name == "STYLE" then .styleStartTagName
      else .startTagName
    found kind start stop (openElement name elements)

def scanEndTagName (source : Source) (elements : List String) (start : Cursor) :
    Option ScannedToken :=
  let (name, stop) := readName source start
  if name.isEmpty then none
  else if elements.head? == some name then found .endTagName start stop (elements.drop 1)
  else found .erroneousEndTagName start stop elements

def scanSelfClosingEnd (source : Source) (elements : List String) (start : Cursor) :
    Option ScannedToken :=
  let next := source.advance start
  if look source next != '>' then none
  else
    let kind : ScannedKind := if elements.isEmpty then .startTagName else .selfClosingEnd
    found kind start (source.advance next) (elements.drop 1)

def scanner : Scanner := fun elements expected source cursor =>
  let wants (kind : ScannedKind) : Bool := expected[kind.index]!
  if wants .rawText && !wants .startTagName && !wants .endTagName then
    scanRawText source elements cursor
  else
    let start := source.skipWhile isBlank cursor
    let character := look source start
    if character == '<' then
      let inside := source.advance start
      if look source inside == '!' then
        scanComment source elements start (source.advance inside)
      else if wants .implicitEnd then scanImplicitEnd source elements start start inside
      else none
    else if character == '\x00' then
      if wants .implicitEnd then scanImplicitEnd source elements start start start else none
    else if character == '/' then
      if wants .selfClosingEnd then scanSelfClosingEnd source elements start else none
    else if (wants .startTagName || wants .endTagName) && !wants .rawText then
      if wants .startTagName then scanStartTagName source elements start
      else scanEndTagName source elements start
    else none

end RepoSurvey.Markup
