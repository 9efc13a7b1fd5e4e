import RepoSurvey.Parsing.Lexer

/-!
# Tokens of scripts that need looking ahead

Semicolons that may be left out, the text of templates and of markup inside scripts, the question
mark of a conditional expression, and comments in the style of markup.
-/

namespace RepoSurvey.Script

open Parsing

/-- The tokens of the scanner's list. Their order is that of the grammar's list of them. -/
inductive ScannedKind
  | automaticSemicolon
  | templateChars
  | ternaryMark
  | htmlComment
  | logicalOr
  | escapeSequence
  | regexPattern
  | markupText
  | signatureSemicolon
  | errorRecovery
  deriving DecidableEq, Repr

def ScannedKind.index (kind : ScannedKind) : Nat := kind.ctorIdx

private def found (kind : ScannedKind) (start stop : Cursor) : Option ScannedToken :=
  some { kind := kind.index, start, stop }

private def isBlank (character : Char) : Bool :=
  character == ' ' || ('\t' ≤ character && character ≤ '\r')

/-- The next character; the end of the text and the null character both give the latter. -/
private def look (source : Source) (cursor : Cursor) : Char := (source.peek cursor).getD '\x00'

private def isLineEnd (character : Char) : Bool :=
  character == '\n' || character.toNat == 0x2028 || character.toNat == 0x2029

/-! ## Templates and markup -/

/-- The text of a template up to what is not plain text. -/
def scanTemplateChars (source : Source) (start : Cursor) : Nat → Bool → Cursor → Option ScannedToken
  | 0, _, _ => none
  | fuel + 1, hasContent, cursor =>
      let finish := if hasContent then found .templateChars start cursor else none
      let character := look source cursor
      let next := source.advance cursor
      if character == '`' || character == '\\' then finish
      else if character == '\x00' then none
      else if character == '$' && look source next == '\x7b' then finish
      else scanTemplateChars source start fuel true next

/-- Where the text between tags ends, and whether there is more to it than white space around line
feeds. -/
def skipMarkupText (source : Source) : Nat → Bool → Bool → Cursor → Bool × Cursor
  | 0, sawText, _, cursor => (sawText, cursor)
  | fuel + 1, sawText, atNewline, cursor =>
      let character := look source cursor
      if character == '\x00' || "<>\x7b\x7d&".contains character then (sawText, cursor)
      else
        let next := source.advance cursor
        if character == '\n' then skipMarkupText source fuel sawText true next
        else
          let stays := atNewline && isBlank character
          skipMarkupText source fuel (sawText || !stays) stays next

/-! ## Semicolons -/

/-- What white space and comments say about a semicolon that was left out. -/
inductive Gap
  /-- A lone slash: there is none. -/
  | refused
  | sameLine
  | open
  deriving DecidableEq, Repr

/-- Where the line of a line comment ends. -/
def skipLine (source : Source) (cursor : Cursor) : Cursor :=
  source.skipWhile (fun character => character != '\x00' && !isLineEnd character) cursor

/-- Reads a block comment after its opening: where it ends, whether it is closed, and whether a
line ended in it. -/
def skipBlock (source : Source) : Nat → Bool → Cursor → Cursor × Bool × Bool
  | 0, sawNewline, cursor => (cursor, false, sawNewline)
  | fuel + 1, sawNewline, cursor =>
      let character := look source cursor
      let next := source.advance cursor
      if character == '\x00' then (cursor, false, sawNewline)
      else if character == '*' then
        if look source next == '/' then (source.advance next, true, sawNewline)
        else skipBlock source fuel sawNewline next
      else skipBlock source fuel (sawNewline || isLineEnd character) next

/-- Where reading has come: the place, and whether a comment was passed. -/
structure GapRun where
  cursor : Cursor
  sawComment : Bool

/-- Moves over white space and comments. Unless all of them are wanted, a block comment ends the
gap. -/
def skipGap (source : Source) (all : Bool) : Nat → Bool → GapRun → Gap × GapRun
  | 0, _, progress => (.open, progress)
  | fuel + 1, sawNewline, progress =>
      let cursor := source.skipWhile isBlank progress.cursor
      if look source cursor != '/' then (.open, { progress with cursor })
      else
        let second := source.advance cursor
        if look source second == '/' then
          skipGap source all fuel sawNewline ⟨skipLine source (source.advance second), true⟩
        else if look source second == '*' then
          let (stop, isClosed, sawNewline) :=
            skipBlock source (source.size + 1) sawNewline (source.advance second)
          if isClosed && look source stop != '/' && !all then
            (if sawNewline then .open else .sameLine, ⟨stop, true⟩)
          else skipGap source all fuel sawNewline ⟨stop, progress.sawComment || isClosed⟩
        else (.refused, { progress with cursor := second })

/-- Whether the text goes on with `in` or `instanceof` as a whole word. -/
def isOperatorWord (source : Source) (cursor : Cursor) : Bool :=
  let afterI := source.advance cursor
  if look source afterI != 'n' then false
  else
    let afterIn := source.advance afterI
    if !(look source afterIn).isAlpha then true
    else
      let stop := "stanceof".toList.foldl (fun cursor wanted =>
        cursor.bind fun cursor =>
          if look source cursor == wanted then some (source.advance cursor) else none)
        (some afterIn)
      stop.elim false fun stop => !(look source stop).isAlpha

/-- Whether a statement may end before the token at `cursor`, which stands on a later line. -/
def endsBefore (source : Source) (wants : ScannedKind → Bool) (cursor : Cursor) : Bool :=
  let character := look source cursor
  let second := look source (source.advance cursor)
  if "`,.;*%><=?^|&/:".contains character then false
  else if character == '\x7b' then !wants .signatureSemicolon
  else if character == '(' || character == '[' then !wants .logicalOr
  else if character == '+' then second == '+'
  else if character == '-' then second == '-'
  else if character == '!' then second != '='
  else if character == 'i' then !isOperatorWord source cursor
  else true

/-- How the search for a semicolon that was left out ended: whether there is one, whether a comment
was passed, and where reading stopped. -/
structure SemicolonSearch where
  isThere : Bool
  sawComment : Bool
  cursor : Cursor

/-- Looks for a semicolon that was left out. -/
def seekSemicolon (source : Source) (wants : ScannedKind → Bool) :
    Nat → GapRun → SemicolonSearch
  | 0, progress => ⟨false, progress.sawComment, progress.cursor⟩
  | fuel + 1, progress =>
      let answer (isThere : Bool) (progress : GapRun) : SemicolonSearch :=
        ⟨isThere, progress.sawComment, progress.cursor⟩
      let step (progress : GapRun) : SemicolonSearch :=
        let character := look source progress.cursor
        if character == '\x7d' then
          let stop := source.skipWhile isBlank (source.advance progress.cursor)
          let isThere := if look source stop == ':' then wants .logicalOr else true
          answer isThere { progress with cursor := stop }
        else if !isBlank character then answer false progress
        else if character == '\n' then
          let (gap, progress) := skipGap source true (source.size + 2) false
            { progress with cursor := source.advance progress.cursor }
          if gap == .refused then answer false progress
          else answer (endsBefore source wants progress.cursor) progress
        else
          seekSemicolon source wants fuel
            { progress with cursor := source.advance progress.cursor }
      let character := look source progress.cursor
      if character == '\x00' then answer true progress
      else if character == '/' then
        let (gap, progress) := skipGap source false (source.size + 2) false progress
        let next := look source progress.cursor
        if gap == .refused then answer false progress
        else if gap == .open && !wants .logicalOr && next != ',' && next != '=' then
          answer true progress
        else step progress
      else step progress

/-! ## Conditional expressions and comments -/

/-- The question mark of a conditional expression, which is neither an optional access nor the mark
of an optional parameter. -/
def scanTernaryMark (source : Source) (cursor : Cursor) : Option ScannedToken :=
  let start := source.skipWhile isBlank cursor
  if look source start != '?' then none
  else
    let stop := source.advance start
    let next := look source stop
    if next == '?' || next == '.' then none
    else
      let after := source.skipWhile isBlank stop
      let character := look source after
      if character == ':' || character == ')' || character == ',' then none
      else if character == '.' && !(look source (source.advance after)).isDigit then none
      else found .ternaryMark start stop

/-- Moves over a text if it stands there. -/
def expectText (source : Source) (text : String) (cursor : Cursor) : Option Cursor :=
  text.toList.foldl (fun cursor wanted =>
    cursor.bind fun cursor =>
      if look source cursor == wanted then some (source.advance cursor) else none)
    (some cursor)

/-- A comment in the style of markup, up to the end of its line. `first` is where the token starts
unless white space follows. -/
def scanHtmlComment (source : Source) (first cursor : Cursor) : Option ScannedToken :=
  let opening := source.skipWhile (fun character => isBlank character || isLineEnd character) cursor
  let start := if opening.index == cursor.index then first else opening
  let after :=
    if look source opening == '<' then expectText source "<!--" opening
    else if look source opening == '-' then expectText source "-->" opening
    else none
  after.bind fun after => found .htmlComment start (skipLine source after)

def scanner : Scanner := fun _ expected source cursor =>
  let wants (kind : ScannedKind) : Bool := expected[kind.index]!
  if wants .templateChars then
    if wants .automaticSemicolon then none
    else scanTemplateChars source cursor (source.size + 1) false cursor
  else
    let (sawText, reached) :=
      if wants .markupText then skipMarkupText source (source.size + 1) false false cursor
      else (false, cursor)
    if sawText then found .markupText cursor reached
    else if wants .automaticSemicolon || wants .signatureSemicolon then
      let search := seekSemicolon source wants (source.size + 2) ⟨reached, false⟩
      if search.isThere then found .automaticSemicolon reached reached
      else if !search.sawComment && wants .ternaryMark && look source search.cursor == '?' then
        scanTernaryMark source search.cursor
      else none
    else if wants .ternaryMark then scanTernaryMark source reached
    else if wants .htmlComment && !wants .logicalOr && !wants .escapeSequence &&
        !wants .regexPattern then
      scanHtmlComment source cursor reached
    else none

end RepoSurvey.Script
