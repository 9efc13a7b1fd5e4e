import RepoSurvey.Yaml.BlockText
import RepoSurvey.Yaml.FlowText
import RepoSurvey.Yaml.Naming

/-!
# The tokens of a text

Tokens are read in the order of the text, with two additions: the starts and ends of blocks follow from
the indentation, and the token of a key is put before a node once the colon behind the node has been
found.  A node that may turn out to be a key is therefore held back, until it is clear that no colon
follows.
-/

namespace RepoSurvey.Yaml

/-- A node that turns out to be a key if a colon follows it on the same line. -/
structure PossibleKey where
  /-- How many tokens come before the node. -/
  position : Nat
  mark : Mark
  /-- Whether nothing but a key can stand here. -/
  isRequired : Bool
  deriving DecidableEq, Repr

/-- The tokens of a text, up to a failure if there is one. -/
structure TokenStream where
  tokens : List Token
  failure : Option Failure
  deriving Repr

structure TokenReader where
  cursor : Cursor
  /-- The tokens that are settled, the latest first. -/
  settled : List Token := []
  settledCount : Nat := 0
  /-- The tokens behind them, before which a key may still be put. -/
  pending : List Token := []
  /-- The columns of the blocks around this place, the innermost first. -/
  indents : List Nat := []
  /-- Whether a node that starts here may be a key. -/
  allowsKey : Bool := true
  possibleKey : Option PossibleKey := none
  /-- The possible keys around each flow collection around this place, the innermost first. -/
  outerKeys : List (Option PossibleKey) := []
  isAtEnd : Bool := false
  deriving Repr

namespace TokenReader

def inFlow (reader : TokenReader) : Bool := !reader.outerKeys.isEmpty

def mark (reader : TokenReader) : Mark := reader.cursor.mark

/-- The column of the innermost block, -1 outside of blocks. -/
def indent (reader : TokenReader) : Int :=
  match reader.indents with
  | [] => -1
  | column :: _ => column

/-- How many tokens have been read. -/
def count (reader : TokenReader) : Nat := reader.settledCount + reader.pending.length

def push (reader : TokenReader) (token : Token) : TokenReader :=
  { reader with pending := reader.pending ++ [token] }

/-- Puts a token before the one with this position. -/
def insert (reader : TokenReader) (position : Nat) (token : Token) : TokenReader :=
  { reader with pending := reader.pending.insertIdx (position - reader.settledCount) token }

/-- Goes on at a cursor, behind a token that starts here. -/
def goOn (reader : TokenReader) (kind : TokenKind) (cursor : Cursor) : TokenReader :=
  { reader.push ⟨kind, reader.mark, cursor.mark⟩ with cursor }

/-! ## Keys -/

def withoutColon (key : PossibleKey) (mark : Mark) : Failure :=
  ⟨"could not find expected ':'", mark, some ("while scanning a simple key", key.mark), 0⟩

/-- Gives up on the possible key of this place. -/
def dropKey (reader : TokenReader) : Except Failure TokenReader :=
  match reader.possibleKey with
  | none => .ok reader
  | some key =>
      if key.isRequired then .error (withoutColon key reader.mark)
      else .ok { reader with possibleKey := none }

/-- Remembers that a node which starts here may be a key. -/
def noteKey (reader : TokenReader) : Except Failure TokenReader :=
  if reader.allowsKey then do
    let isRequired := !reader.inFlow && reader.indent == reader.mark.column
    let key : PossibleKey := ⟨reader.count, reader.mark, isRequired⟩
    return { ← reader.dropKey with possibleKey := some key }
  else .ok reader

/-- Whether a node that started so long ago can no longer be a key. -/
def isStale (mark : Mark) (key : PossibleKey) : Bool :=
  key.mark.line < mark.line || key.mark.index + 1024 < mark.index

/-- Gives up on the stale ones among possible keys, the outermost first. -/
def dropStale (mark : Mark) :
    List (Option PossibleKey) → Except Failure (List (Option PossibleKey))
  | [] => .ok []
  | key :: rest => do
      let rest ← dropStale mark rest
      match key with
      | none => return none :: rest
      | some key =>
          if !isStale mark key then return some key :: rest
          else if key.isRequired then throw (withoutColon key mark)
          else return none :: rest

def dropStaleKeys (reader : TokenReader) : Except Failure TokenReader := do
  match ← dropStale reader.mark (reader.possibleKey :: reader.outerKeys) with
  | [] => return reader
  | possibleKey :: outerKeys => return { reader with possibleKey, outerKeys }

/-! ## Blocks -/

/-- Starts a block at a column if it is further right than the innermost block. -/
def openBlock (reader : TokenReader) (column : Nat) (place : TokenReader → Token → TokenReader)
    (kind : TokenKind) (mark : Mark) : TokenReader :=
  if !reader.inFlow && reader.indent < column then
    { place reader ⟨kind, mark, mark⟩ with indents := column :: reader.indents }
  else reader

/-- The blocks that go on at a column, and one end for each of the others. -/
def closedBlocks (mark : Mark) (column : Int) : List Nat → List Nat × List Token
  | [] => ([], [])
  | indent :: rest =>
      if column < indent then
        let (left, ends) := closedBlocks mark column rest
        (left, ⟨.blockEnd, mark, mark⟩ :: ends)
      else (indent :: rest, [])

/-- Ends the blocks that are further right than a column. -/
def closeBlocks (reader : TokenReader) (column : Int) : TokenReader :=
  if reader.inFlow then reader
  else
    let (indents, ends) := closedBlocks reader.mark column reader.indents
    { reader with indents, pending := reader.pending ++ ends }

/-! ## Tokens of each kind -/

def failureHere {α : Type} (reader : TokenReader) (problem : String) : Except Failure α :=
  .error ⟨problem, reader.mark, none, 0⟩

def readEnd (reader : TokenReader) : Except Failure TokenReader := do
  let mark := reader.mark
  let mark := if mark.column == 0 then mark else { mark with line := mark.line + 1, column := 0 }
  let reader := { reader with cursor := ⟨reader.cursor.rest, mark⟩ }
  let reader ← (reader.closeBlocks (-1)).dropKey
  return { reader.push ⟨.streamEnd, mark, mark⟩ with allowsKey := false, isAtEnd := true }

def readDirective (reader : TokenReader) : Except Failure TokenReader := do
  let reader ← (reader.closeBlocks (-1)).dropKey
  let (kind, stop, cursor) ← directive reader.cursor
  return { reader.push ⟨kind, reader.mark, stop⟩ with cursor, allowsKey := false }

def readDocumentEdge (reader : TokenReader) (kind : TokenKind) : Except Failure TokenReader := do
  let reader ← (reader.closeBlocks (-1)).dropKey
  return { reader.goOn kind (reader.cursor.along 3) with allowsKey := false }

def readFlowStart (reader : TokenReader) (kind : TokenKind) : Except Failure TokenReader := do
  let reader ← reader.noteKey
  return { reader.goOn kind (reader.cursor.along 1) with
    allowsKey := true
    possibleKey := none
    outerKeys := reader.possibleKey :: reader.outerKeys }

def readFlowEnd (reader : TokenReader) (kind : TokenKind) : Except Failure TokenReader := do
  let reader ← reader.dropKey
  let reader := match reader.outerKeys with
    | [] => reader
    | possibleKey :: outerKeys => { reader with possibleKey, outerKeys }
  return { reader.goOn kind (reader.cursor.along 1) with allowsKey := false }

def readFlowEntry (reader : TokenReader) : Except Failure TokenReader := do
  let reader ← reader.dropKey
  return { reader.goOn .flowEntry (reader.cursor.along 1) with allowsKey := true }

def readBlockEntry (reader : TokenReader) : Except Failure TokenReader := do
  if !reader.inFlow && !reader.allowsKey then
    failureHere reader "block sequence entries are not allowed in this context"
  else
    let reader := reader.openBlock reader.mark.column push .blockSequenceStart reader.mark
    let reader ← reader.dropKey
    return { reader.goOn .blockEntry (reader.cursor.along 1) with allowsKey := true }

def readKey (reader : TokenReader) : Except Failure TokenReader := do
  if !reader.inFlow && !reader.allowsKey then
    failureHere reader "mapping keys are not allowed in this context"
  else
    let reader := reader.openBlock reader.mark.column push .blockMappingStart reader.mark
    let reader ← reader.dropKey
    return { reader.goOn .key (reader.cursor.along 1) with allowsKey := !reader.inFlow }

def readValue (reader : TokenReader) : Except Failure TokenReader :=
  match reader.possibleKey with
  | some key =>
      let reader := reader.insert key.position ⟨.key, key.mark, key.mark⟩
      let reader := reader.openBlock key.mark.column (·.insert key.position) .blockMappingStart
        key.mark
      .ok { reader.goOn .value (reader.cursor.along 1) with allowsKey := false, possibleKey := none }
  | none =>
      if !reader.inFlow && !reader.allowsKey then
        failureHere reader "mapping values are not allowed in this context"
      else
        let reader := reader.openBlock reader.mark.column push .blockMappingStart reader.mark
        .ok { reader.goOn .value (reader.cursor.along 1) with allowsKey := !reader.inFlow }

def readAlias (reader : TokenReader) : Except Failure TokenReader := do
  let reader ← reader.noteKey
  let (name, cursor) ← anchorName "while scanning an alias" reader.mark (reader.cursor.along 1)
  return { reader.goOn (.reference name) cursor with allowsKey := false }

def readAnchor (reader : TokenReader) : Except Failure TokenReader := do
  let reader ← reader.noteKey
  let (name, cursor) ← anchorName "while scanning an anchor" reader.mark (reader.cursor.along 1)
  return { reader.goOn (.anchor name) cursor with allowsKey := false }

def readTag (reader : TokenReader) : Except Failure TokenReader := do
  let reader ← reader.noteKey
  let (name, cursor) ← tagName reader.inFlow reader.cursor
  return { reader.goOn (.tag name) cursor with allowsKey := false }

def readBlockText (reader : TokenReader) (style : TextStyle) : Except Failure TokenReader := do
  let reader ← reader.dropKey
  let (content, cursor) ←
    blockText (style == .literal) reader.indent reader.mark (reader.cursor.along 1)
  return { reader.goOn (.text content style) cursor with allowsKey := true }

def readQuotedText (reader : TokenReader) (quote : Char) : Except Failure TokenReader := do
  let reader ← reader.noteKey
  let behind := reader.cursor.along 1
  let (content, cursor) ← quotedText quote reader.mark {} behind.mark behind.rest
  return { reader.goOn (.text content .quoted) cursor with allowsKey := false }

def readPlainText (reader : TokenReader) : Except Failure TokenReader := do
  let reader ← reader.noteKey
  let (words, cursor) ← plainText reader.inFlow (reader.indent + 1) reader.mark {} reader.mark
    reader.cursor.rest
  return { reader.goOn (.text words.text .plain) cursor with allowsKey := words.isBroken }

/-! ## All tokens -/

/-- Passes over what separates tokens. A line that starts outside of flow collections may start with a
key. At most `limit` lines are passed over. -/
def skipSpace (reader : TokenReader) : Nat → TokenReader
  | 0 => reader
  | limit + 1 =>
      let cursor := reader.cursor
      let cursor := if cursor.mark.column == 0 && cursor.isAt '\ufeff' then cursor.along 1 else cursor
      let takesTabs := reader.inFlow || !reader.allowsKey
      let cursor := cursor.skipWhile fun character =>
        character == ' ' || (takesTabs && character == '\t')
      let cursor := if cursor.isAt '#' then cursor.skipWhile (!isBreak ·) else cursor
      if startsWith isBreak cursor.rest then
        { reader with cursor := cursor.skipBreak, allowsKey := !reader.inFlow || reader.allowsKey }
          |>.skipSpace limit
      else { reader with cursor }

/-- The characters that only start plain texts before a character that is no blank. -/
def isIndicator (character : Char) : Bool := "-?:,[]\x7b\x7d#&*!|>'\"%@`".toList.contains character

/-- Whether a plain text starts with these characters. -/
def startsPlainText (inFlow : Bool) : List Char → Bool
  | [] => false
  | character :: rest =>
      (!isBlank character && !isBreak character && !isIndicator character) ||
        (character == '-' && !startsWith isBlank rest) ||
        (!inFlow && (character == '?' || character == ':') && !atWordEnd rest)

/-- Reads the token that starts here. -/
def readToken (reader : TokenReader) : Except Failure TokenReader :=
  let atLineStart := reader.mark.column == 0
  match reader.cursor.rest with
  | [] => reader.readEnd
  | character :: rest =>
      if atLineStart && character == '%' then reader.readDirective
      else if atLineStart && isTripled '-' (character :: rest) then
        reader.readDocumentEdge .documentStart
      else if atLineStart && isTripled '.' (character :: rest) then
        reader.readDocumentEdge .documentEnd
      else if character == '[' then reader.readFlowStart .flowSequenceStart
      else if character == '\x7b' then reader.readFlowStart .flowMappingStart
      else if character == ']' then reader.readFlowEnd .flowSequenceEnd
      else if character == '\x7d' then reader.readFlowEnd .flowMappingEnd
      else if character == ',' then reader.readFlowEntry
      else if character == '-' && atWordEnd rest then reader.readBlockEntry
      else if character == '?' && (reader.inFlow || atWordEnd rest) then reader.readKey
      else if character == ':' && (reader.inFlow || atWordEnd rest) then reader.readValue
      else if character == '*' then reader.readAlias
      else if character == '&' then reader.readAnchor
      else if character == '!' then reader.readTag
      else if character == '|' && !reader.inFlow then reader.readBlockText .literal
      else if character == '>' && !reader.inFlow then reader.readBlockText .folded
      else if character == '\'' || character == '"' then reader.readQuotedText character
      else if startsPlainText reader.inFlow (character :: rest) then reader.readPlainText
      else .error (reader.cursor.failure "found character that cannot start any token"
        "while scanning for the next token" reader.mark)

/-- Reads the next token and what the indentation says before it. -/
def step (reader : TokenReader) : Except Failure TokenReader := do
  let reader := reader.skipSpace (reader.cursor.rest.length + 1)
  let reader ← reader.dropStaleKeys
  (reader.closeBlocks reader.mark.column).readToken

/-- Settles the pending tokens up to the first that may be a key. -/
def settle (reader : TokenReader) : TokenReader :=
  let held := (reader.possibleKey :: reader.outerKeys).filterMap id |>.map (·.position)
  let ready := match held.min? with
    | none => reader.pending.length
    | some position => min (position - reader.settledCount) reader.pending.length
  { reader with
    settled := (reader.pending.take ready).reverse ++ reader.settled
    settledCount := reader.settledCount + ready
    pending := reader.pending.drop ready }

/-- Reads tokens to the end or the first failure. Every step reads at least one character or the end, so
as many steps as there are characters and one more are enough. -/
def run (reader : TokenReader) : Nat → TokenStream
  | 0 => ⟨reader.settled.reverse, none⟩
  | limit + 1 =>
      match reader.step with
      | .error failure => ⟨reader.settled.reverse, some failure⟩
      | .ok reader =>
          match reader.dropStaleKeys with
          | .error failure => ⟨reader.settled.reverse, some failure⟩
          | .ok fresh =>
              let reader := fresh.settle
              if reader.isAtEnd then ⟨reader.settled.reverse, none⟩ else reader.run limit

end TokenReader

/-- The tokens of a text. -/
def tokens (text : List Char) : TokenStream :=
  match forbiddenCharacter? text with
  | some failure => ⟨[], some failure⟩
  | none => ({ cursor := ⟨text, {}⟩ } : TokenReader).run (text.length + 1)

end RepoSurvey.Yaml
