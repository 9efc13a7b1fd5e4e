import RepoSurvey.Yaml.Tokens

/-!
# The events of a text

Events tell the nodes of a document in the order of the text: texts and aliases, and where sequences and
mappings start and end.  Nodes that are left out appear as empty texts.
-/

namespace RepoSurvey.Yaml

/-- A text that was written as a node. The tag is its full name. -/
structure Scalar where
  text : String
  style : TextStyle := .plain
  tag : Option String := none
  deriving BEq, DecidableEq, Repr

inductive EventKind
  | documentStart
  | documentEnd
  | streamEnd
  | reference (name : String)
  | scalar (anchor : Option String) (scalar : Scalar)
  | sequenceStart (anchor : Option String)
  | sequenceEnd
  | mappingStart (anchor : Option String)
  | mappingEnd
  deriving BEq, DecidableEq, Repr

structure Event where
  kind : EventKind
  mark : Mark
  deriving BEq, DecidableEq, Repr

/-- What may come next. Collections remember where they started. -/
inductive Stage
  | documentStart (isImplicit : Bool)
  | documentContent
  | documentEnd
  | blockNode
  | blockEntry (start : Mark)
  | unindentedEntry
  | blockKey (start : Mark)
  | blockValue (start : Mark)
  | flowEntry (start : Mark) (isFirst : Bool)
  | pairKey (start : Mark)
  | pairValue (start : Mark)
  | pairEnd (start : Mark)
  | flowKey (start : Mark) (isFirst : Bool)
  | flowValue (start : Mark)
  /-- A key of a flow mapping that has no value. -/
  | flowNoValue (start : Mark)
  deriving DecidableEq, Repr

structure EventReader where
  tokens : List Token
  /-- Why there are no more tokens. -/
  failure : Option Failure
  stage : Stage := .documentStart true
  /-- The stages to come back to, the innermost first. -/
  outer : List Stage := []
  /-- What handles stand for in this document, the latest first. -/
  handles : List (String × String) := []
  deriving Repr

namespace EventReader

abbrev Answer := Except Failure (Event × EventReader)

def peek (reader : EventReader) : Except Failure Token :=
  match reader.tokens, reader.failure with
  | token :: _, _ => .ok token
  | [], some failure => .error failure
  | [], none => .error { problem := "found unexpected end of stream" }

def skip (reader : EventReader) : EventReader := { reader with tokens := reader.tokens.drop 1 }

/-- Goes on with a stage. -/
def goTo (reader : EventReader) (stage : Stage) : EventReader := { reader with stage }

/-- Comes back to the innermost of the outer stages. -/
def back (reader : EventReader) : EventReader :=
  match reader.outer with
  | [] => reader
  | stage :: outer => { reader with stage, outer }

/-- Will come back to a stage. -/
def before (reader : EventReader) (stage : Stage) : EventReader :=
  { reader with outer := stage :: reader.outer }

def event (reader : EventReader) (kind : EventKind) (mark : Mark) : Answer :=
  .ok (⟨kind, mark⟩, reader)

/-- A node that is left out. -/
def emptyNode (reader : EventReader) (mark : Mark) : Answer :=
  reader.event (.scalar none { text := "" }) mark

def failed {α : Type} (problem : String) (mark : Mark) (context : Option (String × Mark) := none) :
    Except Failure α :=
  .error ⟨problem, mark, context, 0⟩

/-! ## Documents -/

def defaultHandles : List (String × String) := [("!", "!"), ("!!", "tag:yaml.org,2002:")]

/-- Reads directives. At most `limit` of them are read. -/
def readDirectives (hasVersion : Bool) (reader : EventReader) : Nat → Except Failure EventReader
  | 0 => .ok reader
  | limit + 1 => do
      let token ← reader.peek
      match token.kind with
      | .version major minor =>
          if hasVersion then failed "found duplicate %YAML directive" token.start
          else if major != 1 || (minor != 1 && minor != 2) then
            failed "found incompatible YAML document" token.start
          else readDirectives true reader.skip limit
      | .handle handle start =>
          if (reader.handles.lookup handle).isSome then
            failed "found duplicate %TAG directive" token.start
          else
            let handles := (handle, start) :: reader.handles
            readDirectives hasVersion { reader.skip with handles } limit
      | _ => return { reader with handles := reader.handles ++ defaultHandles }

def isDirective : TokenKind → Bool
  | .version .. => true
  | .handle .. => true
  | _ => false

/-- The reader behind the ends of documents. -/
def skipDocumentEnds (reader : EventReader) : EventReader :=
  { reader with tokens := reader.tokens.dropWhile (·.kind == .documentEnd) }

def readDocumentStart (reader : EventReader) (isImplicit : Bool) : Answer := do
  let reader := if isImplicit then reader else reader.skipDocumentEnds
  let token ← reader.peek
  let isExplicit := isDirective token.kind || token.kind == .documentStart
  if token.kind == .streamEnd then reader.event .streamEnd token.start
  else if isImplicit && !isExplicit then
    ({ reader with handles := defaultHandles }.before .documentEnd |>.goTo .blockNode).event
      .documentStart token.start
  else
    let start := token.start
    let reader ← readDirectives false reader (reader.tokens.length + 1)
    let token ← reader.peek
    if token.kind == .documentStart then
      (reader.skip.before .documentEnd |>.goTo .documentContent).event .documentStart start
    else failed "did not find expected <document start>" token.start

def readDocumentEnd (reader : EventReader) : Answer := do
  let token ← reader.peek
  let reader := if token.kind == .documentEnd then reader.skip else reader
  ({ reader with handles := [] }.goTo (.documentStart false)).event .documentEnd token.start

/-! ## Nodes -/

/-- The full name of a tag. -/
def tagText (reader : EventReader) (name : TagName) (start mark : Mark) : Except Failure String :=
  if name.handle.isEmpty then .ok name.suffix
  else match reader.handles.lookup name.handle with
    | some beginning => .ok (beginning ++ name.suffix)
    | none => failed "found undefined tag handle" mark (some ("while parsing a node", start))

/-- The anchor and tag of a node. -/
structure Properties where
  anchor : Option String := none
  tag : Option String := none
  /-- Where the node starts. -/
  start : Mark

def readAnchor (reader : EventReader) : Except Failure (Option String × EventReader) := do
  match (← reader.peek).kind with
  | .anchor name => return (some name, reader.skip)
  | _ => return (none, reader)

def readTag (reader : EventReader) : Except Failure (Option (TagName × Mark) × EventReader) := do
  let token ← reader.peek
  match token.kind with
  | .tag name => return (some (name, token.start), reader.skip)
  | _ => return (none, reader)

/-- Reads the anchor and tag of a node, in either order. -/
def readProperties (reader : EventReader) : Except Failure (Properties × EventReader) := do
  let start := (← reader.peek).start
  let (anchor, reader) ← reader.readAnchor
  let (tag, reader) ← reader.readTag
  let (anchor, reader) ←
    if anchor.isNone && tag.isSome then reader.readAnchor else .ok (anchor, reader)
  let _ ← reader.peek
  let tag ← tag.mapM fun (name, mark) => reader.tagText name start mark
  return ({ anchor, tag, start }, reader)

/-- Reads the start of a node. -/
def readNode (reader : EventReader) (inBlock : Bool) (allowsUnindented : Bool := false) : Answer := do
  let token ← reader.peek
  match token.kind with
  | .reference name => reader.skip.back.event (.reference name) token.start
  | _ =>
      let ({ anchor, tag, start }, reader) ← reader.readProperties
      let token ← reader.peek
      let collection (stage : Stage) (kind : EventKind) : Answer :=
        (reader.skip.goTo stage).event kind start
      match token.kind, inBlock with
      | .text text style, _ =>
          let tag := if tag == some "!" then none else tag
          reader.skip.back.event (.scalar anchor { text, style, tag }) start
      | .flowSequenceStart, _ => collection (.flowEntry token.start true) (.sequenceStart anchor)
      | .flowMappingStart, _ => collection (.flowKey token.start true) (.mappingStart anchor)
      | .blockSequenceStart, true => collection (.blockEntry token.start) (.sequenceStart anchor)
      | .blockMappingStart, true => collection (.blockKey token.start) (.mappingStart anchor)
      | kind, _ =>
          if allowsUnindented && kind == .blockEntry then
            (reader.goTo .unindentedEntry).event (.sequenceStart anchor) start
          else if anchor.isSome || tag.isSome then
            reader.back.event (.scalar anchor { text := "", tag }) start
          else
            let activity :=
              if inBlock then "while parsing a block node" else "while parsing a flow node"
            failed "did not find expected node content" token.start (some (activity, start))

/-- Reads a node unless it is left out, as it is before a token of these kinds. What follows is read
from the stage `next` on. -/
def readNodeUnless (reader : EventReader) (kinds : List TokenKind) (next : Stage) (mark : Mark)
    (inBlock : Bool) (allowsUnindented : Bool := false) : Answer := do
  if kinds.contains (← reader.peek).kind then (reader.goTo next).emptyNode mark
  else (reader.before next).readNode inBlock allowsUnindented

/-- Reads a node of a flow collection unless it is left out. A node that is left out is placed where
the next token is. -/
def readFlowNode (reader : EventReader) (kinds : List TokenKind) (next : Stage) : Answer := do
  let mark := (← reader.peek).start
  reader.readNodeUnless kinds next mark false

/-! ## Collections -/

def readBlockEntry (reader : EventReader) (start : Mark) : Answer := do
  let token ← reader.peek
  match token.kind with
  | .blockEntry =>
      reader.skip.readNodeUnless [.blockEntry, .blockEnd] (.blockEntry start) token.stop true
  | .blockEnd => reader.skip.back.event .sequenceEnd token.start
  | _ =>
      failed "did not find expected '-' indicator" token.start
        (some ("while parsing a block collection", start))

def readUnindentedEntry (reader : EventReader) : Answer := do
  let token ← reader.peek
  match token.kind with
  | .blockEntry =>
      reader.skip.readNodeUnless [.blockEntry, .key, .value, .blockEnd] .unindentedEntry token.stop
        true
  | _ => reader.back.event .sequenceEnd token.start

def readBlockKey (reader : EventReader) (start : Mark) : Answer := do
  let token ← reader.peek
  match token.kind with
  | .key =>
      reader.skip.readNodeUnless [.key, .value, .blockEnd] (.blockValue start) token.stop true true
  | .blockEnd => reader.skip.back.event .mappingEnd token.start
  | _ =>
      failed "did not find expected key" token.start (some ("while parsing a block mapping", start))

def readBlockValue (reader : EventReader) (start : Mark) : Answer := do
  let token ← reader.peek
  match token.kind with
  | .value =>
      reader.skip.readNodeUnless [.key, .value, .blockEnd] (.blockKey start) token.stop true true
  | _ => (reader.goTo (.blockKey start)).emptyNode token.start

/-- Reads the comma before an entry that is not the first one. -/
def readSeparator (reader : EventReader) (isFirst : Bool) (closing : TokenKind)
    (problem activity : String) (start : Mark) : Except Failure EventReader := do
  let token ← reader.peek
  if isFirst || token.kind == closing then return reader
  else if token.kind == .flowEntry then return reader.skip
  else failed problem token.start (some (activity, start))

def readFlowEntry (reader : EventReader) (start : Mark) (isFirst : Bool) : Answer := do
  let reader ← reader.readSeparator isFirst .flowSequenceEnd "did not find expected ',' or ']'"
    "while parsing a flow sequence" start
  let token ← reader.peek
  match token.kind with
  | .flowSequenceEnd => reader.skip.back.event .sequenceEnd token.start
  | .key => (reader.skip.goTo (.pairKey start)).event (.mappingStart none) token.start
  | _ => (reader.before (.flowEntry start false)).readNode false

/-- Reads the key of a pair in a flow sequence. If there is none, the next token is passed over. -/
def readPairKey (reader : EventReader) (start : Mark) : Answer := do
  let token ← reader.peek
  if [TokenKind.value, .flowEntry, .flowSequenceEnd].contains token.kind then
    (reader.skip.goTo (.pairValue start)).emptyNode token.stop
  else (reader.before (.pairValue start)).readNode false

def readPairValue (reader : EventReader) (start : Mark) : Answer := do
  let token ← reader.peek
  match token.kind with
  | .value => reader.skip.readFlowNode [.flowEntry, .flowSequenceEnd] (.pairEnd start)
  | _ => (reader.goTo (.pairEnd start)).emptyNode token.start

def readPairEnd (reader : EventReader) (start : Mark) : Answer := do
  let token ← reader.peek
  (reader.goTo (.flowEntry start false)).event .mappingEnd token.start

def readFlowKey (reader : EventReader) (start : Mark) (isFirst : Bool) : Answer := do
  let reader ← reader.readSeparator isFirst .flowMappingEnd "did not find expected ',' or '\x7d'"
    "while parsing a flow mapping" start
  let token ← reader.peek
  match token.kind with
  | .flowMappingEnd => reader.skip.back.event .mappingEnd token.start
  | .key => reader.skip.readFlowNode [.value, .flowEntry, .flowMappingEnd] (.flowValue start)
  | _ => (reader.before (.flowNoValue start)).readNode false

def readFlowValue (reader : EventReader) (start : Mark) : Answer := do
  let token ← reader.peek
  match token.kind with
  | .value => reader.skip.readFlowNode [.flowEntry, .flowMappingEnd] (.flowKey start false)
  | _ => (reader.goTo (.flowKey start false)).emptyNode token.start

def readFlowNoValue (reader : EventReader) (start : Mark) : Answer := do
  let token ← reader.peek
  (reader.goTo (.flowKey start false)).emptyNode token.start

/-! ## All events -/

/-- Reads the next event. -/
def step (reader : EventReader) : Answer :=
  match reader.stage with
  | .documentStart isImplicit => reader.readDocumentStart isImplicit
  | .documentContent => do
      let token ← reader.peek
      let isMissing := isDirective token.kind ||
        [TokenKind.documentStart, .documentEnd, .streamEnd].contains token.kind
      if isMissing then reader.back.emptyNode token.start else reader.readNode true
  | .documentEnd => reader.readDocumentEnd
  | .blockNode => reader.readNode true
  | .blockEntry start => reader.readBlockEntry start
  | .unindentedEntry => reader.readUnindentedEntry
  | .blockKey start => reader.readBlockKey start
  | .blockValue start => reader.readBlockValue start
  | .flowEntry start isFirst => reader.readFlowEntry start isFirst
  | .pairKey start => reader.readPairKey start
  | .pairValue start => reader.readPairValue start
  | .pairEnd start => reader.readPairEnd start
  | .flowKey start isFirst => reader.readFlowKey start isFirst
  | .flowValue start => reader.readFlowValue start
  | .flowNoValue start => reader.readFlowNoValue start

/-- Reads at most `limit` events, up to the end of the text or a failure. -/
def run (reader : EventReader) : Nat → List Event × Option Failure
  | 0 => ([], none)
  | limit + 1 =>
      match reader.step with
      | .error failure => ([], some failure)
      | .ok (event, after) =>
          if event.kind == .streamEnd then ([event], none)
          else
            let (events, failure) := after.run limit
            (event :: events, failure)

end EventReader

/-- The events of a text, up to a failure if there is one. Between two events that read a token there are
at most four that read none: the empty parts of a pair, its end and the end of a sequence. -/
def events (text : List Char) : List Event × Option Failure :=
  let stream := tokens text
  ({ tokens := stream.tokens, failure := stream.failure } : EventReader).run
    (5 * stream.tokens.length + 5)

end RepoSurvey.Yaml
