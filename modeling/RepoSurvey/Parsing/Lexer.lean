import RepoSurvey.Parsing.Stack

/-!
# Reading tokens

A token is read by the hand-written recogniser of a language, if the state of the parser expects
one of its tokens, and otherwise by the lexer of that state.  Input that is no token anywhere is
skipped up to the next token.
-/

namespace RepoSurvey.Parsing

open Grammar

/-- What a recogniser found: which of its tokens, where the token starts and ends, and what it
remembers afterwards. -/
structure ScannedToken where
  kind : Nat
  start : Cursor
  stop : Cursor
  state : ScannerState := []

/-- A hand-written recogniser: given its memory, the tokens that are expected and a place, it may
find a token. -/
abbrev Scanner := ScannerState → Array Bool → Source → Cursor → Option ScannedToken

/-- A language that can be parsed. -/
structure Language where
  table : ParseTable
  scanner : Scanner := fun _ _ _ _ => none

/-- How far a lexer came. -/
structure LexRun where
  start : Cursor
  current : Cursor
  /-- The last token completed, and where it ends. -/
  found : Option (Nat × Cursor) := none

/-- Runs a lexer from one of its states. The fuel exceeds the number of characters left. -/
def runLexer (lexer : LexTable) (source : Source) : Nat → Nat → LexRun → LexRun
  | 0, _, progress => progress
  | fuel + 1, number, progress =>
      let state := lexer.states[number]!
      let progress := match state.accepts with
        | some token => { progress with found := some (token.getD 0, progress.current) }
        | none => progress
      match source.peek progress.current with
      | none =>
          match state.atEnd with
          | some target => runLexer lexer source fuel target progress
          | none => progress
      | some character =>
          match state.moves[lexer.classes.ofCode character.toNat]! with
          | none => progress
          | some move =>
              let current := source.advance progress.current
              let start := if move.isSeparator then current else progress.start
              runLexer lexer source fuel move.target { progress with start, current }

/-- Runs a lexer at a place. A byte order mark at the very start of the text is passed over. -/
def runLexerAt (lexer : LexTable) (source : Source) (number : Nat) (cursor : Cursor) : LexRun :=
  let isMark := cursor.index == 0 && source.peek cursor == some '\uFEFF'
  let cursor := if isMark then source.advance cursor else cursor
  runLexer lexer source (source.size + 3 - cursor.index) number
    { start := cursor, current := cursor }

/-- A place from which a recogniser starts; a byte order mark at the start is passed over. -/
def Source.afterMark (source : Source) (cursor : Cursor) : Cursor :=
  if cursor.index == 0 && source.peek cursor == some '\uFEFF' then source.advance cursor else cursor

/-- Input that was skipped because no token starts there. -/
structure SkippedInput where
  start : Cursor
  stop : Cursor

/-- What has been found at a place: a token of the recogniser, or one of the lexer. -/
inductive FoundToken
  | scanned (symbol : Nat) (token : ScannedToken) (stateChanged : Bool)
  | lexed (symbol : Nat) (start stop : Cursor)
  | endOfInput

namespace Language

/-- Asks the recogniser. Empty tokens that would not change anything are refused. -/
def scanAt (language : Language) (stack : Stack) (index parseState : Nat)
    (expected : Array Bool) (inErrorMode : Bool) (source : Source) (cursor : Cursor) :
    Option FoundToken :=
  let memory := (stack.version index).scannerState
  match language.scanner memory expected source (source.afterMark cursor) with
  | none => none
  | some token =>
      let symbol := language.table.externalSymbols[token.kind]!
      let stateChanged := token.state != memory
      let isEmpty := token.stop.place.bytes ≤ cursor.place.bytes && !stateChanged
      let isExtra := language.table.next parseState symbol == parseState
      if isEmpty && (inErrorMode || !stack.hasAdvancedSinceError index || isExtra) then none
      else some (.scanned symbol token stateChanged)

/-- The token at a place, after input that had to be skipped. The fuel exceeds twice the number of
characters left. -/
def findToken (language : Language) (stack : Stack) (index parseState : Nat) (source : Source)
    (start : Cursor) : Nat → Nat → Cursor → Option SkippedInput →
    FoundToken × Option SkippedInput
  | 0, _, _, skipped => (.endOfInput, skipped)
  | fuel + 1, mode, cursor, skipped =>
      let inErrorMode := mode == errorState
      let scanned := match language.table.externalSets[mode]! with
        | none => none
        | some expected =>
            language.scanAt stack index parseState expected inErrorMode source cursor
      match scanned with
      | some token => (token, skipped)
      | none =>
          let progress :=
            runLexerAt language.table.lexer source language.table.lexStart[mode]! cursor
          match progress.found with
          | some (symbol, stop) =>
              -- A token that ends before the separators after it has no room of its own.
              let first := if stop.index < progress.start.index then stop else progress.start
              (.lexed symbol first stop, skipped)
          | none =>
              if !inErrorMode then
                findToken language stack index parseState source start fuel errorState start skipped
              else
                let skipped := skipped.getD ⟨progress.start, progress.start⟩
                let current := progress.current
                if current.index == skipped.stop.index then
                  if source.atEnd current then (.endOfInput, some skipped)
                  else
                    let moved := source.advance current
                    findToken language stack index parseState source start fuel mode moved
                      (some { skipped with stop := moved })
                else
                  findToken language stack index parseState source start fuel mode current
                    (some { skipped with stop := current })

/-- The cursor of a place at which the parser has arrived. -/
def cursorAt (offsets : Array Nat) (place : Extent) : Cursor :=
  ⟨offsets[place.bytes]!, place⟩

/-- Reads the next token of a version as a leaf. -/
def readToken (language : Language) (stack : Stack) (index parseState : Nat) (source : Source)
    (offsets : Array Nat) : Subtree :=
  let table := language.table
  let start := cursorAt offsets (stack.place index)
  let fuel := 2 * (source.size - start.index) + 4
  let (found, skipped) :=
    language.findToken stack index parseState source start fuel parseState start none
  let leaf (symbol : Nat) (first stop : Cursor) : SubtreeHead :=
    let isVisible := (table.symbol symbol).isVisible
    { symbol
      isVisible
      isExtra := symbol == 0
      padding := first.place.sub start.place
      size := stop.place.sub first.place
      parseState }
  match skipped, found with
  | some skipped, _ => .node (leaf errorSymbol skipped.start skipped.stop) #[]
  | none, .scanned symbol token stateChanged =>
      .node { leaf symbol token.start token.stop with
        scannerState := some token.state
        scannerStateChanged := stateChanged } #[]
  | none, .lexed symbol first stop =>
      if table.word == some symbol then
        let run := runLexer table.keywordLexer source (source.size + 3 - first.index) 0
          { start := first, current := first }
        match run.found with
        | some (keyword, keywordStop) =>
            let isUsed := keywordStop.index == stop.index &&
              !(table.actions parseState keyword).isEmpty
            .node { leaf (if isUsed then keyword else symbol) first stop with isKeyword := true } #[]
        | none => .node (leaf symbol first stop) #[]
      else .node (leaf symbol first stop) #[]
  | none, .endOfInput => .node (leaf 0 start start) #[]

end Language

end RepoSurvey.Parsing
