import RepoSurvey.Prose.Characters
import RepoSurvey.Text.Punctuation
import RepoSurvey.Text.Trim

/-!
# Tokens of text

The text of a paragraph is cut into plain pieces and marks.  What a mark means depends on others and
is decided later.
-/

namespace RepoSurvey.Prose

inductive TokenKind
  /-- Characters as they stand in the source. -/
  | text
  /-- Characters that a reference stands for. -/
  | value (text : String)
  /-- Marks of emphasis. -/
  | emphasis (mark : Char) (length : Nat) (canOpen canClose : Bool)
  /-- A run of backticks, perhaps after a backslash. -/
  | backticks (length : Nat) (isEscaped : Bool)
  | angle
  | openBracket (isImage : Bool)
  | closeBracket
  | softBreak
  | hardBreak
  deriving BEq, DecidableEq, Repr

/-- A token, where it starts, and the text from there on. -/
structure Token where
  kind : TokenKind
  start : Nat
  length : Nat
  source : List Char

def Token.stop (token : Token) : Nat := token.start + token.length

/-- The text after a token. -/
def Token.after (token : Token) : List Char := token.source.drop token.length

/-- The characters of a token. -/
def Token.text (token : Token) : String := String.ofList (token.source.take token.length)

def isPunctuation (character : Char) : Bool :=
  isPunctuationChar character || CharSet.widePunctuation.contains character

/-- Whether marks of emphasis may open, given the characters around the run. -/
def canOpen (mark : Char) (length : Nat) (before after : Option Char) : Bool :=
  match after with
  | none => false
  | some after =>
      if isWhiteSpace after then false
      else
        match before with
        | none => true
        | some before =>
            (mark == '*' && !isPunctuation after) || (mark == '~' && 1 < length) ||
              isWhiteSpace before || isPunctuation before

/-- Whether marks of emphasis may close. -/
def canClose (mark : Char) (length : Nat) (before after : Option Char) : Bool :=
  match before with
  | none => false
  | some before =>
      if isWhiteSpace before then false
      else
        match after with
        | none => true
        | some after =>
            ((mark == '*' || (mark == '~' && 1 < length)) && !isPunctuation before) ||
              isWhiteSpace after || isPunctuation after

/-- A reader of tokens. A plain piece is open from `pending` on; the tokens are in reverse. -/
structure Tokenizer where
  tokens : List Token := []
  pendingStart : Nat := 0
  pending : List Char := []

namespace Tokenizer

/-- Ends the open piece before `position`. -/
def flush (tokenizer : Tokenizer) (position : Nat) : Tokenizer :=
  if tokenizer.pendingStart < position then
    { tokenizer with tokens :=
        ⟨.text, tokenizer.pendingStart, position - tokenizer.pendingStart, tokenizer.pending⟩ ::
          tokenizer.tokens }
  else tokenizer

/-- Adds a token at `start`, where the text goes on with `source`. The open piece ends at
`position`. -/
def mark (tokenizer : Tokenizer) (position : Nat) (kind : TokenKind) (start length : Nat)
    (source : List Char) : Tokenizer :=
  let flushed := tokenizer.flush position
  ⟨⟨kind, start, length, source⟩ :: flushed.tokens, start + length, source.drop length⟩

/-- The open piece starts again at `position`. -/
def restart (tokenizer : Tokenizer) (position : Nat) (source : List Char) : Tokenizer :=
  { tokenizer with pendingStart := position, pending := source }

end Tokenizer

/-- How many characters at the end of a reversed text satisfy a test. -/
def trailing (test : Char → Bool) (reversed : List Char) : Nat := (reversed.takeWhile test).length

/-- Reads the character at `position`. The answer is how many more characters have been dealt
with. `passed` is the text before it, in reverse. -/
def tokenizeAt (tokenizer : Tokenizer) (position : Nat) (passed : List Char) (character : Char)
    (rest : List Char) : Nat × Tokenizer :=
  let source := character :: rest
  match character with
  | '\n' =>
      let blanks := trailing isBlankChar passed
      let backslashes := trailing (· == '\\') passed
      let indent := (rest.takeWhile isBlankChar).length
      let goOn (kind : TokenKind) (dropped : Nat) : Nat × Tokenizer :=
        let marked := tokenizer.mark (position - dropped) kind position 1 source
        (indent, marked.restart (position + 1 + indent) (rest.drop indent))
      if backslashes % 2 == 1 then goOn .hardBreak 1
      else if 2 ≤ blanks then goOn .hardBreak blanks
      else goOn .softBreak blanks
  | '\\' =>
      match rest with
      | next :: others =>
          if !isPunctuationChar next then (0, tokenizer)
          else if next == '`' then
            let length := runLength '`' rest
            (length, tokenizer.mark position (.backticks length true) (position + 1) length rest)
          else (1, (tokenizer.flush position).restart (position + 1) (next :: others))
      | [] => (0, tokenizer)
  | '`' =>
      let length := runLength '`' source
      (length - 1, tokenizer.mark position (.backticks length false) position length source)
  | '<' =>
      if rest.head? == some '\\' then (0, tokenizer)
      else (0, tokenizer.mark position .angle position 1 source)
  | '!' =>
      if rest.head? == some '[' then
        (1, tokenizer.mark position (.openBracket true) position 2 source)
      else (0, tokenizer)
  | '[' => (0, tokenizer.mark position (.openBracket false) position 1 source)
  | ']' => (0, tokenizer.mark position .closeBracket position 1 source)
  | '&' =>
      match reference? rest with
      | some (value, length) =>
          (length - 1, tokenizer.mark position (.value value) position length source)
      | none => (0, tokenizer)
  | _ =>
      if character == '*' || character == '_' || character == '~' then
        let length := runLength character source
        let after := (source.drop length).head?
        let opens := canOpen character length passed.head? after
        let closes := canClose character length passed.head? after
        if (opens || closes) && (character != '~' || length ≤ 2) then
          (length - 1, tokenizer.mark position (.emphasis character length opens closes) position
            length source)
        else (length - 1, tokenizer)
      else (0, tokenizer)

/-- Reads the rest of a text, of which `skip` characters have been dealt with. -/
def tokenizeFrom (tokenizer : Tokenizer) (skip position : Nat) (passed : List Char) :
    List Char → Tokenizer
  | [] =>
      let stop := position - trailing isBlankChar passed
      tokenizer.flush (max stop tokenizer.pendingStart)
  | character :: rest =>
      match skip with
      | skip + 1 => tokenizeFrom tokenizer skip (position + 1) (character :: passed) rest
      | 0 =>
          let (skip, next) := tokenizeAt tokenizer position passed character rest
          tokenizeFrom next skip (position + 1) (character :: passed) rest

/-- The tokens of the text of a paragraph. -/
def tokenize (text : String) : List Token :=
  let source := text.toList
  (tokenizeFrom { pending := source } 0 0 [] source).tokens.reverse

end RepoSurvey.Prose
