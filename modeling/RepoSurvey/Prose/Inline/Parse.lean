import RepoSurvey.Prose.Inline.Emphasis
import RepoSurvey.Prose.Inline.Markup
import RepoSurvey.Prose.Inline.Token
import RepoSurvey.Prose.Links

/-!
# From tokens to rich text

Code, markup and links are found first, from left to right; emphasis is decided afterwards, within
links and around them.
-/

namespace RepoSurvey.Prose

/-- What labels stand for. The names are folded. -/
structure References where
  definitions : List (String × Definition) := []
  footnotes : List String := []

namespace References

/-- Adds a definition unless the label has one. -/
def define (references : References) (name : String) (definition : Definition) : References :=
  let key := foldCase name
  if (references.definitions.lookup key).isSome then references
  else { references with definitions := references.definitions ++ [(key, definition)] }

def definition? (references : References) (name : String) : Option Definition :=
  references.definitions.lookup (foldCase name)

def addFootnote (references : References) (name : String) : References :=
  { references with footnotes := foldCase name :: references.footnotes }

def hasFootnote (references : References) (name : String) : Bool :=
  references.footnotes.contains (foldCase name)

end References

/-- A bracket that may start a link. -/
structure Bracket where
  token : Token
  isImage : Bool
  /-- A link inside has made it impossible that this is one. -/
  isDisabled : Bool := false
  /-- What came after the bracket, in reverse. -/
  content : List Piece := []

/-- A finder of links. -/
structure LinkFinder where
  /-- The open brackets, the last first. -/
  brackets : List Bracket := []
  content : List Piece := []
  /-- Where closing brackets stand that are known to end no label. -/
  barren : List Nat := []

namespace LinkFinder

def addAll (finder : LinkFinder) (pieces : List Piece) : LinkFinder :=
  match finder.brackets with
  | [] => { finder with content := pieces ++ finder.content }
  | bracket :: rest =>
      { finder with brackets := { bracket with content := pieces ++ bracket.content } :: rest }

def add (finder : LinkFinder) (node : Inline) : LinkFinder := finder.addAll [.node node]

def disableLinks (finder : LinkFinder) : LinkFinder :=
  { finder with brackets := finder.brackets.map fun bracket =>
      { bracket with isDisabled := bracket.isDisabled || !bracket.isImage } }

/-- A bracket as ordinary text, with what came after it. -/
def flat (bracket : Bracket) : List Piece := bracket.content ++ [.node (.text bracket.token.text)]

/-- Makes all open brackets ordinary text. -/
def flatten (finder : LinkFinder) : LinkFinder :=
  { finder with
    brackets := []
    content := finder.brackets.flatMap flat ++ finder.content }

/-- Adds a link or an image that starts with `bracket`. -/
def addLink (finder : LinkFinder) (bracket : Bracket) (target : Target) : LinkFinder :=
  let content := emphasize bracket.content.reverse
  if bracket.isImage then finder.add (.image target content)
  else (finder.add (.link target content)).disableLinks

end LinkFinder

/-- The tokens after a position. A token that goes over it loses its start. -/
def tokensFrom (position : Nat) : List Token → List Token
  | [] => []
  | token :: rest =>
      if token.stop ≤ position then tokensFrom position rest
      else if token.start < position then
        let passed := position - token.start
        { token with
          start := position, length := token.length - passed
          source := token.source.drop passed } :: rest
      else token :: rest

/-- The content of code: line breaks are blanks, and one blank at either end does not count. -/
def codeText (source : List Char) : String :=
  let text := source.map fun c => if c == '\n' then ' ' else c
  if text.head? == some ' ' && text.getLast? == some ' ' && !text.all (· == ' ') then
    String.ofList text.tail.dropLast
  else String.ofList text

/-- The next run of backticks of this length, and the tokens after it. -/
def closingBackticks (length : Nat) : List Token → Option (Token × List Token)
  | [] => none
  | token :: rest =>
      match token.kind with
      | .backticks found _ =>
          if found == length then some (token, rest) else closingBackticks length rest
      | _ => closingBackticks length rest

/-- What to do at a closing bracket. -/
inductive Closing
  /-- A link; the text goes on at `stop`. -/
  | link (target : Target) (stop : Nat)
  | footnote (name : String)
  /-- No link. If a label followed, the bracket at `barren` ends none. -/
  | nothing (barren : Option Nat)

/-- Decides what a closing bracket means. -/
def closing (references : References) (barren : List Nat) (bracket : Bracket) (token : Token) :
    Closing :=
  match inlineTarget? token.after with
  | some (destination, title, length) => .link ⟨destination, title, false⟩ (token.stop + length)
  | none =>
      let start := bracket.token.stop - 1
      let source := bracket.token.source.drop (bracket.token.length - 1)
      -- The label between the brackets themselves.
      let own := (bracketedLabel? source).filter fun (_, length) => start + length == token.stop
      let viaOwn (stop : Nat) (lost : Option Nat) : Closing :=
        if barren.contains token.start then .nothing lost
        else
          match own with
          | some (.footnote name, _) =>
              if references.hasFootnote name then .footnote name else .nothing lost
          | some (.link name, _) =>
              match references.definition? name with
              | some found => .link ⟨found.destination, found.title, false⟩ stop
              | none => .nothing lost
          | none => .nothing lost
      match token.after with
      | '[' :: ']' :: _ => viaOwn (token.stop + 2) none
      | after =>
          match bracketedLabel? after with
          | some (.link name, length) =>
              let last := token.stop + length - 1
              match references.definition? name with
              | some found =>
                  .link ⟨found.destination, found.title, false⟩ (token.stop + length)
              | none => .nothing (some last)
          | _ => viaOwn token.stop none

/-- Reads one token; the answer is the tokens that are left. -/
def readToken (references : References) (finder : LinkFinder) (token : Token)
    (rest : List Token) : LinkFinder × List Token :=
  match token.kind with
  | .text => (finder.add (.text token.text), rest)
  | .value text => (finder.add (.text text), rest)
  | .softBreak => (finder.add .softBreak, rest)
  | .hardBreak => (finder.add .hardBreak, rest)
  | .emphasis mark length canOpen canClose =>
      (finder.addAll [.marks mark length canOpen canClose], rest)
  | .backticks length isEscaped =>
      let needed := if isEscaped then length - 1 else length
      match if needed == 0 then none else closingBackticks needed rest with
      | none => (finder.add (.text token.text), rest)
      | some (closer, after) =>
          let source := token.after.take (closer.start - token.stop)
          let escaped := if isEscaped then finder.add (.text "`") else finder
          (escaped.add (.code (codeText source)), after)
  | .angle =>
      let text := token.after
      let address (length : Nat) (isMailbox : Bool) : LinkFinder × List Token :=
        let content := String.ofList (text.take length)
        (finder.add (.link ⟨content, "", isMailbox⟩ [.text content]),
          tokensFrom (token.stop + length + 1) rest)
      match addressLength? text, mailboxLength? text, markupLength? text with
      | some length, _, _ => address length false
      | none, some length, _ => address length true
      | none, none, some length =>
          (finder.add (.markup (String.ofList ('<' :: text.take length))),
            tokensFrom (token.stop + length) rest)
      | none, none, none => (finder.add (.text "<"), rest)
  | .openBracket isImage =>
      ({ finder with brackets := ⟨token, isImage, false, []⟩ :: finder.brackets }, rest)
  | .closeBracket =>
      match finder.brackets with
      | [] => (finder.add (.text "]"), rest)
      | bracket :: outer =>
          let popped : LinkFinder := { finder with brackets := outer }
          let plain := (popped.addAll (LinkFinder.flat bracket)).add (.text "]")
          if bracket.isDisabled then (plain, rest)
          else
            match closing references finder.barren bracket token with
            | .link target stop => (popped.addLink bracket target, tokensFrom stop rest)
            | .footnote name =>
                let marked := if bracket.isImage then popped.add (.text "!") else popped
                ((marked.add (.footnote name)).flatten, rest)
            | .nothing none => (plain, rest)
            | .nothing (some lost) => ({ plain with barren := lost :: plain.barren }, rest)

/-- Reads all tokens. The fuel exceeds their number. -/
def readTokens (references : References) : Nat → LinkFinder → List Token → LinkFinder
  | _, finder, [] => finder
  | 0, finder, _ => finder
  | fuel + 1, finder, token :: rest =>
      let (finder, rest) := readToken references finder token rest
      readTokens references fuel finder rest

/-- The rich text that a source stands for. -/
def richText (references : References) (source : String) : List Inline :=
  let tokens := tokenize source
  let finder := (readTokens references (tokens.length + 1) {} tokens).flatten
  emphasize finder.content.reverse

end RepoSurvey.Prose
