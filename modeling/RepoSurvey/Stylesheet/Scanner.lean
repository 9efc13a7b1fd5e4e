import RepoSurvey.Parsing.Lexer

/-!
# Tokens of stylesheets that need looking ahead

White space between two selectors means a descendant, and a colon opens a pseudo-class rather than
a value if a block follows before the end of the declaration.
-/

namespace RepoSurvey.Stylesheet

open Parsing

def isBlank (character : Char) : Bool :=
  character == ' ' || ('\t' ≤ character && character ≤ '\r')

/-- Whether a block opens before the end of the declaration. -/
def blockFollows (source : Source) : Nat → Cursor → Bool
  | 0, _ => false
  | fuel + 1, cursor =>
      match source.peek cursor with
      | none => false
      | some character =>
          if character == ';' || character == '}' then false
          else if character == '{' then true
          else blockFollows source fuel (source.advance cursor)

/-- The token for a descendant: no text of its own, after white space and before a selector. -/
def scanDescendant (source : Source) (cursor : Cursor) : Option ScannedToken :=
  let stop := source.skipWhile isBlank cursor
  let token : ScannedToken := { kind := 0, start := stop, stop }
  match source.peek stop with
  | none => none
  | some character =>
      if character.isAlphanum || "#.[-*&".contains character then some token
      else if character == ':' then
        let after := source.advance stop
        match source.peek after with
        | none => none
        | some next =>
            if !isBlank next && blockFollows source source.size after then some token else none
      else none

/-- The colon of a pseudo-class. -/
def scanColon (source : Source) (cursor : Cursor) : Option ScannedToken :=
  let start := source.skipWhile isBlank cursor
  if source.peek start == some ':' then
    let stop := source.advance start
    match source.peek stop with
    | none => none
    | some next =>
        if next == ':' || next == ';' || next == '}' then none
        else if blockFollows source source.size (source.advance stop) then
          some { kind := 1, start, stop }
        else none
  else none

def scanner : Scanner := fun _ expected source cursor =>
  if expected[2]! then none
  else
    let isSpaced := (source.peek cursor).elim false isBlank
    let descendant :=
      if isSpaced && expected[0]! then scanDescendant source cursor else none
    match descendant with
    | some token => some token
    | none =>
        let isColonAfterSpace := isSpaced && expected[0]! &&
          source.peek (source.skipWhile isBlank cursor) == some ':'
        if expected[1]! && !isColonAfterSpace then scanColon source cursor else none

end RepoSurvey.Stylesheet
