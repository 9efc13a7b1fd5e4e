import RepoSurvey.Yaml.Token

/-!
# Names in YAML: anchors, tags and directives

Anchors and aliases name nodes, tags name the kinds of nodes, and directives say which version of the
language is meant and what the handles of tags stand for.
-/

namespace RepoSurvey.Yaml

/-- Whether the name of an anchor may end before these characters. -/
def endsAnchor (characters : List Char) : Bool :=
  atWordEnd characters || startsWith "?:,]\x7d%@`".toList.contains characters

/-- Reads the name of an anchor or alias from behind the sign that opens it. -/
def anchorName (activity : String) (start : Mark) (cursor : Cursor) :
    Except Failure (String × Cursor) :=
  let (name, cursor) := cursor.span isNameCharacter
  if name.isEmpty || !endsAnchor cursor.rest then
    .error (cursor.failure "did not find expected alphabetic or numeric character" activity start)
  else .ok (String.ofList name, cursor)

/-- Whether a character may stand in the name of a tag, and in one in angle brackets or the start of
one. -/
def isTagCharacter (isUnrestricted : Bool) (character : Char) : Bool :=
  isNameCharacter character || ";/?:@&=+$.%!~*'()".toList.contains character ||
    (isUnrestricted && ",[]".toList.contains character)

/-- How many bytes the character has that starts with a byte. -/
def characterWidth? (byte : Nat) : Option Nat :=
  if byte < 0x80 then some 1
  else if byte < 0xC0 then none
  else if byte < 0xE0 then some 2
  else if byte < 0xF0 then some 3
  else if byte < 0xF8 then some 4
  else none

/-- The byte that is written here as a percent sign and two digits. -/
def escapedByte? : List Char → Option Nat
  | '%' :: high :: low :: _ => do return (← hexDigit? high) * 16 + (← hexDigit? low)
  | _ => none

/-- Reads the bytes of one character; `left` of them are still missing. Each of them is read as the
character with its number. -/
def escapedBytes (failed : Cursor → String → Failure) (isFirst : Bool) (cursor : Cursor) :
    Nat → Except Failure (List Char × Cursor)
  | 0 => .ok ([], cursor)
  | left + 1 =>
      match escapedByte? cursor.rest with
      | none => .error (failed cursor "did not find URI escaped octet")
      | some byte =>
          if !isFirst && byte / 64 != 2 then
            .error (failed cursor "found an incorrect trailing UTF-8 octet")
          else
            match escapedBytes failed false (cursor.along 3) left with
            | .error failure => .error failure
            | .ok (others, cursor) => .ok (Char.ofNat byte :: others, cursor)

/-- Reads a character that is written as bytes. -/
def escapedCharacter (failed : Cursor → String → Failure) (cursor : Cursor) :
    Except Failure (List Char × Cursor) :=
  match escapedByte? cursor.rest with
  | none => .error (failed cursor "did not find URI escaped octet")
  | some byte =>
      match characterWidth? byte with
      | none => .error (failed cursor "found an incorrect leading UTF-8 octet")
      | some width => escapedBytes failed true cursor width

/-- Reads the characters of the name of a tag. At most `limit` of them are read. -/
def tagCharacters (isUnrestricted : Bool) (failed : Cursor → String → Failure) :
    Nat → Cursor → Except Failure (List Char × Cursor)
  | 0, cursor => .ok ([], cursor)
  | limit + 1, cursor =>
      match cursor.rest with
      | [] => .ok ([], cursor)
      | character :: _ =>
          if !isTagCharacter isUnrestricted character then .ok ([], cursor)
          else do
            let (first, cursor) ←
              if character == '%' then escapedCharacter failed cursor
              else .ok ([character], cursor.along 1)
            let (others, cursor) ← tagCharacters isUnrestricted failed limit cursor
            return (first ++ others, cursor)

/-- Reads the name of a tag, or what is left of it behind `beginning`. A name ends before a NUL. -/
def tagText (isUnrestricted : Bool) (activity beginning : String) (start : Mark) (cursor : Cursor) :
    Except Failure (String × Cursor) := do
  let failed (cursor : Cursor) (problem : String) : Failure := cursor.failure problem activity start
  let (characters, after) ← tagCharacters isUnrestricted failed cursor.rest.length cursor
  if beginning.isEmpty && characters.isEmpty then
    throw (failed after "did not find expected tag URI")
  let whole := beginning.toList.drop 1 ++ characters
  return (String.ofList (whole.takeWhile (· != '\x00')), after)

/-- Reads an exclamation mark, a name behind it, and another exclamation mark if one follows. -/
def tagHandle (isDirective : Bool) (start : Mark) (cursor : Cursor) :
    Except Failure (String × Cursor) :=
  let expected := "did not find expected '!'"
  if !cursor.isAt '!' then
    let activity := if isDirective then "while scanning a tag directive" else "while scanning a tag"
    .error (cursor.failure expected activity start)
  else
    let (name, cursor) := (cursor.along 1).span isNameCharacter
    if cursor.isAt '!' then .ok (String.ofList ('!' :: name ++ ['!']), cursor.along 1)
    else if isDirective && !name.isEmpty then
      .error (cursor.failure expected "while parsing a tag directive" start)
    else .ok (String.ofList ('!' :: name), cursor)

/-- A name that does not start with a handle of its own. -/
def TagName.ofSuffix (suffix : String) : TagName :=
  if suffix.isEmpty then ⟨"", "!"⟩ else ⟨"!", suffix⟩

/-- Reads a tag. The cursor is at its exclamation mark. -/
def tagName (inFlow : Bool) (cursor : Cursor) : Except Failure (TagName × Cursor) := do
  let start := cursor.mark
  let read : Except Failure (TagName × Cursor) := do
    if startsWith (· == '<') (cursor.rest.drop 1) then
      let (suffix, cursor) ← tagText true "while parsing a tag" "" start (cursor.along 2)
      if cursor.isAt '>' then return (⟨"", suffix⟩, cursor.along 1)
      throw (cursor.failure "did not find the expected '>'" "while scanning a tag" start)
    let (handle, cursor) ← tagHandle false start cursor
    if handle.length != 1 && handle.endsWith "!" then
      let (suffix, cursor) ← tagText false "while parsing a tag" "" start cursor
      return (⟨handle, suffix⟩, cursor)
    let (suffix, cursor) ← tagText false "while parsing a tag" handle start cursor
    return (.ofSuffix suffix, cursor)
  let (name, cursor) ← read
  if atWordEnd cursor.rest || (inFlow && cursor.isAt ',') then return (name, cursor)
  throw (cursor.failure "did not find expected whitespace or line break" "while scanning a tag" start)

/-- Reads one of the two numbers of a version. -/
def versionNumber (start : Mark) (cursor : Cursor) : Except Failure (Nat × Cursor) :=
  let activity := "while scanning a %YAML directive"
  let (digits, behind) := cursor.span Char.isDigit
  if 9 < digits.length then
    .error ((cursor.along 9).failure "found extremely long version number" activity start)
  else if digits.isEmpty then
    .error (cursor.failure "did not find expected version number" activity start)
  else .ok (digits.foldl (fun value digit => value * 10 + (digit.toNat - '0'.toNat)) 0, behind)

def versionDirective (start : Mark) (cursor : Cursor) : Except Failure (TokenKind × Cursor) := do
  let (major, cursor) ← versionNumber start (cursor.skipWhile isBlank)
  unless cursor.isAt '.' do
    throw (cursor.failure "did not find expected digit or '.' character"
      "while scanning a %YAML directive" start)
  let (minor, cursor) ← versionNumber start (cursor.along 1)
  return (.version major minor, cursor)

def handleDirective (start : Mark) (cursor : Cursor) : Except Failure (TokenKind × Cursor) := do
  let (handle, cursor) ← tagHandle true start (cursor.skipWhile isBlank)
  unless startsWith isBlank cursor.rest do
    throw (cursor.failure "did not find expected whitespace" "while scanning a %TAG directive" start)
  let (beginning, cursor) ←
    tagText true "while parsing a %TAG directive" "" start (cursor.skipWhile isBlank)
  unless atWordEnd cursor.rest do
    throw (cursor.failure "did not find expected whitespace or line break"
      "while scanning a %TAG directive" start)
  return (.handle handle beginning, cursor)

/-- Reads a directive and the rest of its line. The cursor is at its percent sign. The second result
is where the directive ends. -/
def directive (cursor : Cursor) : Except Failure (TokenKind × Mark × Cursor) := do
  let start := cursor.mark
  let activity := "while scanning a directive"
  let (name, cursor) := (cursor.along 1).span isNameCharacter
  if name.isEmpty then
    throw (cursor.failure "could not find expected directive name" activity start)
  unless atWordEnd cursor.rest do
    throw (cursor.failure "found unexpected non-alphabetical character" activity start)
  let (kind, cursor) ←
    if name == "YAML".toList then versionDirective start cursor
    else if name == "TAG".toList then handleDirective start cursor
    else .error (cursor.failure "found unknown directive name" activity start)
  return (kind, cursor.mark, ← cursor.endLine activity start)

end RepoSurvey.Yaml
