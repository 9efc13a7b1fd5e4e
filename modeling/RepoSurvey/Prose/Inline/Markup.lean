import RepoSurvey.Prose.Line

/-!
# Markup inside text

Tags, comments and other markup, and addresses in angle brackets.  Everything here is read after an
opening angle bracket, and the answer is how many characters belong to it.
-/

namespace RepoSurvey.Prose

/-- The length of a text up to the end of the first occurrence of `ending`. -/
def lengthThrough? (ending : List Char) : List Char → Option Nat
  | [] => none
  | character :: rest =>
      if ending.isPrefixOf (character :: rest) then some ending.length
      else (lengthThrough? ending rest).map (· + 1)

/-! ## Tags -/

def isNameStart (character : Char) : Bool :=
  character.isAlpha || character == '_' || character == ':'

def isNamePart (character : Char) : Bool :=
  character.isAlphanum || character == '_' || character == ':' || character == '.' ||
    character == '-'

def isBareValuePart (character : Char) : Bool :=
  !(isSpaceChar character || character == '"' || character == '\'' || character == '=' ||
    character == '<' || character == '>' || character == '`')

/-- The value of an attribute. -/
def valueLength? (text : List Char) : Option Nat :=
  match text with
  | [] => none
  | first :: rest =>
      if first == '"' || first == '\'' then (lengthThrough? [first] rest).map (· + 1)
      else
        let length := (text.takeWhile isBareValuePart).length
        if length == 0 then none else some length

/-- The name of an attribute, and its value if it has one. -/
def attributeLength? (text : List Char) : Option Nat :=
  match text with
  | [] => none
  | first :: rest =>
      if isNameStart first then
        let name := 1 + (rest.takeWhile isNamePart).length
        let before := ((text.drop name).takeWhile isSpaceChar).length
        if (text.drop (name + before)).head? == some '=' then
          let used := name + before + 1
          let after := ((text.drop used).takeWhile isSpaceChar).length
          (valueLength? (text.drop (used + after))).map (· + used + after)
        else some name
      else none

/-- What follows the name of an opening tag, up to its end. The fuel exceeds the number of
attributes. -/
def attributesLength? : Nat → List Char → Option Nat
  | 0, _ => none
  | fuel + 1, text =>
      let blanks := (text.takeWhile isSpaceChar).length
      match text.drop blanks with
      | [] => none
      | '>' :: _ => some (blanks + 1)
      | '/' :: '>' :: _ => some (blanks + 2)
      | inside =>
          if blanks == 0 then none
          else
            match attributeLength? inside with
            | none => none
            | some length =>
                (attributesLength? fuel (inside.drop length)).map (· + blanks + length)

/-- A tag, after its `<`. -/
def tagLength? (text : List Char) : Option Nat :=
  match text with
  | '/' :: rest =>
      let name := (rest.takeWhile fun c => c.isAlphanum || c == '-').length
      let blanks := ((rest.drop name).takeWhile isSpaceChar).length
      match rest.head? with
      | some first =>
          if first.isAlpha && (rest.drop (name + blanks)).head? == some '>' then
            some (name + blanks + 2)
          else none
      | none => none
  | first :: rest =>
      if first.isAlpha then
        let name := 1 + (rest.takeWhile fun c => c.isAlphanum || c == '-').length
        (attributesLength? (text.length + 1) (text.drop name)).map (· + name)
      else none
  | [] => none

/-- Whether a line holds a single tag and nothing else. -/
def isTagLine (line : Line) : Bool :=
  match line with
  | '<' :: inside =>
      match tagLength? (inside.takeWhile (· != '\n')) with
      | some length => isBlank (inside.drop length)
      | none => false
  | _ => false

/-! ## Other markup -/

/-- A comment, after `<!-`. -/
def commentLength? (text : List Char) : Option Nat :=
  match text with
  | '-' :: '>' :: _ => some 2
  | '-' :: '-' :: '>' :: _ => some 3
  | '-' :: rest => (lengthThrough? "-->".toList rest).map (· + 1)
  | _ => none

/-- A tag, a comment, a declaration or an instruction, after its `<`. -/
def markupLength? (text : List Char) : Option Nat :=
  match text with
  | '!' :: '-' :: rest => (commentLength? rest).map (· + 2)
  | '!' :: rest =>
      if "[CDATA[".toList.isPrefixOf rest then (lengthThrough? "]]>".toList rest).map (· + 1)
      else
        match rest.head? with
        | some first =>
            if first.isAlpha then (lengthThrough? ['>'] rest).map (· + 1) else none
        | none => none
  | '?' :: rest => (lengthThrough? "?>".toList rest).map (· + 1)
  | _ => tagLength? text

/-! ## Addresses -/

def isSchemePart (character : Char) : Bool :=
  character.isAlphanum || character == '.' || character == '-' || character == '+'

/-- An address with a scheme, up to its closing bracket. -/
def addressLength? (text : List Char) : Option Nat :=
  let scheme := (text.takeWhile isSchemePart).length
  match text.head? with
  | none => none
  | some first =>
      if first.isAlpha && 2 ≤ scheme && scheme ≤ 32 && (text.drop scheme).head? == some ':' then
        let rest := text.drop (scheme + 1)
        let path := (rest.takeWhile fun c => 0x20 < c.toNat && c != '<' && c != '>').length
        if (rest.drop path).head? == some '>' then some (scheme + 1 + path) else none
      else none

def isMailboxPart (character : Char) : Bool :=
  character.isAlphanum || ".!#$%&'*+/=?^_`\x7b|\x7d~-".toList.contains character

/-- Whether the parts of a domain are sound: not empty, not too long, no hyphen at an end. -/
def isDomain (domain : List Char) : Bool :=
  ((String.ofList domain).splitOn ".").all fun part =>
    let part := part.toList
    1 ≤ part.length && part.length ≤ 63 && part.head? != some '-' && part.getLast? != some '-'

/-- An address of a mailbox, up to its closing bracket. -/
def mailboxLength? (text : List Char) : Option Nat :=
  let name := (text.takeWhile isMailboxPart).length
  let rest := text.drop name
  if name == 0 || rest.head? != some '@' then none
  else
    let domain := rest.tail.takeWhile fun c => c.isAlphanum || c == '-' || c == '.'
    if isDomain domain && (rest.drop (domain.length + 1)).head? == some '>' then
      some (name + 1 + domain.length)
    else none

end RepoSurvey.Prose
