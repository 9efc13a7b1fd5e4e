import RepoSurvey.Json.Value

/-!
# Documents with their places

The result of reading a text: values with the places where they start and end.  Reading never fails;
a fault stands in the tree at the place where it was found, so that whoever walks the tree in order
meets it at the right moment.
-/

namespace RepoSurvey.Json

/-- A place in a text: the line, counted from one, and how many bytes of the line come before. -/
structure Spot where
  line : Nat := 1
  column : Nat := 0
  deriving BEq, DecidableEq, Inhabited, Repr

namespace Spot

/-- The place after a character. -/
def after (spot : Spot) (character : Char) : Spot :=
  if character == '\n' then ⟨spot.line + 1, 0⟩
  else ⟨spot.line, spot.column + character.utf8Size⟩

/-- The place after the first byte of a character. -/
def into (spot : Spot) (character : Char) : Spot :=
  if character == '\n' then ⟨spot.line + 1, 0⟩ else ⟨spot.line, spot.column + 1⟩

end Spot

/-- What can be wrong with a text. -/
inductive Fault
  | endInList
  | endInObject
  | endInString
  | endInValue
  | noColon
  | noCommaInList
  | noCommaInObject
  | noWord
  | noValue
  | badEscape
  | badNumber
  | numberTooLarge
  | controlCharacter
  | keyNotText
  | loneSurrogate
  | unfinishedEscape
  | commaAtEnd
  | textAfterEnd
  /-- A text holds bytes that stand for no characters. -/
  | badText
  /-- The text is a document, but not the one that was asked for. -/
  | mismatch (message : String)
  deriving BEq, DecidableEq, Repr

def Fault.message : Fault → String
  | endInList => "EOF while parsing a list"
  | endInObject => "EOF while parsing an object"
  | endInString => "EOF while parsing a string"
  | endInValue => "EOF while parsing a value"
  | noColon => "expected `:`"
  | noCommaInList => "expected `,` or `]`"
  | noCommaInObject => "expected `,` or `\x7d`"
  | noWord => "expected ident"
  | noValue => "expected value"
  | badEscape => "invalid escape"
  | badNumber => "invalid number"
  | numberTooLarge => "number out of range"
  | controlCharacter => "control character (\\u0000-\\u001F) found while parsing a string"
  | keyNotText => "key must be a string"
  | loneSurrogate => "lone leading surrogate in hex escape"
  | unfinishedEscape => "unexpected end of hex escape"
  | commaAtEnd => "trailing comma"
  | textAfterEnd => "trailing characters"
  | badText => "invalid unicode code point"
  | mismatch message => message

structure ReadError where
  fault : Fault
  spot : Spot
  deriving BEq, DecidableEq, Repr

def ReadError.message (error : ReadError) : String :=
  error.fault.message ++ s!" at line {error.spot.line} column {error.spot.column}"

/-- A value without parts. Texts and numbers may turn out to be unreadable. -/
inductive Leaf
  | null
  | bool (value : Bool)
  | number (value : Except ReadError Number)
  | string (value : Except ReadError String)

/-- How a container ends: at the place after its bracket, or with a fault. -/
inductive Ending
  | closed (stop : Spot)
  | broken (error : ReadError)

/-- A key of an object, and where the colon after it stands. -/
structure LocatedKey where
  text : Except ReadError String
  stop : Spot
  colon : Spot

inductive Located
  | leaf (content : Leaf) (start stop : Spot)
  | array (start : Spot) (items : List Located) (ending : Ending)
  /-- The last key may lack its value if the object is broken. -/
  | object (start : Spot) (members : List (LocatedKey × Option Located)) (ending : Ending)

/-- A text that was read: its first value, if it has one, and the fault before or after it. -/
structure LocatedDocument where
  root : Option Located
  error : Option ReadError

namespace Leaf

def value : Leaf → Except ReadError Value
  | null => .ok .null
  | bool value => .ok (.bool value)
  | number value => value.map .number
  | string value => value.map .string

end Leaf

namespace Located

mutual

/-- The value at a place, or the first fault in it. -/
def value : Located → Except ReadError Value
  | leaf content _ _ => content.value
  | array _ items ending =>
      match values items with
      | .error error => .error error
      | .ok values =>
          match ending with
          | .closed _ => .ok (.array values)
          | .broken error => .error error
  | object _ members ending =>
      match valuesOfMembers members with
      | .error error => .error error
      | .ok values =>
          match ending with
          | .closed _ => .ok (.ofMembers values)
          | .broken error => .error error

def values : List Located → Except ReadError (List Value)
  | [] => .ok []
  | item :: rest =>
      match item.value with
      | .error error => .error error
      | .ok first =>
          match values rest with
          | .error error => .error error
          | .ok others => .ok (first :: others)

def valuesOfMembers : List (LocatedKey × Option Located) → Except ReadError (List (String × Value))
  | [] => .ok []
  | (key, item) :: rest =>
      match key.text with
      | .error error => .error error
      | .ok text =>
          match item with
          | none => .ok []
          | some item =>
              match item.value with
              | .error error => .error error
              | .ok first =>
                  match valuesOfMembers rest with
                  | .error error => .error error
                  | .ok others => .ok ((text, first) :: others)

end

end Located

/-- The value of a whole text. -/
def LocatedDocument.value (document : LocatedDocument) : Except ReadError Value :=
  match document.root with
  | none => .error (document.error.getD ⟨.endInValue, {}⟩)
  | some root =>
      match root.value with
      | .error error => .error error
      | .ok value =>
          match document.error with
          | some error => .error error
          | none => .ok value

end RepoSurvey.Json
