import RepoSurvey.Json.Reader
import RepoSurvey.Text.Decoding

/-!
# Documents in bytes

Bytes need not be a text.  Where they are not, only the texts of the document that hold them are
unreadable.
-/

namespace RepoSurvey.Json

def withoutCharacter (character : Char) (text : Except ReadError String) : Except ReadError String :=
  match text with
  | .error error => .error error
  | .ok text =>
      if text.contains character then .error ⟨.badText, {}⟩ else .ok text

namespace Located

mutual

/-- Makes the texts that hold a character unreadable. -/
def without (character : Char) : Located → Located
  | leaf (.string text) start stop => leaf (.string (withoutCharacter character text)) start stop
  | leaf content start stop => leaf content start stop
  | array start items ending => array start (itemsWithout character items) ending
  | object start members ending => object start (membersWithout character members) ending

def itemsWithout (character : Char) : List Located → List Located
  | [] => []
  | item :: rest => item.without character :: itemsWithout character rest

def membersWithout (character : Char) :
    List (LocatedKey × Option Located) → List (LocatedKey × Option Located)
  | [] => []
  | (key, member) :: rest =>
      let key := { key with text := withoutCharacter character key.text }
      match member with
      | none => (key, none) :: membersWithout character rest
      | some member => (key, some (member.without character)) :: membersWithout character rest

end

end Located

/-- A character that a text does not hold. -/
def missingCharacter (text : String) : Char :=
  let candidates := (List.range (text.length + 1)).map fun number => Char.ofNat (0xF0000 + number)
  (candidates.find? (!text.contains ·)).getD replacementCharacter

/-- Reads the document in some bytes. -/
def locateBytes (bytes : ByteArray) : LocatedDocument :=
  match String.fromUTF8? bytes with
  | some text => locate text
  | none =>
      let standIn := missingCharacter (decodeText bytes)
      let document := locate (decodeTextWith standIn bytes)
      { document with root := document.root.map (·.without standIn) }

end RepoSurvey.Json
