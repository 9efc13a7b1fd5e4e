import RepoSurvey.Json.Decoding
import RepoSurvey.Json.Reader
import RepoSurvey.Schema.Node

/-!
# Schemas as documents

Schemas are written as documents with the members `kind`, `properties` and `items`, and read back
from them.
-/

namespace RepoSurvey.SchemaNode

open Json

mutual

/-- The document of a schema. Members come in a fixed order; what is absent is left out. -/
def encode : SchemaNode → Json.Value
  | node kind properties items =>
      .object
        (("kind", .string kind.name) ::
          ((match properties with
            | some properties => [("properties", .object (encodeProperties properties))]
            | none => []) ++
          (match items with
            | some items => [("items", encode items)]
            | none => [])))

def encodeProperties : List (String × SchemaNode) → List (String × Json.Value)
  | [] => []
  | (key, child) :: rest => (key, encode child) :: encodeProperties rest

end

/-! ## Reading -/

/-- What the reader of a schema expects in the place of a schema. -/
def expected : String := "struct SchemaNode"

/-- Reads the kind of a schema. -/
def decodeKind (located : Located) : Except ReadError SchemaKind :=
  decodeChoice (SchemaKind.all.map fun kind => (kind.name, kind)) located

/-- The members of a schema that have been read. -/
structure Fields where
  kind : Option SchemaKind := none
  properties : Option (Option (List (String × SchemaNode))) := none
  items : Option (Option SchemaNode) := none

def Fields.has (fields : Fields) (key : String) : Bool :=
  (key == "kind" && fields.kind.isSome) || (key == "properties" && fields.properties.isSome) ||
    (key == "items" && fields.items.isSome)

mutual

/-- Reads a schema from an object, or from an array with its members in order. -/
def decode : Located → Except ReadError SchemaNode
  | .leaf content _ stop => .error (unexpectedLeaf content stop expected)
  | .array _ elements ending =>
      match elements with
      | [] =>
          match ending with
          | .closed stop => .error (invalidLength 0 (expected ++ " with 3 elements") stop)
          | .broken error => .error error
      | kind :: rest =>
          match decodeKind kind with
          | .error error => .error error
          | .ok kind =>
              match rest with
              | [] => finishArray [] ending (node kind none none)
              | properties :: rest =>
                  match decodeProperties properties with
                  | .error error => .error error
                  | .ok properties =>
                      match rest with
                      | [] => finishArray [] ending (node kind properties none)
                      | items :: rest =>
                          match decodeItems items with
                          | .error error => .error error
                          | .ok items => finishArray rest ending (node kind properties items)
  | .object _ members ending =>
      match decodeFields {} members with
      | .error error => .error error
      | .ok fields =>
          match ending with
          | .broken error => .error error
          | .closed stop =>
              match fields.kind with
              | none => .error (missingField "kind" stop)
              | some kind =>
                  .ok (node kind (fields.properties.getD none) (fields.items.getD none))

/-- Reads the members of a schema. Members with other names are passed over. -/
def decodeFields (fields : Fields) :
    List (LocatedKey × Option Located) → Except ReadError Fields
  | [] => .ok fields
  | (key, member) :: rest =>
      match key.text with
      | .error error => .error error
      | .ok text =>
          if fields.has text then .error (duplicateField text key.colon)
          else
            match member with
            | none => .ok fields
            | some member =>
                if text == "kind" then
                  match decodeKind member with
                  | .error error => .error error
                  | .ok kind => decodeFields { fields with kind := some kind } rest
                else if text == "properties" then
                  match decodeProperties member with
                  | .error error => .error error
                  | .ok properties =>
                      decodeFields { fields with properties := some properties } rest
                else if text == "items" then
                  match decodeItems member with
                  | .error error => .error error
                  | .ok items => decodeFields { fields with items := some items } rest
                else
                  match member.skip with
                  | .error error => .error error
                  | .ok _ => decodeFields fields rest

/-- Reads the properties of a schema, which may be null. -/
def decodeProperties : Located → Except ReadError (Option (List (String × SchemaNode)))
  | .leaf .null _ _ => .ok none
  | .leaf content _ stop => .error (unexpectedLeaf content stop "a map")
  | .array start _ _ => .error (unexpectedSequence start "a map")
  | .object _ members ending =>
      match decodeMembers members with
      | .error error => .error error
      | .ok properties =>
          match ending with
          | .broken error => .error error
          | .closed _ => .ok (some (sortMembers properties))

def decodeMembers : List (LocatedKey × Option Located) →
    Except ReadError (List (String × SchemaNode))
  | [] => .ok []
  | (key, member) :: rest =>
      match key.text with
      | .error error => .error error
      | .ok text =>
          match member with
          | none => .ok []
          | some member =>
              match decode member with
              | .error error => .error error
              | .ok child =>
                  match decodeMembers rest with
                  | .error error => .error error
                  | .ok others => .ok ((text, child) :: others)

/-- Reads the items of a schema, which may be null. -/
def decodeItems : Located → Except ReadError (Option SchemaNode)
  | .leaf .null _ _ => .ok none
  | located =>
      match decode located with
      | .error error => .error error
      | .ok items => .ok (some items)

end

/-- Reads the schema that a whole text describes. -/
def read (text : String) : Except ReadError SchemaNode := (locate text).decode decode

end RepoSurvey.SchemaNode
