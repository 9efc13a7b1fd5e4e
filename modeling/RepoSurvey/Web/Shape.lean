import RepoSurvey.Json.Bytes
import RepoSurvey.Json.Decoding

/-!
# Shapes of documents

What is wanted of a document that came from the web.  A document of another shape is of no use, whatever
is wrong with it.
-/

namespace RepoSurvey.Web

/-- Reads what is wanted of a part of a document. -/
abbrev Shape (α : Type) := Json.Located → Option α

namespace Shape

open Json (Located Leaf Ending LocatedKey)

def text : Shape String
  | .leaf (.string (.ok value)) _ _ => some value
  | _ => none

def bool : Shape Bool
  | .leaf (.bool value) _ _ => some value
  | _ => none

def natural : Shape Nat
  | .leaf (.number (.ok value)) _ _ => value.natural?
  | _ => none

/-- A part that may be null. -/
def orNull {α : Type} (shape : Shape α) : Shape (Option α)
  | .leaf .null _ _ => some none
  | other => (shape other).map some

/-- Reads a part into a structure. -/
def into {α β : Type} (shape : Shape β) (change : β → α → α) : Shape (α → α) := fun part =>
  (shape part).map change

def list {α : Type} (shape : Shape α) : Shape (List α)
  | .array _ items (.closed _) => items.mapM shape
  | _ => none

/-- A part of a structure. -/
structure Field (α : Type) where
  name : String
  /-- Reads the part into the structure. -/
  read : Shape (α → α)
  /-- Whether the part may be left out of an object. -/
  isOptional : Bool := false
  /-- Whether the part may be left out of an array that lists the parts. -/
  hasDefault : Bool := false

/-- Reads the parts of a structure that are listed in order. -/
def readItems {α : Type} (value : α) : List (Field α) → List Located → Option α
  | [], [] => some value
  | [], _ :: _ => none
  | field :: fields, [] => if field.hasDefault then readItems value fields [] else none
  | field :: fields, item :: items => do readItems ((← field.read item) value) fields items

/-- Reads the parts of a structure from the members of an object. Other members are passed over. The
result tells which parts were there. -/
def readMembers {α : Type} (fields : List (Field α)) (seen : List String) (value : α) :
    List (LocatedKey × Option Located) → Option (List String × α)
  | [] => some (seen, value)
  | (key, member) :: rest => do
      let name ← key.text.toOption
      let member ← member
      match fields.find? (·.name == name) with
      | none =>
          let _ ← member.skip.toOption
          readMembers fields seen value rest
      | some field =>
          if seen.contains name then none
          else readMembers fields (name :: seen) ((← field.read member) value) rest

/-- Reads a structure from an object with its parts, or from an array that lists them. -/
def assembled {α : Type} (fields : List (Field α)) (initial : α) : Shape α
  | .array _ items (.closed _) => readItems initial fields items
  | .object _ members (.closed _) => do
      let (seen, value) ← readMembers fields [] initial members
      if fields.all fun field => field.isOptional || seen.contains field.name then some value
      else none
  | _ => none

/-- Reads the document in some bytes. -/
def readBytes {α : Type} (shape : Shape α) (bytes : ByteArray) : Option α := do
  let document := Json.locateBytes bytes
  let value ← shape (← document.root)
  if document.error.isSome then none else some value

end Shape

end RepoSurvey.Web
