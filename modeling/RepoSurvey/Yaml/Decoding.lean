import RepoSurvey.Text.Shown
import RepoSurvey.Yaml.Document
import RepoSurvey.Yaml.Scalars

/-!
# Reading YAML documents of a known shape

Structures are read from mappings: fields that are left out keep their value, fields that nobody knows
are passed over.  What goes wrong is told together with the path to where it went wrong.
-/

namespace RepoSurvey.Yaml

/-- The way from the root of a document to a node. -/
inductive NodePath
  | root
  | item (parent : NodePath) (index : Nat)
  | value (parent : NodePath) (key : String)
  /-- A value whose key is no text. -/
  | unnamed (parent : NodePath)
  deriving DecidableEq, Repr

namespace NodePath

/-- A path as it is told. Nothing is told about the root. -/
def text : NodePath → String
  | root => ""
  | item root index => ".[" ++ toString index ++ "]"
  | item parent index => parent.text ++ "[" ++ toString index ++ "]"
  | value root key => key
  | value parent key => parent.text ++ "." ++ key
  | unnamed root => "?"
  | unnamed parent => parent.text ++ ".?"

end NodePath

inductive ReadError
  | unreadable (failure : Failure)
  | mismatch (path : NodePath) (mark : Mark) (message : String)
  | severalDocuments
  deriving DecidableEq, Repr

def ReadError.message : ReadError → String
  | unreadable failure => failure.message
  | mismatch path mark message =>
      (if path == .root then "" else path.text ++ ": ") ++ message ++ mark.text
  | severalDocuments =>
      "deserializing from YAML containing more than one document is not supported"

/-- What a text is called when it was not asked for. -/
def Meaning.described : Meaning → String
  | nothing => "unit value"
  | bool value => "boolean `" ++ toString value ++ "`"
  | integer value =>
      let width :=
        if (Nat.pow 2 64 : Int) ≤ value then " as u128"
        else if value < -(Nat.pow 2 63 : Int) then " as i128"
        else ""
      "integer `" ++ toString value ++ "`" ++ width
  | double value =>
      let digits := value.plainText
      let text := if digits.contains '.' then digits else digits ++ ".0"
      "floating point `" ++ text ++ "`"
  | limit name => "floating point `" ++ name ++ "`"
  | text value => "string " ++ shown value

def invalidType (found expected : String) : String :=
  "invalid type: " ++ found ++ ", expected " ++ expected

/-- What is wrong with a node that stands where `expected` was asked for. -/
def unexpectedMessage (expected : String) : Node → String
  | .scalar _ _ content =>
      match content.meaning with
      | .ok meaning => invalidType meaning.described expected
      | .error wanted => "invalid value: string " ++ shown content.text ++ ", expected " ++ wanted
  | .reference .. => invalidType "unit value" expected
  | .sequence .. => invalidType "sequence" expected
  | .mapping .. => invalidType "map" expected

/-- Reads a node of a document, to which a path leads. -/
abbrev Decoder (α : Type) := Document → NodePath → Node → Except ReadError α

namespace Decoder

def unexpected {α : Type} (expected : String) (path : NodePath) (node : Node) : Except ReadError α :=
  .error (.mismatch path node.mark (unexpectedMessage expected node))

/-- The decoder that goes on with what was read. -/
def map {α β : Type} (change : α → β) (decoder : Decoder α) : Decoder β := fun document path node =>
  (decoder document path node).map change

/-- Reads a text as it is written, whatever it stands for. -/
def text (expected : String) : Decoder String := fun document path node =>
  match document.resolve node with
  | .scalar _ _ content => .ok content.text
  | other => unexpected expected path other

def bool : Decoder Bool := fun document path node =>
  let node := document.resolve node
  match node with
  | .scalar _ _ content =>
      match readBool? content.text, content.mayBe "bool" with
      | some value, true => .ok value
      | _, _ => unexpected "a boolean" path node
  | _ => unexpected "a boolean" path node

/-- Reads a natural number of at most 64 bits that is written without a minus sign. -/
def natural (expected : String) : Decoder Nat := fun document path node =>
  let node := document.resolve node
  match node with
  | .scalar _ _ content =>
      let isNatural := content.mayBe "int" && !content.text.startsWith "-"
      match readInteger? content.text with
      | some value =>
          if isNatural && value < Nat.pow 2 64 then .ok value.toNat else unexpected expected path node
      | none => unexpected expected path node
  | _ => unexpected expected path node

/-- Whether a node is left out. Nothing stands for an empty collection. -/
def isMissing : Node → Bool
  | .scalar _ _ content => content.text.isEmpty && content.style == .plain
  | _ => false

/-- What was read, unless a failure comes behind it. -/
def unlessFailed {α : Type} (failure : Option Failure) (value : α) : Except ReadError α :=
  match failure with
  | some failure => .error (.unreadable failure)
  | none => .ok value

/-- Reads the items of a sequence. -/
def list {α : Type} (item : Decoder α) : Decoder (List α) := fun document path node =>
  let node := document.resolve node
  match node with
  | .sequence _ _ items failure => do
      let values ← items.zipIdx.mapM fun (node, index) => item document (path.item index) node
      unlessFailed failure values
  | _ => if isMissing node then .ok [] else unexpected "a sequence" path node

/-- The path to the value of a key. -/
def valuePath (path : NodePath) : Node → NodePath
  | .scalar _ _ content => path.value content.text
  | _ => path.unnamed

/-- Reads the entries of a mapping into a structure. `seen` are the fields that were there already. -/
def entries {α : Type} (fields : List (String × Decoder (α → α))) (document : Document)
    (path : NodePath) (mark : Mark) (failure : Option Failure) (seen : List String) (value : α) :
    List (Node × Option Node) → Except ReadError α
  | [] => unlessFailed failure value
  | (key, entry) :: rest => do
      let name ← text "field identifier" document path key
      match fields.lookup name with
      | none =>
          unlessFailed (entry.elim failure (·.failure)) ()
          entries fields document path mark failure seen value rest
      | some field =>
          if seen.contains name then
            throw (.mismatch path mark ("duplicate field `" ++ name ++ "`"))
          match entry with
          | none => unlessFailed failure value
          | some entry =>
              let change ← field document (valuePath path key) entry
              entries fields document path mark failure (name :: seen) (change value) rest

/-- Reads a structure from a mapping of its fields. `initial` tells the fields that are left out. -/
def fields {α : Type} (name : String) (fields : List (String × Decoder (α → α))) (initial : α) :
    Decoder α := fun document path node =>
  let node := document.resolve node
  match node with
  | .mapping _ mark members failure => entries fields document path mark failure [] initial members
  | _ => if isMissing node then .ok initial else unexpected ("struct " ++ name) path node

end Decoder

/-- Reads the only document of a text. A text without documents is read as `initial`. -/
def Document.decode {α : Type} (decoder : Decoder α) (initial : α) (document : Document) :
    Except ReadError α := do
  match document.root, document.failure with
  | none, none => return initial
  | none, some failure => throw (.unreadable failure)
  | some root, failure =>
      let value ← decoder document .root root
      match failure with
      | some failure => throw (.unreadable failure)
      | none => if document.isFollowed then throw .severalDocuments else return value

end RepoSurvey.Yaml
