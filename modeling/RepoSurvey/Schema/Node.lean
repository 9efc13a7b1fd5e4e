import RepoSurvey.Json.Value

/-!
# Schemas

The shape of a document: the kind of each value, the properties of objects and, if wanted, the shape
of the first element of each array.
-/

namespace RepoSurvey

inductive SchemaKind
  | object
  | array
  | string
  | number
  | boolean
  | null
  /-- The shape of a value that is not there. -/
  | undefined
  deriving DecidableEq, Inhabited, Repr

namespace SchemaKind

def name : SchemaKind → String
  | object => "object"
  | array => "array"
  | string => "string"
  | number => "number"
  | boolean => "boolean"
  | null => "null"
  | undefined => "undefined"

def all : List SchemaKind := [object, array, string, number, boolean, null, undefined]

end SchemaKind

/-- A schema. Properties are sorted by key, each key once; usually only objects have properties, and
only arrays have items. -/
inductive SchemaNode
  | node (kind : SchemaKind) (properties : Option (List (String × SchemaNode)))
      (items : Option SchemaNode)
  deriving Inhabited

namespace SchemaNode

def kind : SchemaNode → SchemaKind
  | node kind _ _ => kind

def properties : SchemaNode → Option (List (String × SchemaNode))
  | node _ properties _ => properties

def leaf (kind : SchemaKind) : SchemaNode := node kind none none

def property? (key : String) (schema : SchemaNode) : Option SchemaNode :=
  schema.properties.bind (·.lookup key)

/-- The schema found by following keys. -/
def follow? (schema : SchemaNode) (keys : List String) : Option SchemaNode :=
  keys.foldlM (fun schema key => schema.property? key) schema

mutual

/-- Whether two schemas are equal. -/
def same : SchemaNode → SchemaNode → Bool
  | node kind properties items, node otherKind otherProperties otherItems =>
      kind == otherKind &&
        (match properties, otherProperties with
          | none, none => true
          | some properties, some otherProperties => sameProperties properties otherProperties
          | _, _ => false) &&
        (match items, otherItems with
          | none, none => true
          | some items, some otherItems => same items otherItems
          | _, _ => false)

def sameProperties : List (String × SchemaNode) → List (String × SchemaNode) → Bool
  | [], [] => true
  | (key, child) :: rest, (otherKey, otherChild) :: otherRest =>
      key == otherKey && same child otherChild && sameProperties rest otherRest
  | _, _ => false

end

instance : BEq SchemaNode := ⟨same⟩

/-! ## Schemas of documents -/

mutual

/-- The schema of a document. -/
def ofValue (describesItems : Bool) : Json.Value → SchemaNode
  | .null => leaf .null
  | .bool _ => leaf .boolean
  | .number _ => leaf .number
  | .string _ => leaf .string
  | .array elements =>
      node .array none (if describesItems then some (ofFirst describesItems elements) else none)
  | .object members => node .object (some (ofMembers describesItems members)) none

/-- The schema of the first of some elements. -/
def ofFirst (describesItems : Bool) : List Json.Value → SchemaNode
  | [] => leaf .undefined
  | first :: _ => ofValue describesItems first

def ofMembers (describesItems : Bool) : List (String × Json.Value) → List (String × SchemaNode)
  | [] => []
  | (key, value) :: rest => (key, ofValue describesItems value) :: ofMembers describesItems rest

end

/-! ## Examples -/

mutual

/-- A document of the shape that a schema describes. -/
def exampleValue : SchemaNode → Json.Value
  | node .object properties _ =>
      match properties with
      | some properties => .object (exampleMembers properties)
      | none => .object []
  | node .array _ items =>
      match items with
      | some items => if items.kind == .undefined then .array [] else .array [exampleValue items]
      | none => .array []
  | node .string _ _ => .string ""
  | node .number _ _ => .natural 0
  | node .boolean _ _ => .bool false
  | node .null _ _ => .null
  | node .undefined _ _ => .null

def exampleMembers : List (String × SchemaNode) → List (String × Json.Value)
  | [] => []
  | (key, child) :: rest => (key, exampleValue child) :: exampleMembers rest

end

end SchemaNode

end RepoSurvey
