import RepoSurvey.Proofs.Schema.Shape

/-!
# Schemas without items

The schema of a document with items is the schema without items and more.  Leaving the items out again
gives the other schema back, at every depth and whatever the document is.

The same is done to what a schema shows.  There a property may have any name, `items` and `kind` among
them.  But properties show schemas, which are objects, and only a schema has a kind that is a text.
-/

namespace RepoSurvey.SchemaNode

open Json (Value Ordered)
open RepoSurvey.Graph (setMembers setMembers_subperm map_setMembers)

mutual

/-- A schema with the items left out everywhere. -/
def withoutItems : SchemaNode → SchemaNode
  | node kind properties _ =>
      match properties with
      | some properties => node kind (some (propertiesWithoutItems properties)) none
      | none => node kind none none

def propertiesWithoutItems : List (String × SchemaNode) → List (String × SchemaNode)
  | [] => []
  | (key, child) :: rest => (key, child.withoutItems) :: propertiesWithoutItems rest

end

mutual

/-- Whether items are described makes no difference but the items. -/
theorem withoutItems_ofValue (describesItems : Bool) : (document : Value) →
    (ofValue describesItems document).withoutItems = ofValue false document
  | .null | .bool _ | .number _ | .string _ | .array _ => rfl
  | .object members => by
      rw [ofValue, ofValue, withoutItems, propertiesWithoutItems_ofMembers describesItems members]

theorem propertiesWithoutItems_ofMembers (describesItems : Bool) :
    (members : List (String × Value)) →
      propertiesWithoutItems (ofMembers describesItems members) = ofMembers false members
  | [] => rfl
  | (key, value) :: rest => by
      rw [ofMembers, ofMembers, propertiesWithoutItems, withoutItems_ofValue describesItems value,
        propertiesWithoutItems_ofMembers describesItems rest]

end

/-! ## What is shown -/

/-- Members that show a schema, and not properties. -/
def showNode (members : List (String × Ordered)) : Bool :=
  match members.lookup "kind" with
  | some (.string _) => true
  | _ => false

mutual

/-- What a schema shows, with the items left out everywhere. -/
def eraseItems : Ordered → Ordered
  | .object members => .object (eraseMembers (showNode members) members)
  | other => other

def eraseMembers (isNode : Bool) : List (String × Ordered) → List (String × Ordered)
  | [] => []
  | (key, value) :: rest =>
      if isNode && key == "items" then eraseMembers isNode rest
      else (key, eraseItems value) :: eraseMembers isNode rest

end

/-- No property is left out, whatever its name is. -/
theorem eraseMembers_of_properties (members : List (String × Ordered)) :
    eraseMembers false members = members.map (Prod.map id eraseItems) := by
  induction members with
  | nil => rw [eraseMembers, List.map_nil]
  | cons member rest ih =>
      obtain ⟨key, value⟩ := member
      rw [eraseMembers, ih, Bool.false_and, if_neg Bool.false_ne_true, List.map_cons]
      rfl

theorem showNode_of_objects {members : List (String × Ordered)}
    (areObjects : ∀ member ∈ members, ∃ shown, member.2 = .object shown) :
    showNode members = false := by
  unfold showNode
  split
  · rename_i kind isKind
    obtain ⟨before, after, rfl, _⟩ := List.lookup_eq_some_iff.mp isKind
    obtain ⟨shown, isObject⟩ := areObjects ("kind", .string kind) (by simp)
    cases isObject
  · rfl

theorem properties_are_objects (properties : List (String × SchemaNode)) :
    ∀ member ∈ setMembers [] (propertyDocuments properties), ∃ shown, member.2 = .object shown := by
  intro member isIn
  have isProperty := (setMembers_subperm [] _).subset isIn
  rw [List.nil_append, propertyDocuments_eq_map] at isProperty
  obtain ⟨property, _, rfl⟩ := List.mem_map.mp isProperty
  obtain ⟨rest, shown_eq⟩ := property.2.document_starts_with_kind
  exact ⟨_, shown_eq⟩

theorem eraseItems_properties (properties : List (String × SchemaNode)) :
    eraseItems (.object (setMembers [] (propertyDocuments properties))) =
      .object (setMembers [] ((propertyDocuments properties).map (Prod.map id eraseItems))) := by
  rw [eraseItems, showNode_of_objects (properties_are_objects properties),
    eraseMembers_of_properties, map_setMembers]
  rfl

mutual

/-- A schema without items shows what the schema shows, without the items. -/
theorem eraseItems_document : (schema : SchemaNode) →
    eraseItems schema.document = schema.withoutItems.document
  | node kind none none | node kind none (some items) => rfl
  | node kind (some properties) none | node kind (some properties) (some items) => by
      have shown : eraseItems (.object (setMembers [] (propertyDocuments properties))) =
          .object (setMembers [] (propertyDocuments (propertiesWithoutItems properties))) := by
        rw [eraseItems_properties, erase_propertyDocuments properties]
      exact congrArg (fun shown => Ordered.object [("kind", .string kind.name), ("properties", shown)])
        shown

theorem erase_propertyDocuments : (properties : List (String × SchemaNode)) →
    (propertyDocuments properties).map (Prod.map id eraseItems) =
      propertyDocuments (propertiesWithoutItems properties)
  | [] => rfl
  | (key, child) :: rest => by
      rw [propertyDocuments, propertiesWithoutItems, propertyDocuments, List.map_cons,
        erase_propertyDocuments rest, Prod.map, eraseItems_document child]
      rfl

end

/-- The same holds where the properties of an object stand alone. -/
theorem eraseItems_rootDocument (schema : SchemaNode) :
    eraseItems schema.rootDocument = schema.withoutItems.rootDocument := by
  obtain ⟨kind, properties, items⟩ := schema
  cases properties with
  | none =>
      cases kind <;> cases items <;> rfl
  | some properties =>
      cases kind with
      | object =>
          change eraseItems (.object (setMembers [] (propertyDocuments properties))) = _
          rw [eraseItems_properties, erase_propertyDocuments]
          rfl
      | _ => exact eraseItems_document _

/-- The property called `items` stays, and the items of its schema are left out. -/
example : eraseItems
    (ofValue true (.object [("items", .array [.null]), ("kind", .null)])).rootDocument =
      .object [("items", .object [("kind", .string "array")]),
        ("kind", .object [("kind", .string "null")])] := by
  rfl

end RepoSurvey.SchemaNode
