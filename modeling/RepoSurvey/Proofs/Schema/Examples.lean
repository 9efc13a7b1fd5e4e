import RepoSurvey.Proofs.Json.Sorted
import RepoSurvey.Schema.Node

/-!
# Schemas and their examples

The schema of a document is well formed, and so its example has that schema again.  A schema that is not
well formed shows it: the schema of its example is another one.
-/

namespace RepoSurvey.SchemaNode

open Json (Value)

/-- A schema has the parts that its kind asks for, and no others. The shape of a value that is not there
stands only for the items of an array. -/
inductive WellFormed (describesItems : Bool) : SchemaNode → Prop
  | object {properties : List (String × SchemaNode)}
      (areWellFormed : ∀ property ∈ properties, WellFormed describesItems property.2) :
      WellFormed describesItems (node .object (some properties) none)
  | plainArray (isOff : describesItems = false) :
      WellFormed describesItems (node .array none none)
  | emptyArray (isOn : describesItems = true) :
      WellFormed describesItems (node .array none (some (node .undefined none none)))
  | array {items : SchemaNode} (isOn : describesItems = true)
      (isWellFormed : WellFormed describesItems items) :
      WellFormed describesItems (node .array none (some items))
  | string : WellFormed describesItems (node .string none none)
  | number : WellFormed describesItems (node .number none none)
  | boolean : WellFormed describesItems (node .boolean none none)
  | null : WellFormed describesItems (node .null none none)

variable {describesItems : Bool}

theorem ofMembers_eq_map (members : List (String × Value)) :
    ofMembers describesItems members =
      members.map fun member => (member.1, ofValue describesItems member.2) := by
  induction members with
  | nil => rfl
  | cons member rest ih => rw [ofMembers, ih, List.map_cons]

theorem exampleMembers_eq_map (properties : List (String × SchemaNode)) :
    exampleMembers properties =
      properties.map fun property => (property.1, property.2.exampleValue) := by
  induction properties with
  | nil => rfl
  | cons property rest ih => rw [exampleMembers, ih, List.map_cons]

theorem wellFormed_ofValue (document : Value) :
    WellFormed describesItems (ofValue describesItems document) := by
  induction document using Value.induction with
  | null => exact .null
  | bool value => exact .boolean
  | number value => exact .number
  | string value => exact .string
  | array items ih =>
      cases describesItems with
      | false => exact .plainArray rfl
      | true =>
          cases items with
          | nil => exact .emptyArray rfl
          | cons first rest => exact .array rfl (ih first List.mem_cons_self)
  | object members ih =>
      rw [ofValue, ofMembers_eq_map]
      refine .object fun property isProperty => ?_
      obtain ⟨⟨key, value⟩, isMember, rfl⟩ := List.mem_map.mp isProperty
      exact ih key value isMember

/-! ## Back from the example -/

/-- An example gives properties back if it does so for each of them. -/
theorem ofMembers_exampleMembers {properties : List (String × SchemaNode)}
    (areSame : ∀ property ∈ properties,
      ofValue describesItems property.2.exampleValue = property.2) :
    ofMembers describesItems (exampleMembers properties) = properties := by
  have isSame : ∀ property ∈ properties,
      (property.1, ofValue describesItems property.2.exampleValue) = property :=
    fun property isProperty => Prod.ext rfl (areSame property isProperty)
  rw [ofMembers_eq_map, exampleMembers_eq_map, List.map_map]
  exact (List.map_congr_left isSame).trans (List.map_id properties)

theorem WellFormed.kind_ne_undefined {schema : SchemaNode}
    (isWellFormed : WellFormed describesItems schema) : schema.kind ≠ .undefined := by
  cases isWellFormed <;> nofun

/-- The items of an array that has some are shown by its example, if they are there. -/
theorem exampleValue_array {items : SchemaNode} (isThere : items.kind ≠ .undefined) :
    (node .array none (some items)).exampleValue = .array [items.exampleValue] := by
  rw [exampleValue, if_neg (by simpa using isThere)]

theorem ofValue_exampleValue {schema : SchemaNode}
    (isWellFormed : WellFormed describesItems schema) :
    ofValue describesItems schema.exampleValue = schema := by
  induction isWellFormed with
  | @object properties _ ih =>
      rw [exampleValue, ofValue, ofMembers_exampleMembers ih]
  | plainArray isOff =>
      subst isOff
      rfl
  | emptyArray isOn =>
      subst isOn
      rfl
  | @array items isOn isWellFormed ih =>
      rw [exampleValue_array isWellFormed.kind_ne_undefined, ofValue, ofFirst, ih, if_pos isOn]
  | string => rfl
  | number => rfl
  | boolean => rfl
  | null => rfl

/-- The schema of every document is well formed.  The schema of the example of a schema is that schema
exactly if it is well formed; so a schema of a document stays what it is, however often an example is taken
of it. -/
theorem example_fixes_wellFormed (describesItems : Bool) :
    (∀ document, WellFormed describesItems (ofValue describesItems document)) ∧
      (∀ schema, ofValue describesItems schema.exampleValue = schema ↔
        WellFormed describesItems schema) ∧
        ∀ document, ofValue describesItems (ofValue describesItems document).exampleValue =
          ofValue describesItems document := by
  refine ⟨wellFormed_ofValue, fun schema => ⟨fun same => ?_, ofValue_exampleValue⟩,
    fun document => ofValue_exampleValue (wellFormed_ofValue document)⟩
  rw [← same]
  exact wellFormed_ofValue _

end RepoSurvey.SchemaNode
