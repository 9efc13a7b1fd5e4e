import RepoSurvey.Proofs.Graph.Filling
import RepoSurvey.Schema.Graph

/-!
# Graphs of schemas

The graph of a schema is a tree: it repeats no container, and its document is found by plain recursion.
-/

namespace RepoSurvey.SchemaNode

open RepoSurvey.Graph

mutual

/-- The document of a schema in the order of its text. -/
def document : SchemaNode → Json.Ordered
  | node kind properties items =>
      .object
        ([("kind", .string kind.name)] ++
          (match properties with
            | some properties => [("properties", .object (setMembers [] (propertyDocuments properties)))]
            | none => []) ++
          (match items with
            | some items => [("items", items.document)]
            | none => []))

def propertyDocuments : List (String × SchemaNode) → List (String × Json.Ordered)
  | [] => []
  | (key, child) :: rest => (key, child.document) :: propertyDocuments rest

end

theorem propertyDocuments_eq_map (properties : List (String × SchemaNode)) :
    propertyDocuments properties =
      properties.map fun property => (property.1, property.2.document) := by
  induction properties with
  | nil => rfl
  | cons property rest ih => rw [propertyDocuments, ih, List.map_cons]

open Unfolding

theorem fillingPlain_kind (kind : SchemaKind) (before : Store) :
    FillingPlain before ((Build.object [("kind", .string kind.name)]).run before).2 before.size
      [("kind", .string kind.name)] :=
  .build_scalars (by simp) (.refl before [])

mutual

theorem builds_object : (schema : SchemaNode) → Builds schema.object (Plain schema.document)
  | node kind none none => by
      intro before
      rw [object]
      exact (fillingPlain_kind kind before).stands
  | node kind (some properties) none => by
      intro before
      rw [object]
      exact ((fillingPlain_kind kind before).insert_built "properties"
        (builds_propertiesObject properties)).stands
  | node kind none (some items) => by
      intro before
      rw [object]
      exact ((fillingPlain_kind kind before).insert_built "items" (builds_object items)).stands
  | node kind (some properties) (some items) => by
      intro before
      rw [object]
      exact (((fillingPlain_kind kind before).insert_built "properties"
        (builds_propertiesObject properties)).insert_built "items" (builds_object items)).stands

theorem builds_propertiesObject : (properties : List (String × SchemaNode)) →
    Builds (propertiesObject properties)
      (Plain (.object (setMembers [] (propertyDocuments properties))))
  | properties => by
      rw [propertiesObject]
      exact (builds_propertyEntries properties).object

theorem builds_propertyEntries : (properties : List (String × SchemaNode)) →
    BuildsMembers (propertyEntries properties) (propertyDocuments properties)
  | [] => by
      rw [propertyEntries, propertyDocuments]
      exact .scalars (by simp)
  | (key, child) :: rest => by
      rw [propertyEntries, propertyDocuments]
      exact .cons_built (builds_object child) (builds_propertyEntries rest) key

end

/-- The document that shows the schema of a whole document. -/
def rootDocument (schema : SchemaNode) : Json.Ordered :=
  match schema.kind, schema.properties with
  | .object, some properties => .object (setMembers [] (propertyDocuments properties))
  | .object, none => .object []
  | _, _ => schema.document

theorem builds_documentObject (schema : SchemaNode) :
    Builds schema.documentObject (Plain schema.rootDocument) := by
  obtain ⟨kind, properties, items⟩ := schema
  cases kind with
  | object =>
      cases properties with
      | some properties => exact builds_propertiesObject properties
      | none =>
          intro before
          have empty : FillingPlain before ((Build.object []).run before).2 before.size [] :=
            .build_scalars (by simp) (.refl before [])
          exact empty.stands
  | _ => exact builds_object _

end RepoSurvey.SchemaNode
