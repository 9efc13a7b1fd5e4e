import RepoSurvey.Graph.Store
import RepoSurvey.Schema.Node

/-!
# Schemas as graphs
-/

namespace RepoSurvey.SchemaNode

open RepoSurvey.Graph

mutual

/-- An object with the kind of a schema, its properties and its items, as far as it has them. -/
def object : SchemaNode → Build Value
  | node kind properties items => do
      let object ← Build.object [("kind", .string kind.name)]
      match properties with
      | some properties =>
          Build.insert object "properties" (← propertiesObject properties)
      | none => pure ()
      match items with
      | some items => Build.insert object "items" (← items.object)
      | none => pure ()
      return .container object

/-- An object with an entry for each property. -/
def propertiesObject (properties : List (String × SchemaNode)) : Build Value := do
  return .container (← Build.object (← propertyEntries properties))

def propertyEntries : List (String × SchemaNode) → Build (List (String × Value))
  | [] => return []
  | (key, child) :: rest => do
      let value ← child.object
      return (key, value) :: (← propertyEntries rest)

end

/-- The graph of the schema of a whole document. Of an object only the properties are shown. -/
def documentObject (schema : SchemaNode) : Build Value :=
  match schema.kind, schema.properties with
  | .object, some properties => propertiesObject properties
  | .object, none => return .container (← Build.newObject)
  | _, _ => schema.object

end RepoSurvey.SchemaNode
