import RepoSurvey.Graph.Heap
import RepoSurvey.Graph.Render
import RepoSurvey.Text.Shown

/-!
# Working on a graph

A graph is worked on through handles.  A handle holds a value, and several handles may hold the same
container.  Containers are made and filled, what is in them is read into new handles, and handles are
dropped when they are no longer wanted.
-/

namespace RepoSurvey.Graph

/-! ## Looking at single values

Short texts about one value of a graph, which never look into the containers inside it. -/

namespace Value

/-- The container that a value refers to. -/
def container? (store : Store) : Value → Option NodeId
  | container node => if (store.container? node).isSome then some node else none
  | _ => none

def array? (store : Store) (value : Value) : Option NodeId :=
  (value.container? store).filter store.isArray

def object? (store : Store) (value : Value) : Option NodeId :=
  (value.container? store).filter store.isObject

/-- The kind and the size of a container, or the text of another value. -/
def described (store : Store) (value : Value) : String :=
  match value.object? store, value.array? store with
  | some node, _ => s!"<object {store.length node}>"
  | _, some node => s!"<array {store.length node}>"
  | _, _ => value.scalarText

/-- A value with its kind, and with the keys or the length of a container. -/
def inspected (store : Store) (value : Value) : String :=
  match value with
  | null => "Null"
  | bool value => s!"Bool({value})"
  | number value => "Number(" ++ value.text ++ ")"
  | string value => "String(" ++ shown value ++ ")"
  | container node =>
      if store.isArray node then s!"Array(#_, len={store.length node})"
      else "Object(#_, keys=[" ++ ", ".intercalate ((store.keys node).map shown) ++ "])"

end Value

/-! ## Handles -/

/-- The place of a handle, among all that there were. -/
abbrev HandleId := Nat

/-- What is done with handles. -/
inductive Operation
  | newArray
  | newObject
  /-- Holds a value that is not a container. -/
  | hold (scalar : Value)
  /-- Holds what another handle holds. -/
  | clone (handle : HandleId)
  /-- Appends to an array what a handle holds. -/
  | push (array value : HandleId)
  /-- Stores under a key of an object what a handle holds. -/
  | insert (object : HandleId) (key : String) (value : HandleId)
  /-- Holds an element of an array. -/
  | item (array : HandleId) (index : Nat)
  /-- Holds what is stored under a key of an object. -/
  | entry (object : HandleId) (key : String)
  | drop (handle : HandleId)
  deriving DecidableEq, Repr

/-- What changes in a container. -/
inductive Change
  | push (array : NodeId) (value : Value)
  | insert (object : NodeId) (key : String) (value : Value)
  deriving DecidableEq, Repr

namespace Change

/-- The container that changes. -/
def node : Change → NodeId
  | push array _ => array
  | insert object _ _ => object

/-- What is stored. -/
def value : Change → Value
  | push _ value => value
  | insert _ _ value => value

def apply : Change → Container → Container
  | push _ value => .pushItem value
  | insert _ key value => .setEntry key value

/-- What is no longer stored after the change. -/
def replaced? (store : Store) : Change → Option Value
  | push _ _ => none
  | insert object key _ => store.entry? object key

end Change

/-- A graph that is worked on. -/
structure Session where
  heap : Heap := {}
  /-- What the handles hold; nothing where a handle was dropped. -/
  handles : Array (Option Value) := #[]

namespace Session

/-- What a handle holds. -/
def value? (session : Session) (handle : HandleId) : Option Value := session.handles[handle]?.join

def array? (session : Session) (handle : HandleId) : Option NodeId :=
  (session.value? handle).bind (·.array? session.heap.store)

def object? (session : Session) (handle : HandleId) : Option NodeId :=
  (session.value? handle).bind (·.object? session.heap.store)

/-- A new handle. If it is to hold a value, there is one reference more. -/
def keep (session : Session) (held : Option Value) : Session :=
  match held with
  | some value => { heap := session.heap.retain value, handles := session.handles.push (some value) }
  | none => { session with handles := session.handles.push none }

/-- A new handle of a new container. -/
def create (session : Session) (container : Container) : Session :=
  let (node, heap) := session.heap.add container
  { heap, handles := session.handles.push (some (.container node)) }

/-- What an operation changes in a container, if it does. -/
def change? (session : Session) : Operation → Option Change
  | .push array value => do
      return .push (← session.array? array) (← session.value? value)
  | .insert object key value => do
      return .insert (← session.object? object) key (← session.value? value)
  | _ => none

/-- What an operation reads into a new handle. -/
def found? (session : Session) : Operation → Option Value
  | .hold (.container _) => none
  | .hold scalar => some scalar
  | .clone handle => session.value? handle
  | .item array index => do session.heap.store.item? (← session.array? array) index
  | .entry object key => do session.heap.store.entry? (← session.object? object) key
  | _ => none

/-- Changes a container. What it no longer holds is given up. -/
def store (giveUp : Value → Heap → Heap) (session : Session) (change : Change) : Session :=
  let replaced := change.replaced? session.heap.store
  let stored := (session.heap.retain change.value).update change.node change.apply
  match replaced with
  | some value => { session with heap := giveUp value stored }
  | none => { session with heap := stored }

/-- Drops a handle. What it held is given up. -/
def drop (giveUp : Value → Heap → Heap) (session : Session) (handle : HandleId) : Session :=
  match session.value? handle with
  | some value =>
      { heap := giveUp value session.heap, handles := session.handles.setIfInBounds handle none }
  | none => session

/-- Does an operation. What happens to a reference that is given up is told. -/
def performWith (giveUp : Value → Heap → Heap) (session : Session) (operation : Operation) : Session :=
  match operation with
  | .newArray => session.create (.array #[])
  | .newObject => session.create (.object #[])
  | .push .. | .insert .. =>
      match session.change? operation with
      | some change => session.store giveUp change
      | none => session
  | .drop handle => session.drop giveUp handle
  | .hold _ | .clone _ | .item .. | .entry .. => session.keep (session.found? operation)

/-- Does an operation. -/
def perform : Session → Operation → Session := performWith Heap.drop

/-- Does one operation after the other. -/
def run (operations : List Operation) (session : Session := {}) : Session :=
  operations.foldl perform session

end Session

end RepoSurvey.Graph
