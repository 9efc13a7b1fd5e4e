import RepoSurvey.Json.Value

/-!
# Graphs of containers

Values whose arrays and objects are shared: a value refers to a container in a store, two places may
refer to the same container, and a container may contain itself.
-/

namespace RepoSurvey.Graph

/-- The identity of a container: its place in the store. -/
abbrev NodeId := Nat

inductive Value
  | null
  | bool (value : Bool)
  | number (value : Json.Number)
  | string (value : String)
  | container (node : NodeId)
  deriving BEq, DecidableEq, Inhabited, Repr

/-- What a container holds. The keys of an object are in the order of their first insertion. -/
inductive Container
  | array (items : Array Value)
  | object (entries : Array (String × Value))
  deriving Inhabited, Repr

structure Store where
  containers : Array Container := #[]
  deriving Inhabited, Repr

namespace Value

def natural (value : Nat) : Value := .number (.integer value)

/-- A value that may be absent; nothing is the null value. -/
def ofOption : Option Value → Value
  | some value => value
  | none => .null

def asText? : Value → Option String
  | string value => some value
  | _ => none

def asBool? : Value → Option Bool
  | bool value => some value
  | _ => none

def asNatural? : Value → Option Nat
  | number value => value.natural?
  | _ => none

def isNull : Value → Bool
  | null => true
  | _ => false

end Value

namespace Container

def isArray : Container → Bool
  | array _ => true
  | object _ => false

def size : Container → Nat
  | array items => items.size
  | object entries => entries.size

/-- Everything a container refers to, in order. -/
def values : Container → List Value
  | array items => items.toList
  | object entries => entries.toList.map (·.2)

def pushItem (value : Value) : Container → Container
  | array items => array (items.push value)
  | object entries => object entries

/-- Replaces the value of a key where it stands, or appends a new entry. -/
def setEntry (key : String) (value : Value) : Container → Container
  | array items => array items
  | object entries =>
      match entries.findIdx? (·.1 == key) with
      | some index => object (entries.modify index fun _ => (key, value))
      | none => object (entries.push (key, value))

end Container

namespace Store

def size (store : Store) : Nat := store.containers.size

def container? (store : Store) (node : NodeId) : Option Container := store.containers[node]?

/-- The values of the parts of a container; none if there is no such container. -/
def valuesAt (store : Store) (node : NodeId) : List Value :=
  ((store.container? node).map Container.values).getD []

def add (store : Store) (container : Container) : NodeId × Store :=
  (store.containers.size, ⟨store.containers.push container⟩)

def update (store : Store) (node : NodeId) (change : Container → Container) : Store :=
  ⟨store.containers.modify node change⟩

/-- The elements of an array. -/
def items (store : Store) (node : NodeId) : List Value :=
  match store.container? node with
  | some (.array items) => items.toList
  | _ => []

/-- The entries of an object, in order. -/
def entries (store : Store) (node : NodeId) : List (String × Value) :=
  match store.container? node with
  | some (.object entries) => entries.toList
  | _ => []

def keys (store : Store) (node : NodeId) : List String := (store.entries node).map (·.1)

def length (store : Store) (node : NodeId) : Nat := ((store.container? node).map (·.size)).getD 0

def item? (store : Store) (node : NodeId) (index : Nat) : Option Value :=
  match store.container? node with
  | some (.array items) => items[index]?
  | _ => none

def entry? (store : Store) (node : NodeId) (key : String) : Option Value :=
  (store.entries node).lookup key

def hasKey (store : Store) (node : NodeId) (key : String) : Bool :=
  (store.entries node).any (·.1 == key)

def isArray (store : Store) (node : NodeId) : Bool :=
  ((store.container? node).map (·.isArray)).getD false

def isObject (store : Store) (node : NodeId) : Bool :=
  ((store.container? node).map (!·.isArray)).getD false

end Store

/-! ## Building -/

/-- A computation that adds to a store. -/
abbrev Build := StateM Store

namespace Build

def newArray : Build NodeId := fun store => store.add (.array #[])

def newObject : Build NodeId := fun store => store.add (.object #[])

/-- A new object with these entries. -/
def object (entries : List (String × Value)) : Build NodeId := fun store =>
  store.add (entries.foldl (fun container entry => container.setEntry entry.1 entry.2)
    (.object #[]))

def push (node : NodeId) (value : Value) : Build Unit :=
  modify fun store => store.update node (.pushItem value)

def insert (node : NodeId) (key : String) (value : Value) : Build Unit :=
  modify fun store => store.update node (.setEntry key value)

end Build

/-- Builds a graph from nothing. -/
def build (action : Build Value) : Value × Store := action.run {}

end RepoSurvey.Graph
