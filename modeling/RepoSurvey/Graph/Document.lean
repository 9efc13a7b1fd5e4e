import RepoSurvey.Graph.Render

/-!
# Graphs as documents

A graph is turned into a document value without cycles, with the same marks in place of repeated
containers as in its text.
-/

namespace RepoSurvey.Graph

/-- A value without parts as a document. -/
def Value.scalarDocument : Value → Json.Value
  | null | container _ => .null
  | bool value => .bool value
  | number value => .number value
  | string value => .string value

/-- A container that is being rebuilt, the finished parts in reverse. -/
structure Partial where
  kind : BracketKind
  /-- The key that the finished container gets in the container around it. -/
  key : Option String
  rest : List (Option String × Value)
  done : List (Option String × Json.Value) := []

namespace Partial

def add (outer : Partial) (key : Option String) (value : Json.Value) : Partial :=
  { outer with done := (key, value) :: outer.done }

def finish (finished : Partial) : Json.Value :=
  match finished.kind with
  | .array => .array (finished.done.reverse.map (·.2))
  | .object => .ofMembers (finished.done.reverse.map fun entry => (entry.1.getD "", entry.2))

end Partial

/-- A rebuilder of one graph. -/
structure Rebuilder where
  visited : Visited := {}
  frames : List Partial := []

namespace Rebuilder

/-- Rebuilds a value without parts, or opens a container. -/
def beginValue (store : Store) (rebuilder : Rebuilder) (key : Option String) (value : Value) :
    Except Json.Value Rebuilder :=
  match visit store rebuilder.visited value with
  | .scalar => .error value.scalarDocument
  | .again => .error (.string repeatMark)
  | .first node container =>
      .ok
        { visited := rebuilder.visited.insert node
          frames := ⟨container.bracketKind, key, container.parts, []⟩ :: rebuilder.frames }

/-- Does one step: either all is done, or there is a next state. -/
def step (store : Store) (rebuilder : Rebuilder) : Except Json.Value Rebuilder :=
  match rebuilder.frames with
  | [] => .error .null
  | ⟨kind, key, [], done⟩ :: outer =>
      let finished := Partial.finish ⟨kind, key, [], done⟩
      match outer with
      | [] => .error finished
      | parent :: rest => .ok { rebuilder with frames := parent.add key finished :: rest }
  | ⟨kind, key, (childKey, value) :: rest, done⟩ :: outer =>
      let current : Partial := ⟨kind, key, rest, done⟩
      match beginValue store { rebuilder with frames := current :: outer } childKey value with
      | .ok next => .ok next
      | .error leaf => .ok { rebuilder with frames := current.add childKey leaf :: outer }

def backlog : List Partial → Nat
  | [] => 0
  | frame :: outer => frame.rest.length + 1 + backlog outer

theorem step_progress {store : Store} {rebuilder next : Rebuilder}
    (stepped : rebuilder.step store = .ok next) :
    unvisited store next.visited < unvisited store rebuilder.visited ∨
      next.visited = rebuilder.visited ∧ backlog next.frames < backlog rebuilder.frames := by
  unfold step at stepped
  split at stepped
  · cases stepped
  · rename_i isOpen
    dsimp only at stepped
    split at stepped
    · cases stepped
    · cases stepped
      right
      simp [isOpen, backlog, Partial.add]
  · rename_i isOpen
    dsimp only at stepped
    split at stepped
    · rename_i opened
      cases stepped
      left
      unfold beginValue at opened
      split at opened
      · cases opened
      · cases opened
      · rename_i found
        cases opened
        have isNew := visit_first found
        exact unvisited_insert_lt isNew.1 isNew.2
    · cases stepped
      right
      simp [isOpen, backlog, Partial.add]

/-- Rebuilds all that is left. -/
def run (store : Store) (rebuilder : Rebuilder) : Json.Value :=
  match _ : rebuilder.step store with
  | .error value => value
  | .ok next => run store next
  termination_by (unvisited store rebuilder.visited, backlog rebuilder.frames)
  decreasing_by
    cases step_progress (by assumption) with
    | inl fewer => exact Prod.Lex.left _ _ fewer
    | inr shorter =>
        rw [shorter.1]
        exact Prod.Lex.right _ shorter.2

end Rebuilder

/-- The document of a graph. -/
def document (store : Store) (root : Value) : Json.Value :=
  match Rebuilder.beginValue store {} none root with
  | .error leaf => leaf
  | .ok rebuilder => rebuilder.run store

end RepoSurvey.Graph
