import RepoSurvey.Graph.Layout
import RepoSurvey.Graph.Visited

/-!
# Writing graphs

A graph is written as a document, depth first.  A container is written in full where it is met first;
everywhere else a mark stands in its place, so that cycles come to an end.  The open containers are
kept in a list, so nesting may be of any depth.
-/

namespace RepoSurvey.Graph

/-- What is written in place of a container that has been written before. -/
def repeatMark : String := "[Circular]"

/-- The parts of a container, with keys if it is an object. -/
def Container.parts : Container → List (Option String × Value)
  | array items => items.toList.map (none, ·)
  | object entries => entries.toList.map fun entry => (some entry.1, entry.2)

def Container.bracketKind : Container → BracketKind
  | array _ => .array
  | object _ => .object

/-- The text of a value without parts. -/
def Value.scalarText : Value → String
  | null | container _ => "null"
  | bool value => toString value
  | number value => value.text
  | string value => Json.quote value

/-- A container that is being written: the parts that are left. -/
structure Frame where
  kind : BracketKind
  isFirst : Bool
  rest : List (Option String × Value)
  deriving Repr

/-- A writer of one graph. The innermost container comes first. -/
structure Writer where
  layout : Layout
  visited : Visited := {}
  frames : List Frame := []

namespace Writer

/-- Notes that a value is complete, if it is part of a container. -/
def endValue (writer : Writer) : Writer :=
  if writer.frames.isEmpty then writer else { writer with layout := writer.layout.endPart }

@[simp] theorem endValue_visited (writer : Writer) : writer.endValue.visited = writer.visited := by
  unfold endValue
  split <;> rfl

@[simp] theorem endValue_frames (writer : Writer) : writer.endValue.frames = writer.frames := by
  unfold endValue
  split <;> rfl

/-- Writes a value without parts, or opens a container. -/
def beginValue (store : Store) (writer : Writer) (value : Value) : String × Writer :=
  match visit store writer.visited value with
  | .scalar => (value.scalarText, writer.endValue)
  | .again => (Json.quote repeatMark, writer.endValue)
  | .first node container =>
      let (text, layout) := writer.layout.beginContainer container.bracketKind
      (text,
        { layout
          visited := writer.visited.insert node
          frames := ⟨container.bracketKind, true, container.parts⟩ :: writer.frames })

/-- What comes before the value of a part, piece by piece. -/
def partPieces (layout : Layout) (isFirst : Bool) (key : Option String) : List String :=
  match key with
  | none => [layout.beginPart isFirst]
  | some key => [layout.beginPart isFirst, Json.quote key, layout.afterKey]

/-- Writes one part, or the end of a container, piece by piece; `none` if nothing is open. -/
def step (store : Store) (writer : Writer) : Option (List String × Writer) :=
  match writer.frames with
  | [] => none
  | ⟨kind, _, []⟩ :: outer =>
      let (text, layout) := writer.layout.endContainer kind
      some ([text], endValue { writer with layout, frames := outer })
  | ⟨kind, isFirst, (key, value) :: rest⟩ :: outer =>
      let before := partPieces writer.layout isFirst key
      let parent : Writer := { writer with frames := ⟨kind, false, rest⟩ :: outer }
      let (text, next) := parent.beginValue store value
      some (before ++ [text], next)

/-- How many parts are left in the open containers, and how many ends. -/
def backlog : List Frame → Nat
  | [] => 0
  | frame :: outer => frame.rest.length + 1 + backlog outer

/-- Either a container is visited for the first time, or the backlog shrinks. -/
theorem step_progress {store : Store} {writer next : Writer} {pieces : List String}
    (stepped : writer.step store = some (pieces, next)) :
    unvisited store next.visited < unvisited store writer.visited ∨
      next.visited = writer.visited ∧ backlog next.frames < backlog writer.frames := by
  unfold step at stepped
  split at stepped
  · cases stepped
  · rename_i isOpen
    injection stepped with stepped
    injection stepped with _ stepped
    subst stepped
    right
    simp [isOpen, backlog]
  · rename_i isOpen
    injection stepped with stepped
    injection stepped with _ stepped
    subst stepped
    split
    · right
      simp [isOpen, backlog]
    · right
      simp [isOpen, backlog]
    · rename_i found
      left
      have isNew := visit_first found
      exact unvisited_insert_lt isNew.1 isNew.2

/-- Writes all that is left. Each piece is handed on with `put`. -/
def finishWith {m : Type → Type} [Monad m] (put : String → m Unit) (store : Store)
    (writer : Writer) : m Unit :=
  match _ : writer.step store with
  | none => pure ()
  | some (pieces, next) => do
      forM pieces put
      finishWith put store next
  termination_by (unvisited store writer.visited, backlog writer.frames)
  decreasing_by
    cases step_progress (by assumption) with
    | inl fewer => exact Prod.Lex.left _ _ fewer
    | inr shorter =>
        rw [shorter.1]
        exact Prod.Lex.right _ shorter.2

end Writer

/-- Writes a whole graph. Each piece of its text is handed on with `put`. -/
def writeWith {m : Type → Type} [Monad m] (put : String → m Unit) (layout : Layout)
    (store : Store) (root : Value) : m Unit := do
  let (text, writer) := Writer.beginValue store { layout } root
  put text
  writer.finishWith put store

/-! ## Where the text goes -/

/-- A place for text that may be limited to a number of bytes. -/
structure Sink where
  text : String := ""
  room : Option Nat := none
  deriving Repr

/-- There is no room left. -/
inductive WriteFailure
  | full
  deriving BEq, DecidableEq, Repr

abbrev Writing := EStateM WriteFailure Sink

/-- The longest start of a text that fits into `room` bytes. -/
def fitting (room : Nat) : List Char → List Char
  | [] => []
  | character :: rest =>
      if character.utf8Size ≤ room then character :: fitting (room - character.utf8Size) rest
      else []

/-- Writes a text. If it does not fit, its start is written and nothing after it. -/
def put (text : String) : Writing Unit := fun sink =>
  match sink.room with
  | none => .ok () { sink with text := sink.text ++ text }
  | some room =>
      if text.utf8ByteSize ≤ room then
        .ok () ⟨sink.text ++ text, some (room - text.utf8ByteSize)⟩
      else .error .full ⟨sink.text ++ String.ofList (fitting room text.toList), some 0⟩

/-- Writes a whole graph to a sink. -/
def writeGraph (layout : Layout) (store : Store) (root : Value) : Writing Unit :=
  writeWith put layout store root

/-- The text written to a sink that takes everything. -/
def renderWith (layout : Layout) (store : Store) (root : Value) : String :=
  match (writeGraph layout store root).run {} with
  | .ok _ sink => sink.text
  | .error _ sink => sink.text

/-- The document of a graph in one line. -/
def compactText (store : Store) (root : Value) : String := renderWith .compact store root

/-- The document of a graph with each part on a line of its own. -/
def prettyText (store : Store) (root : Value) : String := renderWith .start store root

/-- Writes the one-line document into `limit` bytes. -/
def writeLimited (limit : Nat) (store : Store) (root : Value) :
    EStateM.Result WriteFailure Sink Unit :=
  (writeGraph .compact store root).run { room := some limit }

end RepoSurvey.Graph
