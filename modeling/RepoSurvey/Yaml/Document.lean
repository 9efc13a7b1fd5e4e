import RepoSurvey.Yaml.Events

/-!
# Documents

A document is a tree of nodes.  The tree of a text with a failure is kept as far as it goes: the
collections that were open when the failure came up end with it, so that whoever walks the tree in order
meets it at the right moment.
-/

namespace RepoSurvey.Yaml

/-- A node, where it starts, and the number that aliases call it by. -/
inductive Node
  | scalar (anchor : Option Nat) (mark : Mark) (content : Scalar)
  | reference (mark : Mark) (anchor : Nat)
  /-- A sequence that ends with a failure goes on no further than it has been read. -/
  | sequence (anchor : Option Nat) (mark : Mark) (items : List Node) (failure : Option Failure)
  /-- The last key may lack its value if the mapping ends with a failure. -/
  | mapping (anchor : Option Nat) (mark : Mark) (entries : List (Node × Option Node))
      (failure : Option Failure)

namespace Node

def mark : Node → Mark
  | scalar _ mark _ => mark
  | reference mark _ => mark
  | sequence _ mark _ _ => mark
  | mapping _ mark _ _ => mark

/-- The failure that a node ends with. A failure in a node ends all collections around it too. -/
def failure : Node → Option Failure
  | scalar .. => none
  | reference .. => none
  | sequence _ _ _ failure => failure
  | mapping _ _ _ failure => failure

def anchor : Node → Option Nat
  | scalar anchor _ _ => anchor
  | reference .. => none
  | sequence anchor _ _ _ => anchor
  | mapping anchor _ _ _ => anchor

mutual

/-- The last node that aliases call by a number. -/
def find? (number : Nat) : Node → Option Node
  | sequence anchor mark items failure =>
      match findInItems? number items with
      | some found => some found
      | none => if anchor == some number then some (sequence anchor mark items failure) else none
  | mapping anchor mark entries failure =>
      match findInEntries? number entries with
      | some found => some found
      | none => if anchor == some number then some (mapping anchor mark entries failure) else none
  | other => if other.anchor == some number then some other else none

def findInItems? (number : Nat) : List Node → Option Node
  | [] => none
  | item :: rest =>
      match findInItems? number rest with
      | some found => some found
      | none => item.find? number

def findInEntries? (number : Nat) : List (Node × Option Node) → Option Node
  | [] => none
  | (key, value) :: rest =>
      match findInEntries? number rest with
      | some found => some found
      | none =>
          match value with
          | none => key.find? number
          | some value =>
              match value.find? number with
              | some found => some found
              | none => key.find? number

end

end Node

/-- What a text holds: its first document, the failure in or behind it, and whether another document
follows. A text without documents has no root. -/
structure Document where
  root : Option Node
  failure : Option Failure
  isFollowed : Bool

/-- The node that a node stands for. -/
def Document.resolve (document : Document) : Node → Node
  | .reference mark anchor =>
      match document.root.bind (·.find? anchor) with
      | some target => target
      | none => .reference mark anchor
  | node => node

/-- A collection that is being read. Its parts are in reverse order. -/
inductive Frame
  | sequence (anchor : Option Nat) (mark : Mark) (items : List Node)
  | mapping (anchor : Option Nat) (mark : Mark) (entries : List (Node × Option Node))

namespace Frame

def close (failure : Option Failure) : Frame → Node
  | sequence anchor mark items => .sequence anchor mark items.reverse failure
  | mapping anchor mark entries => .mapping anchor mark entries.reverse failure

def add (node : Node) : Frame → Frame
  | sequence anchor mark items => .sequence anchor mark (node :: items)
  | mapping anchor mark ((key, none) :: entries) =>
      .mapping anchor mark ((key, some node) :: entries)
  | mapping anchor mark entries => .mapping anchor mark ((node, none) :: entries)

end Frame

/-- A document that is being read. -/
structure Draft where
  root : Option Node := none
  /-- The open collections, the innermost first. -/
  frames : List Frame := []
  /-- The names of anchors and the numbers they stand for, the latest first. -/
  anchors : List (String × Nat) := []

namespace Draft

def add (draft : Draft) (node : Node) : Draft :=
  match draft.frames with
  | [] => { draft with root := some node }
  | frame :: frames => { draft with frames := frame.add node :: frames }

def close (draft : Draft) : Draft :=
  match draft.frames with
  | [] => draft
  | frame :: frames => { draft with frames }.add (frame.close none)

/-- Gives an anchor its number: how many different names there were before. Nodes can share a number
when a name is used again. -/
def number (draft : Draft) : Option String → Option Nat × Draft
  | none => (none, draft)
  | some name =>
      let number := (draft.anchors.map (·.1)).eraseDups.length
      (some number, { draft with anchors := (name, number) :: draft.anchors })

/-- Takes in the next event of a document. -/
def step (draft : Draft) (event : Event) : Except Failure Draft :=
  match event.kind with
  | .reference name =>
      match draft.anchors.lookup name with
      | some number => .ok (draft.add (.reference event.mark number))
      | none => .error { problem := "unknown anchor", mark := event.mark }
  | .scalar anchor content =>
      let (anchor, draft) := draft.number anchor
      .ok (draft.add (.scalar anchor event.mark content))
  | .sequenceStart anchor =>
      let (anchor, draft) := draft.number anchor
      .ok { draft with frames := .sequence anchor event.mark [] :: draft.frames }
  | .mappingStart anchor =>
      let (anchor, draft) := draft.number anchor
      .ok { draft with frames := .mapping anchor event.mark [] :: draft.frames }
  | .sequenceEnd => .ok draft.close
  | .mappingEnd => .ok draft.close
  | .documentStart => .ok draft
  | .documentEnd => .ok draft
  | .streamEnd => .ok draft

/-- The root of a document that goes no further: the open collections end with a failure. -/
def breakOff (failure : Failure) : List Frame → Option Node → Option Node
  | [], root => root
  | frame :: [], _ => some (frame.close (some failure))
  | frame :: outer :: frames, root =>
      breakOff failure (outer.add (frame.close (some failure)) :: frames) root
termination_by frames => frames.length

def abandon (draft : Draft) (failure : Failure) : Document :=
  ⟨breakOff failure draft.frames draft.root, some failure, false⟩

/-- The document that some events tell of, when `failure` comes up behind them. -/
def run (draft : Draft) (failure : Option Failure) : List Event → Document
  | [] =>
      match failure with
      | some failure => draft.abandon failure
      | none => ⟨draft.root, none, false⟩
  | event :: rest =>
      match event.kind with
      | .documentEnd =>
          let isFollowed := match rest with
            | [] => failure.isSome
            | next :: _ => next.kind != .streamEnd
          ⟨draft.root, none, isFollowed⟩
      | _ =>
          match draft.step event with
          | .error failure => draft.abandon failure
          | .ok draft => draft.run failure rest

end Draft

/-- What a text holds. -/
def read (text : String) : Document :=
  let (events, failure) := events text.toList
  ({} : Draft).run failure events

end RepoSurvey.Yaml
