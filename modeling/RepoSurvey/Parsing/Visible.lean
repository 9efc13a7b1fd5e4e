import RepoSurvey.Parsing.Parser
import RepoSurvey.Syntax.Tree

/-!
# Visible trees

From a parser's subtree to a syntax tree: hidden nodes give way to their children, aliases replace
the names of symbols, and fields given to a hidden node pass to the visible nodes inside it.
-/

namespace RepoSurvey.Parsing

open Grammar

/-- A subtree in its place: the name that its parent gives it, its role there, and where it
starts, padding included. -/
structure PlacedSubtree where
  tree : Subtree
  shownAs : Option Alias
  field : Option String
  place : Extent
  deriving Inhabited

namespace PlacedSubtree

/-- The children of a subtree in their places. `passed` is the field that a hidden parent has been
given itself. -/
def ofChildren (table : ParseTable) (tree : Subtree) (place : Extent) (passed : Option String) :
    List PlacedSubtree := Id.run do
  let info := table.infos[tree.head.info]!
  let mut remaining := info.aliases
  let mut place := place
  let mut position := 0
  let mut placed : Array PlacedSubtree := #[]
  for child in tree.children do
    if child.isExtra then
      placed := placed.push ⟨child, none, none, place⟩
    else
      let own := info.fields.find? fun entry => !entry.inherited && entry.position == position
      placed := placed.push ⟨child, remaining.headD none, (own.map (·.name)) <|> passed, place⟩
      remaining := remaining.tail
      position := position + 1
    place := place.add child.totalSize
  return placed.toList

def isVisible (placed : PlacedSubtree) : Bool :=
  placed.shownAs.isSome || placed.tree.head.isVisible

def placeOf (extent : Extent) : Place := ⟨extent.bytes, extent.row, extent.column⟩

def label (table : ParseTable) (placed : PlacedSubtree) : SyntaxLabel :=
  let head := placed.tree.head
  let info := table.symbol head.symbol
  let start := placed.place.add head.padding
  { kind := placed.shownAs.elim info.name (·.name)
    isNamed := placed.shownAs.elim info.isNamed (·.isNamed)
    field := placed.field
    start := placeOf start
    stop := placeOf (start.add head.size)
    isError := placed.tree.isError
    isMissing := head.isMissing
    hasError := 0 < placed.tree.errorCost }

end PlacedSubtree

/-- A visible node under construction. -/
structure OpenNode where
  label : SyntaxLabel
  pending : List PlacedSubtree
  /-- The finished children, the last first. -/
  done : List SyntaxNode

/-- Builds visible nodes from the innermost open one outwards. -/
def closeNodes (table : ParseTable) : Nat → OpenNode → List OpenNode → Option SyntaxNode
  | 0, _, _ => none
  | fuel + 1, current, outer =>
      match current.pending with
      | [] =>
          let finished := SyntaxNode.node current.label current.done.reverse
          match outer with
          | [] => some finished
          | parent :: rest =>
              closeNodes table fuel { parent with done := finished :: parent.done } rest
      | placed :: rest =>
          let current := { current with pending := rest }
          if placed.isVisible then
            let fresh : OpenNode :=
              ⟨placed.label table, PlacedSubtree.ofChildren table placed.tree placed.place none, []⟩
            closeNodes table fuel fresh (current :: outer)
          else
            let inside := PlacedSubtree.ofChildren table placed.tree placed.place placed.field
            closeNodes table fuel { current with pending := inside ++ rest } outer

namespace Language

/-- The syntax tree of a text. -/
def parse? (language : Language) (text : String) : Option SyntaxNode :=
  let source : Source := text.toList.toArray
  match language.subtree? source with
  | none => none
  | some tree =>
      let table := language.table
      let placed : PlacedSubtree := ⟨tree, none, none, {}⟩
      closeNodes table (4096 * (text.utf8ByteSize + 64))
        ⟨placed.label table, PlacedSubtree.ofChildren table tree {} none, []⟩ []

end Language

end RepoSurvey.Parsing
