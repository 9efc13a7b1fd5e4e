import RepoSurvey.Syntax.Tree
import RepoSurvey.Text.Trim

/-!
# The first error of a syntax tree

Which error is reported, and how it is worded.
-/

namespace RepoSurvey

/-- The text between two byte positions, or nothing if they do not lie between characters. -/
def textBetween (text : String) (start stop : Nat) : String :=
  if start ≤ stop && stop ≤ text.utf8ByteSize &&
      (String.Pos.Raw.mk start).isValid text && (String.Pos.Raw.mk stop).isValid text then
    String.Pos.Raw.extract text ⟨start⟩ ⟨stop⟩
  else ""

namespace SyntaxNode

def text (source : String) (tree : SyntaxNode) : String :=
  textBetween source tree.startByte tree.stopByte

def isFault (tree : SyntaxNode) : Bool := tree.label.isError || tree.label.isMissing

/-- The first node in document order that is an error or a missing token. Subtrees without errors
are passed over. -/
def firstFault? : List SyntaxNode → Option SyntaxNode
  | [] => none
  | tree :: rest =>
      if tree.isFault then some tree
      else if tree.label.hasError then firstFault? (tree.children ++ rest)
      else firstFault? rest
  termination_by pending => sizeOfList pending
  decreasing_by
    · rw [sizeOfList_append, sizeOfList, size_eq]
      omega
    · rw [sizeOfList, size_eq]
      omega

/-- How a fault is described. Lines and columns count from one. -/
def describeFault (source : String) (fault : SyntaxNode) : String :=
  let start := fault.label.start
  let place := s!"at line {start.row + 1}, column {start.column + 1}"
  if fault.label.isMissing then "missing `" ++ fault.kind ++ "` " ++ place
  else "unexpected `" ++ firstChars 40 (fault.text source) ++ "` " ++ place

/-- The description of the first error of a document. -/
def describeFirstError (source : String) (root : SyntaxNode) : String :=
  (firstFault? [root]).elim "syntax error" (describeFault source)

end SyntaxNode

end RepoSurvey
