import RepoSurvey.Graph.Render

/-!
# Outlets

A graph can be written to anything that takes bytes.  An outlet takes as many bytes of an offer as it
likes, and the rest is offered again.  What it refuses is not offered again, and nothing after it.
-/

namespace RepoSurvey.Graph

/-- Why an outlet did not take any bytes of an offer. -/
inductive OutletFailure
  | refused (reason : String)
  /-- The outlet took nothing and told no reason. -/
  | nothingTaken
  deriving DecidableEq, Repr

/-- Why a document was not written as a whole. -/
inductive WriteError
  | io (failure : OutletFailure)
  deriving DecidableEq, Repr

/-- Anything that takes bytes, with a state of its own. -/
structure Outlet (σ : Type) where
  /-- Offers some bytes. The answer is how many of the first ones are taken, or why none is. An offer
  that is interrupted is made again, and only its last answer counts. -/
  offer : List UInt8 → StateM σ (Except String Nat)

namespace Outlet

variable {σ : Type}

/-- Offers bytes until all of them are taken. -/
def writeAll (outlet : Outlet σ) (bytes : List UInt8) : EStateM WriteError σ Unit := fun state =>
  match bytes with
  | [] => .ok () state
  | first :: rest =>
      match outlet.offer (first :: rest) state with
      | (.error reason, after) => .error (.io (.refused reason)) after
      | (.ok 0, after) => .error (.io .nothingTaken) after
      | (.ok (others + 1), after) => outlet.writeAll (rest.drop others) after
  termination_by bytes.length
  decreasing_by
    rw [List.length_drop, List.length_cons]
    omega

/-- Writes a text in its encoding. -/
def put (outlet : Outlet σ) (text : String) : EStateM WriteError σ Unit :=
  outlet.writeAll text.toUTF8.data.toList

end Outlet

/-- Writes the one-line document of a graph to an outlet. -/
def writeTo {σ : Type} (outlet : Outlet σ) (store : Store) (root : Value) :
    EStateM WriteError σ Unit :=
  writeWith outlet.put .compact store root

end RepoSurvey.Graph
