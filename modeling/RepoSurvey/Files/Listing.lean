import RepoSurvey.Files.Path
import RepoSurvey.Files.SystemError

/-!
# Walking directories

A walk finds the files below a directory, in the order of their names, component by component.  Some
directories are ignored by name, links are not followed, and a directory that cannot be read stops the
walk.
-/

namespace RepoSurvey

/-- What a walk can see at a path. The entries of a directory come in any order. -/
inductive Listing
  | file (size : Nat)
  | directory (entries : List (String × Listing))
  /-- A directory that cannot be read. -/
  | unreadable (error : SystemError)
  /-- Links, devices and the like. -/
  | other

inductive WalkError
  /-- Nothing is known of the place where the walk should start. -/
  | noRoot (path : String) (error : SystemError)
  | rootNotDirectory (path : String)
  | unreadable (path : String) (error : SystemError)
  deriving DecidableEq, Repr

namespace WalkError

def display : WalkError → String
  | noRoot path error =>
      "root " ++ path ++ " is not a readable directory: " ++ error.display
  | rootNotDirectory path => "root " ++ path ++ " is not a directory"
  | unreadable path error => "failed to read " ++ path ++ ": " ++ error.display

/-- What lies behind an error. -/
def cause? : WalkError → Option SystemError
  | noRoot _ error | unreadable _ error => some error
  | rootNotDirectory _ => none

end WalkError

/-- A file found by a walk. -/
structure FoundFile where
  path : String
  /-- The components below the root of the walk, with slashes between them. -/
  relative : String
  size : Nat
  deriving BEq, DecidableEq, Repr

/-- Puts what was found under several names in the order of the names. The first failure in that order
counts. -/
def inNameOrder {ε α : Type} (found : List (String × Except ε (List α))) : Except ε (List α) :=
  let sorted := found.mergeSort fun left right => !decide (right.1 < left.1)
  (sorted.mapM Prod.snd).map List.flatten

/-- The names of the directories that a walk does not enter. -/
abbrev IgnoredNames := List String

namespace IgnoredNames

/-- The names that are ignored unless others are chosen. -/
def standard : IgnoredNames := ["node_modules"]

def ignores (names : IgnoredNames) (name : String) : Bool := names.contains name

/-- Whether a path leads through an ignored directory. The last component does not count. -/
def ignoresPath (names : IgnoredNames) (path : String) : Bool :=
  ((splitAt '/' path.toList).dropLast.map String.ofList).any names.ignores

end IgnoredNames

namespace Listing

def isDirectory : Listing → Bool
  | directory _ | unreadable _ => true
  | file _ | other => false

mutual

/-- The files at a path and below it. `below` are the components below the root of the walk. -/
def files (ignored : IgnoredNames) (path : String) (below : List String) :
    Listing → Except WalkError (List FoundFile)
  | file size => .ok [⟨path, "/".intercalate below, size⟩]
  | directory entries => inNameOrder (filesOfEntries ignored path below entries)
  | unreadable error => .error (.unreadable path error)
  | other => .ok []

/-- The files of each entry of a directory. -/
def filesOfEntries (ignored : IgnoredNames) (path : String) (below : List String) :
    List (String × Listing) → List (String × Except WalkError (List FoundFile))
  | [] => []
  | (name, listing) :: rest =>
      let found :=
        if listing.isDirectory && ignored.ignores name then .ok []
        else files ignored (Path.join path name) (below ++ [name]) listing
      (name, found) :: filesOfEntries ignored path below rest

end

/-- Walks through a directory. -/
def walk (ignored : IgnoredNames) (root : String) :
    Except SystemError Listing → Except WalkError (List FoundFile)
  | .error error => .error (.noRoot root error)
  | .ok listing =>
      if listing.isDirectory then listing.files ignored root [] else .error (.rootNotDirectory root)

end Listing

end RepoSurvey
