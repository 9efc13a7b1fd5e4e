import RepoSurvey.Files.Disk

/-!
# Working with files

The things a program asks of a file system, and what is built from them: making a directory together
with the directories above it, and putting a text in place in one step, so that nobody ever sees half
of it.
-/

namespace RepoSurvey

structure FileOperations (m : Type → Type) where
  /-- What a walk can see at a path. -/
  list : String → ExceptT SystemError m Listing
  read : String → ExceptT SystemError m ByteArray
  isDirectory : String → m Bool
  makeDirectory : String → ExceptT SystemError m Unit
  /-- Makes an empty file with a new name in a directory and tells its path. -/
  createTemporary : String → ExceptT SystemError m String
  append : String → ByteArray → ExceptT SystemError m Unit
  rename : String → String → ExceptT SystemError m Unit
  remove : String → m Unit

namespace FileOperations

variable {m : Type → Type} [Monad m]

/-- Reads a file that holds a text. -/
def readText (files : FileOperations m) (path : String) : ExceptT SystemError m String := do
  match String.fromUTF8? (← files.read path) with
  | some text => return text
  | none => throw .notText

/-- Makes the first of some directories, each inside the next one. Directories that are there already
do not matter; those that are missing are made first. -/
def makeDirectories (files : FileOperations m) : List String → ExceptT SystemError m Unit
  | [] => throw .noStart
  | path :: parents => do
      if path == "" then return
      let unlessThere (error : SystemError) : ExceptT SystemError m Unit := do
        unless ← files.isDirectory path do throw error
      tryCatch (files.makeDirectory path) fun error => do
        if error == .notFound then
          files.makeDirectories parents
          tryCatch (files.makeDirectory path) unlessThere
        else unlessThere error

/-- Puts a text in a file of a directory, which is made if need be. The text is written to a file with
a new name first; that file takes the place of the old one only when it is complete. -/
def replaceText (files : FileOperations m) (directory destination text : String) :
    ExceptT SystemError m Unit := do
  files.makeDirectories (directory :: Path.parents directory)
  let temporary ← files.createTemporary directory
  let moved : ExceptT SystemError m Unit := do
    files.append temporary text.toUTF8
    files.rename temporary destination
  tryCatch moved fun error => do
    files.remove temporary
    throw error

end FileOperations

namespace Disk

/-- Something that may change a disk. -/
def attempt {α : Type} (change : Disk → Except SystemError (α × Disk)) :
    ExceptT SystemError (StateM Disk) α := fun disk =>
  match change disk with
  | .ok (result, changed) => (.ok result, changed)
  | .error error => (.error error, disk)

/-- Working on a disk. -/
def operations : FileOperations (StateM Disk) where
  list path := attempt fun disk => return (← disk.list path, disk)
  read path := attempt fun disk => return (← disk.read path, disk)
  isDirectory path := fun disk => (disk.isDirectory path, disk)
  makeDirectory path := attempt fun disk => return ((), ← disk.makeDirectory path)
  createTemporary directory := attempt fun disk => disk.createTemporary directory
  append path bytes := fun disk => disk.append path bytes
  rename source destination := attempt fun disk => return ((), ← disk.rename source destination)
  remove path := fun disk => ((), disk.remove path)

end Disk

end RepoSurvey
