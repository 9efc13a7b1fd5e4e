import RepoSurvey.Files.Listing

/-!
# Disks

A disk holds a tree of files, directories and links, and a directory where relative paths start.  What
can be done with it follows the rules of the usual systems: links are followed on the way, names and
paths have a greatest length, and a file that is moved replaces the one at its destination.
-/

namespace RepoSurvey

/-- What stands at a place. -/
inductive Node
  | file (content : ByteArray)
  | directory (entries : List (String × Node))
  | link (target : String)
  deriving Inhabited

/-- The names that lead from the top of a tree to a place. -/
abbrev DiskPlace := List String

namespace Node

def isDirectory : Node → Bool
  | directory _ => true
  | _ => false

/-- What stands at a place, links not followed. -/
def at? : DiskPlace → Node → Option Node
  | [], node => some node
  | name :: rest, directory entries => (entries.lookup name).bind (at? rest)
  | _ :: _, _ => none

/-- Changes what stands under a name; nothing removes the name, and a new name comes last. -/
def changeEntry (name : String) (change : Option Node → Option Node) :
    List (String × Node) → List (String × Node)
  | [] => ((change none).map (name, ·)).toList
  | (first, node) :: rest =>
      if first == name then ((change (some node)).map (first, ·)).toList ++ rest
      else (first, node) :: changeEntry name change rest

/-- Puts something at a place whose directory exists, or removes what stands there. -/
def put : DiskPlace → Option Node → Node → Node
  | [], _, node => node
  | [name], new, directory entries => directory (changeEntry name (fun _ => new) entries)
  | name :: rest, new, directory entries =>
      directory (changeEntry name (Option.map (put rest new)) entries)
  | _ :: _, _, node => node

/-- Paths of this many bytes and more are refused. -/
def pathLimit : Nat := 4096

/-- Names of more bytes than this are refused. -/
def nameLimit : Nat := 255

mutual

/-- What a walk sees at a path. -/
def listing (path : String) : Node → Listing
  | file content => .file content.size
  | link _ => .other
  | directory entries =>
      if path.utf8ByteSize < pathLimit then .directory (listingOfEntries path entries)
      else .unreadable .nameTooLong

def listingOfEntries (path : String) : List (String × Node) → List (String × Listing)
  | [] => []
  | (name, node) :: rest =>
      (name, listing (Path.join path name) node) :: listingOfEntries path rest

end

end Node

structure Disk where
  top : Node := .directory []
  /-- Where relative paths start. -/
  start : DiskPlace := []
  /-- How many bytes can still be written; nothing means that there is no end to them. -/
  room : Option Nat := none
  deriving Inhabited

namespace Disk

/-- How many links are followed on one way. -/
def linkLimit : Nat := 40

/-- Follows names from a directory as far as a link, where `jump` goes on. -/
def followNames (top : Node) (jump : DiskPlace → List String → Except SystemError DiskPlace) :
    DiskPlace → List String → Except SystemError DiskPlace
  | place, [] => .ok place
  | place, name :: rest =>
      match top.at? place with
      | some (.directory _) =>
          if name == "." then followNames top jump place rest
          else if name == ".." then followNames top jump place.dropLast rest
          else if Node.nameLimit < name.utf8ByteSize then .error .nameTooLong
          else
            match top.at? (place ++ [name]) with
            | none => .error .notFound
            | some (.link target) =>
                jump (if Path.isAbsolute target then [] else place) (Path.names target ++ rest)
            | some _ => followNames top jump (place ++ [name]) rest
      | _ => .error .notDirectory

/-- Follows names from a directory, through so many links at most. -/
def follow (top : Node) : Nat → DiskPlace → List String → Except SystemError DiskPlace
  | 0 => followNames top fun _ _ => .error .tooManyLinks
  | links + 1 => followNames top (follow top links)

/-- Refuses texts that are no paths. -/
def checked (path : String) : Except SystemError Unit :=
  if path.toList.contains '\x00' then .error .endInPath
  else if path == "" then .error .notFound
  else if Node.pathLimit ≤ path.utf8ByteSize then .error .nameTooLong
  else .ok ()

/-- Where a path starts. -/
def origin (disk : Disk) (path : String) : DiskPlace := if Path.isAbsolute path then [] else disk.start

/-- The place that a path leads to. -/
def place (disk : Disk) (path : String) : Except SystemError DiskPlace := do
  checked path
  follow disk.top linkLimit (disk.origin path) (Path.names path)

/-- What stands where a path leads to. -/
def node (disk : Disk) (path : String) : Except SystemError Node := do
  match disk.top.at? (← disk.place path) with
  | some node => .ok node
  | none => .error .notFound

def isDirectory (disk : Disk) (path : String) : Bool :=
  match disk.node path with
  | .ok node => node.isDirectory
  | .error _ => false

def list (disk : Disk) (path : String) : Except SystemError Listing :=
  return (← disk.node path).listing path

def read (disk : Disk) (path : String) : Except SystemError ByteArray := do
  match ← disk.node path with
  | .file content => .ok content
  | _ => .error .isDirectory

/-- The directory in which a path names something, and the name; no name if it ends in a way that
cannot be a new name. -/
def entry (disk : Disk) (path : String) : Except SystemError (DiskPlace × Option String) := do
  checked path
  let names := Path.plainNames path
  let parent ← follow disk.top linkLimit (disk.origin path) names.dropLast
  match disk.top.at? parent with
  | some (.directory _) => .ok ()
  | _ => .error .notDirectory
  match names.getLast? with
  | none | some "." | some ".." => .ok (parent, none)
  | some name =>
      if Node.nameLimit < name.utf8ByteSize then .error .nameTooLong else .ok (parent, some name)

def put (disk : Disk) (place : DiskPlace) (new : Option Node) : Disk :=
  { disk with top := disk.top.put place new }

/-- Puts something at a path where nothing is yet. -/
def create (disk : Disk) (path : String) (node : Node) : Except SystemError Disk := do
  match ← disk.entry path with
  | (_, none) => .error .alreadyExists
  | (parent, some name) =>
      if (disk.top.at? (parent ++ [name])).isSome then .error .alreadyExists
      else .ok (disk.put (parent ++ [name]) (some node))

def makeDirectory (disk : Disk) (path : String) : Except SystemError Disk :=
  disk.create path (.directory [])

/-- A name for a file that is only there for a while. -/
def temporaryName (number : Nat) : String := ".tmp" ++ toString (100000 + number)

/-- A name that is not used yet. -/
def freshName (used : List String) : (number : Nat) → (tries : Nat) → String
  | number, 0 => temporaryName number
  | number, tries + 1 =>
      if used.contains (temporaryName number) then freshName used (number + 1) tries
      else temporaryName number

/-- Makes an empty file with a new name in a directory and tells its path. -/
def createTemporary (disk : Disk) (directory : String) : Except SystemError (String × Disk) := do
  let base := if directory == "" then "." else directory
  match ← disk.node base with
  | .directory entries =>
      let path := Path.join base (freshName (entries.map (·.1)) 0 entries.length)
      return (path, ← disk.create path (.file .empty))
  | _ => .error .notDirectory

/-- Writes bytes to the end of a file, as many as there is room for. -/
def append (disk : Disk) (path : String) (bytes : ByteArray) : Except SystemError Unit × Disk :=
  match disk.place path with
  | .error error => (.error error, disk)
  | .ok place =>
      match disk.top.at? place with
      | some (.file content) =>
          let written := (disk.room.map (min bytes.size)).getD bytes.size
          let longer := content ++ bytes.extract 0 written
          let disk := { disk.put place (some (.file longer)) with
            room := disk.room.map (· - written) }
          if written < bytes.size then (.error .diskFull, disk) else (.ok (), disk)
      | _ => (.error .isDirectory, disk)

/-- Moves a file. What stands at the destination is replaced, unless it is a directory. -/
def rename (disk : Disk) (source destination : String) : Except SystemError Disk := do
  let (sourceParent, sourceName) ← disk.entry source
  let (parent, name) ← disk.entry destination
  match sourceName, name with
  | some sourceName, some name =>
      match disk.top.at? (sourceParent ++ [sourceName]) with
      | none => .error .notFound
      | some moved =>
          let place := parent ++ [name]
          if Path.endsInSlash destination then .error .notDirectory
          else if place.isPrefixOf sourceParent then .error .notEmpty
          else if ((disk.top.at? place).map (·.isDirectory)).getD false then .error .isDirectory
          else if place == sourceParent ++ [sourceName] then .ok disk
          else .ok ((disk.put (sourceParent ++ [sourceName]) none).put place (some moved))
  | _, _ => .error .busy

/-- Removes a file or link. -/
def remove (disk : Disk) (path : String) : Disk :=
  match disk.entry path with
  | .ok (parent, some name) =>
      match disk.top.at? (parent ++ [name]) with
      | some (.directory _) | none => disk
      | some _ => disk.put (parent ++ [name]) none
  | _ => disk

end Disk

end RepoSurvey
