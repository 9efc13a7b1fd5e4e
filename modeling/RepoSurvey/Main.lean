import RepoSurvey.Command.Run
import RepoSurvey.Survey.Limiter

/-!
# The program

The command line, worked off on the files of the computer.  Nothing is connected to the web here, so no
request is answered.
-/

namespace RepoSurvey.Program

/-- The reason that the system gives. -/
def systemError : IO.Error → SystemError
  | .alreadyExists _ number reason | .interrupted _ number reason
  | .noFileOrDirectory _ number reason | .invalidArgument _ number reason
  | .permissionDenied _ number reason | .resourceExhausted _ number reason
  | .inappropriateType _ number reason | .noSuchThing _ number reason
  | .otherError number reason | .resourceBusy number reason | .resourceVanished number reason
  | .unsupportedOperation number reason | .hardwareFault number reason
  | .unsatisfiedConstraints number reason | .illegalOperation number reason
  | .protocolError number reason | .timeExpired number reason => ⟨reason, some number.toNat⟩
  | .unexpectedEof => ⟨"unexpected end of file", none⟩
  | .userError reason => ⟨reason, none⟩

def attempt {α : Type} (action : IO α) : ExceptT SystemError IO α :=
  ExceptT.mk do
    try return .ok (← action) catch error => return .error (systemError error)

/-- What a walk can see at a path. Links are only followed at its start. -/
partial def list (isStart : Bool) (path : String) : ExceptT SystemError IO Listing := do
  let place := (← attempt IO.currentDir) / path
  let metadata ← attempt (if isStart then place.metadata else place.symlinkMetadata)
  match metadata.type with
  | .file => return .file metadata.byteSize.toNat
  | .dir =>
      match ← ExceptT.lift (attempt place.readDir).run with
      | .error error => return .unreadable error
      | .ok entries =>
          return .directory (← entries.toList.mapM fun entry => do
            match ← ExceptT.lift (list false (Path.join path entry.fileName)).run with
            | .ok listing => return (entry.fileName, listing)
            | .error error => return (entry.fileName, .unreadable error))
  | _ => return .other

def isDirectory (path : String) : IO Bool := do
  try return (← ((← IO.currentDir) / path).metadata).type == .dir catch _ => return false

/-- Makes an empty file with a new name, the number of which is not less than some number. -/
def createTemporary (directory : String) (number : Nat) : (tries : Nat) → ExceptT SystemError IO String
  | 0 => throw .alreadyExists
  | tries + 1 => do
      let path := Path.join directory (Disk.temporaryName number)
      match ← ExceptT.lift (attempt (IO.FS.Handle.mk path .writeNew)).run with
      | .ok _ => return path
      | .error error =>
          if error == .alreadyExists then createTemporary directory (number + 1) tries
          else throw error

def files : FileOperations IO where
  list := list true
  read path := attempt (IO.FS.readBinFile path)
  isDirectory
  makeDirectory path := attempt (IO.FS.createDir path)
  createTemporary directory :=
    createTemporary (if directory == "" then "." else directory) 0 65536
  append path bytes := attempt do (← IO.FS.Handle.mk path .append).write bytes
  rename source destination := attempt (IO.FS.rename source destination)
  remove path := do
    try IO.FS.removeFile path catch _ => return

/-- Waits for a turn. -/
def awaitTurn (last : IO.Ref Limiter) (interval : Nat) : IO Unit := do
  let limiter ← last.get
  let limiter := { limiter with interval, now := ← IO.monoMsNow }
  let served := limiter.acquire
  IO.sleep (min (served.now - limiter.now) (UInt32.size - 1)).toUInt32
  last.set served

/-- The variables that the program was started with. -/
def environment : IO Environment := do
  try
    let entries := (← IO.FS.readBinFile "/proc/self/environ").toList
    return (entries.splitOn 0).filterMap fun bytes => do
      let text ← String.fromUTF8? ⟨bytes.toArray⟩
      let name := text.toList.takeWhile (· != '=')
      return (String.ofList name, String.ofList (text.toList.drop (name.length + 1)))
  catch _ => return []

/-- The languages of scripts, each made when it is first needed. -/
def languages : IO Languages := do
  let dialects ← IO.mkRef [Script.Dialect.tsx, .typescript]
  let made := (← dialects.get).map fun dialect => (dialect, Thunk.mk fun _ => scriptLanguage dialect)
  return { script := fun dialect => ((made.lookup dialect).map Thunk.get).getD (scriptLanguage dialect) }

end RepoSurvey.Program

open RepoSurvey in
def main (arguments : List String) : IO UInt32 := do
  let last ← IO.mkRef ({ interval := 0 } : Limiter)
  let world : World IO :=
    { files := Program.files, web := { send := fun _ => return none }
      awaitTurn := Program.awaitTurn last }
  let directory := toString (← IO.currentDir)
  let outcome ← runProgram (← Program.languages) world (← Program.environment) directory arguments
  IO.print outcome.output
  IO.eprint outcome.complaint
  return outcome.status.toUInt32
