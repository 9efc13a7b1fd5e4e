import RepoSurvey.Files.Operations
import RepoSurvey.Survey.Window

/-!
# Surveys

A survey records every file below a directory, or every file of a repository on a host.  What goes wrong
with one file stays in its record; only a failed walk, or an artifact that cannot be written, ends a
survey.
-/

namespace RepoSurvey

/-- Who writes summaries. -/
structure Summarizer (m : Type → Type) where
  /-- How many characters of a file are told. -/
  promptLimit : Nat
  /-- Waits until the completion service may be asked. -/
  awaitTurn : m Unit
  /-- Asks the completion service. -/
  complete : String → m (Except String String)

/-- Asks for the summary of a text. -/
def Summarizer.summarize {m : Type → Type} [Monad m] (summarizer : Summarizer m)
    (path content : String) : m Summary := do
  summarizer.awaitTurn
  return .ofAnswer (← summarizer.complete (summaryPrompt summarizer.promptLimit path content))

/-- A file of a repository on a host. -/
structure RemoteFile where
  path : String
  /-- The address of the content. -/
  hash : String
  size : Option Nat := none
  deriving BEq, DecidableEq, Repr

/-- A host of repositories, asked about one of them. -/
structure RepositoryHost (m : Type → Type) where
  metadata : m (Except String RepositoryMetadata)
  listFiles : m (Except String (List RemoteFile))
  fetch : RemoteFile → m (Except String ByteArray)

/-- How a survey is to be made. -/
structure SurveySettings where
  ignored : IgnoredNames := .standard
  /-- How many files are recorded at the same time; at least one is. -/
  concurrency : Nat := 4
  describesItems : Bool := false
  includesSource : Bool := false
  deriving Repr

inductive SurveyError
  | traversal (error : WalkError)
  | write (path : String) (error : SystemError)
  deriving DecidableEq, Repr

namespace SurveyError

def display : SurveyError → String
  | traversal error => "traversal failed: " ++ error.display
  | write path error => "failed to write artifact " ++ path ++ ": " ++ error.display

/-- The texts of an error and of what lies behind it, the outermost first. -/
def causes : SurveyError → List String
  | traversal error =>
      (traversal error).display :: error.display ::
        (error.cause?.map SystemError.display).toList
  | write path error => [(write path error).display, error.display]

end SurveyError

namespace SurveySettings

variable {m : Type → Type} [Monad m]

def recordSettings (settings : SurveySettings) (summarizer : Option (Summarizer m)) :
    RecordSettings :=
  { describesItems := settings.describesItems
    includesSource := settings.includesSource
    promptLimit := summarizer.map (·.promptLimit) }

/-- What recording needs, when content comes from `load`. -/
def services {Source : Type} (load : Source → m (Except FileError ByteArray))
    (summarizer : Option (Summarizer m)) (conditions : Conditions m) : Services m Source where
  load
  awaitWorker := conditions.awaitWorker
  awaitTurn := match summarizer with
    | some summarizer => summarizer.awaitTurn
    | none => pure ()
  complete := match summarizer with
    | some summarizer => summarizer.complete
    | none => fun _ => pure (.error "no completion service")

/-- Records a single file whose content comes from `load`. -/
def record (settings : SurveySettings) (languages : Languages) {Source : Type}
    (load : Source → m (Except FileError ByteArray)) (summarizer : Option (Summarizer m))
    (path : String) (sizeHint : Nat) (source : Source) : m FileRecord :=
  recordFile languages (settings.recordSettings summarizer) (services load summarizer .calm)
    path sizeHint source

/-- Records files in the order of a list. -/
def recordAll (settings : SurveySettings) (languages : Languages) {Source : Type}
    (load : Source → m (Except FileError ByteArray)) (summarizer : Option (Summarizer m))
    (conditions : Conditions m) (files : List (Pending Source)) : m (List FileRecord) :=
  recordFiles languages (settings.recordSettings summarizer) (services load summarizer conditions)
    conditions.choose settings.concurrency files

/-- Reads the content of a file on a disk. -/
def loadFrom (files : FileOperations m) (path : String) : m (Except FileError ByteArray) := do
  match ← files.read path with
  | .ok content => return .ok content
  | .error error => return .error (.read error.display)

/-- Surveys the files below a directory. -/
def surveyDirectory (settings : SurveySettings) (languages : Languages) (files : FileOperations m)
    (summarizer : Option (Summarizer m)) (root : String) (conditions : Conditions m := .calm) :
    ExceptT WalkError m Aggregate := do
  let listing ← ExceptT.lift (files.list root).run
  let found ← ExceptT.mk (pure (Listing.walk settings.ignored root listing))
  let pending := found.map fun file =>
    ({ path := file.relative, sizeHint := file.size, source := file.path } : Pending String)
  let records ← ExceptT.lift
    (settings.recordAll languages (loadFrom files) summarizer conditions pending)
  return { files := records }

/-- Fetches the content of a file from a host. -/
def fetchFrom (host : RepositoryHost m) (file : RemoteFile) : m (Except FileError ByteArray) := do
  match ← host.fetch file with
  | .ok content => return .ok content
  | .error reason => return .error (.fetch reason)

/-- Surveys a repository. Without an answer about it there is no metadata, and without a listing there
are no files. -/
def surveyRepository (settings : SurveySettings) (languages : Languages) (host : RepositoryHost m)
    (summarizer : Option (Summarizer m)) (conditions : Conditions m := .calm) : m Aggregate := do
  let metadata := (← host.metadata).toOption
  let listed := (← host.listFiles).toOption.getD []
  let wanted := listed.filter fun file => !settings.ignored.ignoresPath file.path
  let pending := wanted.map fun file =>
    ({ path := file.path, sizeHint := file.size.getD 0, source := file } : Pending RemoteFile)
  let files ← settings.recordAll languages (fetchFrom host) summarizer conditions pending
  return { metadata, files }

end SurveySettings

/-- The name of the artifact of a repository. -/
def artifactName (repository : String) : String :=
  (repository ++ ".json").map fun character =>
    if character == '/' || character == '\\' || character == ':' then '_' else character

/-- Writes the document of a survey to a file of a directory and tells its path. -/
def Aggregate.write {m : Type → Type} [Monad m] (aggregate : Aggregate) (files : FileOperations m)
    (directory name : String) : ExceptT SurveyError m String := do
  let destination := Path.join directory name
  ExceptT.adapt (SurveyError.write destination)
    (files.replaceText directory destination aggregate.text)
  return destination

end RepoSurvey
