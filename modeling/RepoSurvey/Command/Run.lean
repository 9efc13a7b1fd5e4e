import RepoSurvey.Command.Arguments
import RepoSurvey.Environment
import RepoSurvey.Web.Completion
import RepoSurvey.Web.Host
import RepoSurvey.Web.Sandbox

/-!
# Running commands

A command loads its configuration, does its work and tells in a few words what came of it.  A survey
that fails leaves no artifact behind.  The program around the commands reads the command line and tells
the texts of an error, the outermost first.
-/

namespace RepoSurvey

/-- What a command does its work with. -/
structure World (m : Type → Type) where
  files : FileOperations m
  web : Web m
  /-- Waits for a turn. Two turns are at least this many milliseconds apart. -/
  awaitTurn : Nat → m Unit
  /-- Why no client for the web can be made that waits so many seconds for a reply, if none can. -/
  clientFailure : Nat → Option String := fun _ => none

/-- Why a command failed. -/
inductive RunError
  | configuration (error : ConfigurationError)
  | noSummarizer (reason : String)
  | noHost (reason : String)
  | noSandbox (reason : String)
  | survey (error : SurveyError)
  | publish (error : PublishError)
  deriving DecidableEq, Repr

namespace RunError

/-- The texts of an error and of what lies behind it, the outermost first. -/
def causes : RunError → List String
  | configuration error => error.causes
  | noSummarizer reason => ["Failed to construct completion client: " ++ reason]
  | noHost reason => ["Failed to construct repository client: " ++ reason]
  | noSandbox reason => ["Failed to construct sandbox client: " ++ reason]
  | survey error => error.causes
  | publish error => [error.message]

/-- Puts a margin in front of the lines of a text, and another one in front of its first line. -/
def indent (first margin text : String) : String :=
  first ++ ("\n" ++ margin).intercalate ((splitAt '\n' text.toList).map String.ofList)

/-- What lies behind an error, a line for each text. Several texts are numbered. -/
def reasons : List String → String
  | [] => ""
  | [cause] => "\nCaused by:\n" ++ indent "    " "    " cause ++ "\n"
  | causes =>
      let lines := (causes.zipIdx).map fun (cause, number) =>
        let shown := toString number
        indent ("".pushn ' ' (5 - shown.length) ++ shown ++ ": ") "       " cause ++ "\n"
      "\nCaused by:\n" ++ String.join lines

/-- All that is told about an error. -/
def message (error : RunError) : String :=
  let causes := error.causes
  "Error: " ++ causes.headD "" ++ "\n" ++ reasons (causes.drop 1)

end RunError

namespace World

variable {m : Type → Type} [Monad m]

def configuration (world : World m) (environment : Environment) (path : Option String) :
    ExceptT RunError m Configuration :=
  ExceptT.adapt RunError.configuration (Configuration.load world.files environment.get? path)

/-- The summarizer that is asked for, if any is. -/
def summarizer (world : World m) (settings : SummarySettings) :
    Except RunError (Option (Summarizer m)) :=
  if settings.isEnabled then
    match settings.summarizer world.web (world.awaitTurn settings.interval) with
    | .ok summarizer => .ok (some summarizer)
    | .error reason => .error (.noSummarizer reason)
  else .ok none

/-- Makes a client for the web. -/
def client (world : World m) (timeout : Nat) (failed : String → RunError) : Except RunError Unit :=
  match world.clientFailure timeout with
  | some reason => .error (failed reason)
  | none => .ok ()

/-- The summarizer that is asked for, together with its client for the web. -/
def connectedSummarizer (world : World m) (settings : SummarySettings) :
    Except RunError (Option (Summarizer m)) := do
  let summarizer ← world.summarizer settings
  if summarizer.isSome then world.client settings.timeout .noSummarizer
  return summarizer

/-- Surveys the files below a directory as a configuration asks for it. -/
def surveyDirectory (world : World m) (languages : Languages) (root : String)
    (configuration : Configuration) : ExceptT RunError m Aggregate := do
  let summarizer ← ExceptT.mk (pure (world.connectedSummarizer configuration.summaries))
  ExceptT.adapt (RunError.survey ∘ SurveyError.traversal)
    (configuration.survey.surveyDirectory languages world.files summarizer root)

/-- Surveys a repository as a configuration asks for it. -/
def surveyRepository (world : World m) (languages : Languages) (owner name : String)
    (configuration : Configuration) : ExceptT RunError m Aggregate := do
  ExceptT.mk (pure (world.client configuration.host.timeout .noHost))
  let summarizer ← ExceptT.mk (pure (world.connectedSummarizer configuration.summaries))
  let host := configuration.host.repository world.web owner name
  ExceptT.lift (configuration.survey.surveyRepository languages host summarizer)

/-- Loads a configuration, surveys what is asked for and keeps the artifact under a name. `report` is what
is told about the survey and the path of its artifact. -/
def keepSurvey (world : World m) (environment : Environment) (config : Option String)
    (survey : Configuration → ExceptT RunError m Aggregate) (output : String)
    (report : Aggregate → String → String) : ExceptT RunError m String := do
  let configuration ← world.configuration environment config
  let aggregate ← survey configuration
  let path ← ExceptT.adapt RunError.survey
    (aggregate.write world.files configuration.outputDirectory output)
  return report aggregate path

end World

namespace Command

variable {m : Type → Type} [Monad m]

/-- What is told about the survey of a directory. -/
def directoryReport (aggregate : Aggregate) (path : String) : String :=
  "Analyzed " ++ toString aggregate.files.length ++ " files, written to " ++ path ++ "\n"

/-- What is told about the survey of a repository. -/
def repositoryReport (owner name : String) (aggregate : Aggregate) (path : String) : String :=
  "Analyzed " ++ toString aggregate.files.length ++ " files of " ++ owner ++ "/" ++ name ++
    ", written to " ++ path ++ "\n"

/-- Runs a command and tells what is said at its end. -/
def run (languages : Languages) (world : World m) (environment : Environment) :
    Command → ExceptT RunError m String
  | surveyDirectory root config output =>
      world.keepSurvey environment config (world.surveyDirectory languages root) output
        directoryReport
  | surveyRepository owner name config =>
      world.keepSurvey environment config (world.surveyRepository languages owner name)
        (artifactName name) (repositoryReport owner name)
  | publish file config => do
      let configuration ← world.configuration environment config
      ExceptT.mk (pure (world.client configuration.sandbox.timeout .noSandbox))
      let sandbox ← ExceptT.adapt RunError.publish
        (configuration.sandbox.publishFile world.files world.web file)
      return "Preview: " ++ sandbox.previewAddress ++ "\nEditor:  " ++ sandbox.editorAddress ++ "\n"

end Command

/-- What the program shows at its end. -/
structure Outcome where
  /-- What the program returns: 0 for success, 1 for a failure, 2 for a command line that is refused. -/
  status : Nat
  output : String := ""
  complaint : String := ""
  deriving BEq, DecidableEq, Repr

namespace Outcome

def ofUsageError (error : Command.UsageError) : Outcome :=
  if error.isAnswer then { status := 0, output := error.message }
  else { status := 2, complaint := error.message }

def ofResult : Except RunError String → Outcome
  | .ok output => { status := 0, output }
  | .error error => { status := 1, complaint := error.message }

end Outcome

/-- Runs the program in a directory. -/
def runProgram {m : Type → Type} [Monad m] (languages : Languages) (world : World m)
    (environment : Environment) (directory : String) (arguments : List String) : m Outcome := do
  let environment ← environment.load world.files (directory :: Path.parents directory)
  match Command.read arguments with
  | .error error => return .ofUsageError error
  | .ok command => return .ofResult (← (command.run languages world environment).run)

end RepoSurvey
