import RepoSurvey.Survey.Prompt
import RepoSurvey.Survey.Record
import RepoSurvey.Text.Decoding

/-!
# The way of a file

A file is recorded in stages.  Files that are not parsed are recorded at once.  The content of the others
is loaded, then parsed by a worker; if that goes well and summaries are wanted, the file waits for its
turn and a summary is asked for.  Whatever goes wrong is part of the record.
-/

namespace RepoSurvey

/-- What is to be done with each file. -/
structure RecordSettings where
  /-- Whether the schema of an array tells about its elements. -/
  describesItems : Bool := false
  /-- Whether the record of a parsed file holds its text. -/
  includesSource : Bool := false
  /-- How many characters of a file are told when its summary is asked for; nothing if no summaries
  are wanted. -/
  promptLimit : Option Nat := none
  deriving Repr

/-- How far the record of a file has come. -/
inductive Progress
  /-- The content has to be loaded. The size is what was said before the content is known. -/
  | loading (path : String) (sizeHint : Nat)
  | parsing (path : String) (content : ByteArray)
  /-- The record lacks only a summary, and the turn to ask for it has not come. -/
  | queued (record : FileRecord) (prompt : String)
  /-- The record lacks only the answer to a prompt. -/
  | asking (record : FileRecord) (prompt : String)
  | finished (record : FileRecord)

namespace Progress

def isFinished : Progress → Bool
  | finished _ => true
  | _ => false

/-- How many stages may be left. -/
def rank : Progress → Nat
  | loading .. => 4
  | parsing .. => 3
  | queued .. => 2
  | asking .. => 1
  | finished _ => 0

/-- The first stage of a file. -/
def start (path : String) (sizeHint : Nat) : Progress :=
  let category := Category.ofPath path
  if category.isParsed then loading path sizeHint
  else finished
    { path, category, outcome := .skipped category.skipReason, sourceSize := sizeHint }

/-- What follows when the content is loaded, or cannot be loaded. -/
def loaded (path : String) (sizeHint : Nat) : Except FileError ByteArray → Progress
  | .ok content => parsing path content
  | .error error => finished
      { path, category := Category.ofPath path, outcome := .failed error, sourceSize := sizeHint }

/-- What follows when the worker that parses the content is done, or lost for a reason. -/
def parsed (languages : Languages) (settings : RecordSettings) (path : String)
    (content : ByteArray) (lost : Option String) : Progress :=
  let category := Category.ofPath path
  let text := decodeText content
  let recordOf (outcome : FileOutcome) (sourceCode : Option String) : FileRecord :=
    { path, category, outcome, sourceSize := content.size, sourceCode }
  let source := if settings.includesSource then some text else none
  match lost, languages.represent settings.describesItems category path text with
  | some reason, _ => finished (recordOf (.failed (.worker reason)) none)
  | none, .error error => finished (recordOf (.failed (.parse error)) source)
  | none, .ok (.skipped reason) => finished (recordOf (.skipped reason) none)
  | none, .ok (.parsed representation) =>
      let record := recordOf (.parsed representation) source
      match settings.promptLimit with
      | some limit => queued record (summaryPrompt limit path text)
      | none => finished record

/-- What follows when the completion service has answered. -/
def summarized (record : FileRecord) (answer : Except String String) : Progress :=
  finished { record with summary := some (.ofAnswer answer) }

theorem rank_loaded (path : String) (sizeHint : Nat) (content : Except FileError ByteArray) :
    (loaded path sizeHint content).rank < 4 := by
  cases content <;> simp [loaded, rank]

theorem rank_parsed (languages : Languages) (settings : RecordSettings) (path : String)
    (content : ByteArray) (lost : Option String) :
    (parsed languages settings path content lost).rank < 3 := by
  unfold parsed
  dsimp only
  split
  · simp [rank]
  · simp [rank]
  · simp [rank]
  · split <;> simp [rank]

theorem rank_summarized (record : FileRecord) (answer : Except String String) :
    (summarized record answer).rank < 1 := by
  simp [summarized, rank]

end Progress

/-- What recording files needs from outside. -/
structure Services (m : Type → Type) (Source : Type) where
  load : Source → m (Except FileError ByteArray)
  /-- Waits for the worker that parses the file of a path. The answer is why the worker was lost, if it
  was. -/
  awaitWorker : String → m (Option String)
  /-- Waits until the completion service may be asked. -/
  awaitTurn : m Unit
  /-- Asks the completion service. -/
  complete : String → m (Except String String)

variable {m : Type → Type} [Monad m] {Source : Type}

/-- Takes a file through its next stage. -/
def Progress.next (languages : Languages) (settings : RecordSettings) (services : Services m Source)
    (source : Source) : Progress → m Progress
  | .loading path sizeHint => return .loaded path sizeHint (← services.load source)
  | .parsing path content =>
      return .parsed languages settings path content (← services.awaitWorker path)
  | .queued record prompt => do
      services.awaitTurn
      return .asking record prompt
  | .asking record prompt => return .summarized record (← services.complete prompt)
  | .finished record => return .finished record

/-- Takes a file through all stages that are left. -/
def Progress.complete (languages : Languages) (settings : RecordSettings)
    (services : Services m Source) (source : Source) (progress : Progress) : m FileRecord :=
  match progress with
  | .loading path sizeHint => do
      complete languages settings services source
        (.loaded path sizeHint (← services.load source))
  | .parsing path content => do
      complete languages settings services source
        (.parsed languages settings path content (← services.awaitWorker path))
  | .queued record prompt => do
      services.awaitTurn
      complete languages settings services source (.asking record prompt)
  | .asking record prompt => do
      complete languages settings services source
        (.summarized record (← services.complete prompt))
  | .finished record => return record
  termination_by progress.rank
  decreasing_by
    · exact Progress.rank_loaded ..
    · exact Progress.rank_parsed ..
    · simp [Progress.rank]
    · exact Progress.rank_summarized ..

/-- Records one file. -/
def recordFile (languages : Languages) (settings : RecordSettings) (services : Services m Source)
    (path : String) (sizeHint : Nat) (source : Source) : m FileRecord :=
  (Progress.start path sizeHint).complete languages settings services source

end RepoSurvey
