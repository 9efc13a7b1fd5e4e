import RepoSurvey.Proofs.Survey.Sources
import RepoSurvey.Survey.Run

/-!
# Answers show in summaries only

What a completion service answers is written into the summary of one file and changes nothing else.  Giving
one and the same answer to every question comes to the same as replacing all summaries in the end.
-/

namespace RepoSurvey

variable {σ Source : Type}

/-- The answer of a service that has nothing to say. -/
def noAnswer : Except String String := .error "no answer"

/-- A record whose summary says nothing, if it has one. -/
def FileRecord.silenced (record : FileRecord) : FileRecord :=
  { record with summary := record.summary.map fun _ => .ofAnswer noAnswer }

namespace Progress

/-- A file on its way to a record whose summary says nothing. -/
def silenced : Progress → Progress
  | loading path sizeHint => loading path sizeHint
  | parsing path content => parsing path content
  | queued record prompt => queued record.silenced prompt
  | asking record prompt => asking record.silenced prompt
  | finished record => finished record.silenced

@[simp] theorem isFinished_silenced (progress : Progress) :
    progress.silenced.isFinished = progress.isFinished := by
  cases progress <;> rfl

theorem silenced_start (path : String) (sizeHint : Nat) :
    (start path sizeHint).silenced = start path sizeHint := by
  rw [start]
  split <;> rfl

theorem silenced_loaded (path : String) (sizeHint : Nat) (content : Except FileError ByteArray) :
    (loaded path sizeHint content).silenced = loaded path sizeHint content := by
  cases content <;> rfl

theorem silenced_parsed (languages : Languages) (settings : RecordSettings) (path : String)
    (content : ByteArray) (lost : Option String) :
    (parsed languages settings path content lost).silenced =
      parsed languages settings path content lost := by
  unfold parsed
  dsimp only
  split
  · rfl
  · rfl
  · rfl
  · split <;> rfl

end Progress

/-- A service that asks the same questions and forgets the answers. -/
def Services.silenced (services : Services (StateM σ) Source) : Services (StateM σ) Source :=
  { services with
    complete := fun prompt => do
      let _ ← services.complete prompt
      return noAnswer }

namespace Window

def silenced (window : Window Source) : Window Source :=
  { window with
    delivered := window.delivered.map (·.silenced)
    inFlight := window.inFlight.map fun flight => { flight with progress := flight.progress.silenced } }

variable (languages : Languages) (settings : RecordSettings) (services : Services (StateM σ) Source)

theorem next_silenced (source : Source) (progress : Progress) :
    progress.silenced.next languages settings services.silenced source =
      Progress.silenced <$> progress.next languages settings services source := by
  cases progress with
  | loading path sizeHint =>
      refine StateT.ext fun state => ?_
      exact congrArg (fun progress => (progress, ((services.load source).run state).2))
        (Progress.silenced_loaded path sizeHint _).symm
  | parsing path content =>
      refine StateT.ext fun state => ?_
      exact congrArg (fun progress => (progress, ((services.awaitWorker path).run state).2))
        (Progress.silenced_parsed languages settings path content _).symm
  | queued record prompt => simp [Progress.next, Progress.silenced, Services.silenced]
  | asking record prompt =>
      simp [Progress.next, Progress.silenced, Services.silenced, Progress.summarized,
        FileRecord.silenced]
  | finished record => rfl

theorem possible_silenced (limit : Nat) (window : Window Source) :
    window.silenced.possible limit = window.possible limit := by
  simp [possible, silenced, Function.comp_def]

theorem after_silenced (limit : Nat) (window : Window Source) (event : Event) :
    window.silenced.after languages settings services.silenced limit event =
      silenced <$> window.after languages settings services limit event := by
  obtain ⟨delivered, inFlight, waiting⟩ := window
  cases event with
  | takeUp =>
      cases waiting with
      | nil => rfl
      | cons pending rest =>
          simp only [after, silenced, List.length_map]
          split
          · simp [silenced, Progress.silenced_start]
          · rfl
  | advance index =>
      simp only [after, silenced, List.getElem?_map]
      cases inFlight[index]? with
      | none => rfl
      | some flight => simp [next_silenced, silenced, List.map_set]
  | deliver =>
      cases inFlight with
      | nil => rfl
      | cons flight rest =>
          obtain ⟨source, progress⟩ := flight
          cases progress <;> rfl

theorem run_silenced (choose : List Event → StateM σ Nat) (limit events : Nat)
    (window : Window Source) :
    run languages settings services.silenced choose limit events window.silenced =
      silenced <$> run languages settings services choose limit events window :=
  run_alike (possible_silenced limit) (after_silenced languages settings services limit) choose
    events window

end Window

/-- Without answers the records are the same, but their summaries say nothing. -/
theorem recordFiles_silenced (languages : Languages) (settings : RecordSettings)
    (services : Services (StateM σ) Source) (choose : List Window.Event → StateM σ Nat)
    (limit : Nat) (files : List (Pending Source)) :
    recordFiles languages settings services.silenced choose limit files =
      List.map (·.silenced) <$> recordFiles languages settings services choose limit files := by
  have start : ({ waiting := files } : Window Source) = Window.silenced { waiting := files } := rfl
  rw [recordFiles, recordFiles, start, Window.run_silenced, bind_map_left, map_bind]
  simp [Window.silenced]

/-- A client that asks the same questions and forgets the answers. -/
def Summarizer.silenced (client : Summarizer (StateM σ)) : Summarizer (StateM σ) :=
  { client with
    complete := fun prompt => do
      let _ ← client.complete prompt
      return noAnswer }

theorem SurveySettings.recordAll_silenced (settings : SurveySettings) (languages : Languages)
    (load : Source → StateM σ (Except FileError ByteArray)) (client : Summarizer (StateM σ))
    (conditions : Conditions (StateM σ)) (files : List (Pending Source)) :
    settings.recordAll languages load (some client.silenced) conditions files =
      List.map (·.silenced) <$> settings.recordAll languages load (some client) conditions files :=
  recordFiles_silenced languages _ (services load (some client) conditions) conditions.choose
    settings.concurrency files

end RepoSurvey
