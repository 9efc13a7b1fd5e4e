import RepoSurvey.Survey.Window

/-!
# Files recorded alone

When it is settled what comes of loading each file, of the worker that parses it and of the question
about it, then the record of a file is settled as well.  It does not matter in which state the outside
is when the file goes through its stages.
-/

namespace RepoSurvey

/-! ## What an action gives -/

/-- Whatever the state of the outside is, an action gives something that is accepted. -/
def Yields {σ α : Type} (action : StateM σ α) (accepts : α → Prop) : Prop :=
  ∀ state, accepts (action.run state).1

namespace Yields

variable {σ α β : Type}

theorem pure {value : α} {accepts : α → Prop} (isAccepted : accepts value) :
    Yields (Pure.pure value : StateM σ α) accepts :=
  fun _ => isAccepted

theorem bind {action : StateM σ α} {next : α → StateM σ β} {accepts : α → Prop}
    {acceptsNext : β → Prop} (first : Yields action accepts)
    (others : ∀ value, accepts value → Yields (next value) acceptsNext) :
    Yields (action >>= next) acceptsNext :=
  fun state => others _ (first state) _

theorem trivially (action : StateM σ α) : Yields action fun _ => True := fun _ => trivial

end Yields

/-! ## What comes of a file -/

/-- What comes of loading a file, of the worker that parses the file of a path, and of a question. -/
structure Outcomes (Source : Type) where
  content : Source → Except FileError ByteArray
  lost : String → Option String
  answer : String → Except String String

variable {σ Source : Type}

/-- Services that give these outcomes, whenever they are asked. -/
structure Services.Give (services : Services (StateM σ) Source) (outcomes : Outcomes Source) :
    Prop where
  load : ∀ source, Yields (services.load source) (· = outcomes.content source)
  awaitWorker : ∀ path, Yields (services.awaitWorker path) (· = outcomes.lost path)
  complete : ∀ prompt, Yields (services.complete prompt) (· = outcomes.answer prompt)

namespace Outcomes

/-- Services without an outside. -/
def services (outcomes : Outcomes Source) : Services Id Source where
  load := outcomes.content
  awaitWorker := outcomes.lost
  awaitTurn := pure ()
  complete := outcomes.answer

/-- The record that a file has in the end. -/
def completed (outcomes : Outcomes Source) (languages : Languages) (settings : RecordSettings)
    (source : Source) (progress : Progress) : FileRecord :=
  Id.run (progress.complete languages settings outcomes.services source)

/-- The record of a file that is recorded alone. -/
def record (outcomes : Outcomes Source) (languages : Languages) (settings : RecordSettings)
    (file : Pending Source) : FileRecord :=
  Id.run (recordFile languages settings outcomes.services file.path file.sizeHint file.source)

section Completed

variable (outcomes : Outcomes Source) (languages : Languages) (settings : RecordSettings)
  (source : Source)

theorem completed_loading (path : String) (sizeHint : Nat) :
    outcomes.completed languages settings source (.loading path sizeHint) =
      outcomes.completed languages settings source
        (.loaded path sizeHint (outcomes.content source)) := by
  rw [completed, Progress.complete]
  rfl

theorem completed_parsing (path : String) (content : ByteArray) :
    outcomes.completed languages settings source (.parsing path content) =
      outcomes.completed languages settings source
        (.parsed languages settings path content (outcomes.lost path)) := by
  rw [completed, Progress.complete]
  rfl

theorem completed_queued (record : FileRecord) (prompt : String) :
    outcomes.completed languages settings source (.queued record prompt) =
      outcomes.completed languages settings source (.asking record prompt) := by
  rw [completed, Progress.complete]
  rfl

theorem completed_asking (record : FileRecord) (prompt : String) :
    outcomes.completed languages settings source (.asking record prompt) =
      outcomes.completed languages settings source
        (.summarized record (outcomes.answer prompt)) := by
  rw [completed, Progress.complete]
  rfl

theorem completed_finished (record : FileRecord) :
    outcomes.completed languages settings source (.finished record) = record := by
  rw [completed, Progress.complete]
  rfl

end Completed

theorem record_eq_completed (outcomes : Outcomes Source) (languages : Languages)
    (settings : RecordSettings) (file : Pending Source) :
    outcomes.record languages settings file =
      outcomes.completed languages settings file.source (.start file.path file.sizeHint) :=
  rfl

end Outcomes

/-! ## What a record depends on -/

/-- The path of a file on its way. -/
def Progress.path : Progress → String
  | loading path _ | parsing path _ => path
  | queued record _ | asking record _ | finished record => record.path

/-- After a file is parsed its record is finished, or the question about it waits for its turn. -/
theorem Progress.parsed_cases (languages : Languages) (settings : RecordSettings) (path : String)
    (content : ByteArray) (lost : Option String) :
    ∃ record : FileRecord, record.path = path ∧
      (parsed languages settings path content lost = .finished record ∨
        ∃ limit, settings.promptLimit = some limit ∧
          parsed languages settings path content lost =
            .queued record (summaryPrompt limit path (decodeText content))) := by
  unfold parsed
  dsimp only
  split
  · exact ⟨_, rfl, .inl rfl⟩
  · exact ⟨_, rfl, .inl rfl⟩
  · exact ⟨_, rfl, .inl rfl⟩
  · split
    · rename_i limit isLimit
      exact ⟨_, rfl, .inr ⟨limit, isLimit, rfl⟩⟩
    · exact ⟨_, rfl, .inl rfl⟩

namespace Outcomes

/-- The record of a file that is parsed and not asked about. -/
theorem record_of_represented (outcomes : Outcomes Source) {languages : Languages}
    {settings : RecordSettings} {file : Pending Source} (content : ByteArray) {category : Category}
    {representation : Representation} (isCategory : Category.ofPath file.path = category)
    (isParsed : category.isParsed) (isContent : outcomes.content file.source = .ok content)
    (isKept : outcomes.lost file.path = none) (isSilent : settings.promptLimit = none)
    (hasNoSource : settings.includesSource = false)
    (represented : languages.represent settings.describesItems category file.path
      (decodeText content) = .ok (.parsed representation)) :
    outcomes.record languages settings file =
      { path := file.path, category, outcome := .parsed representation
        sourceSize := content.size } := by
  have parsed_eq : Progress.parsed languages settings file.path content none =
      .finished { path := file.path, category, outcome := .parsed representation
                  sourceSize := content.size } := by
    simp [Progress.parsed, isCategory, represented, isSilent, hasNoSource]
  rw [record_eq_completed, Progress.start, isCategory, if_pos isParsed, completed_loading, isContent,
    Progress.loaded, completed_parsing, isKept, parsed_eq, completed_finished]

variable (languages : Languages) (settings : RecordSettings)

theorem path_completed (outcomes : Outcomes Source) (source : Source) (progress : Progress) :
    (outcomes.completed languages settings source progress).path = progress.path := by
  have worked (path : String) (content : ByteArray) :
      (outcomes.completed languages settings source (.parsing path content)).path = path := by
    rw [completed_parsing]
    obtain ⟨record, path_eq, isFinished | ⟨limit, _, isQueued⟩⟩ :=
      Progress.parsed_cases languages settings path content (outcomes.lost path)
    · rw [isFinished, completed_finished, path_eq]
    · rw [isQueued, completed_queued, completed_asking, Progress.summarized, completed_finished,
        path_eq]
  cases progress with
  | loading path sizeHint =>
      rw [completed_loading]
      cases outcomes.content source with
      | error => rw [Progress.loaded, completed_finished, Progress.path]
      | ok content => exact worked path content
  | parsing path content => exact worked path content
  | queued record prompt =>
      rw [completed_queued, completed_asking, Progress.summarized, completed_finished,
        Progress.path]
  | asking record prompt =>
      rw [completed_asking, Progress.summarized, completed_finished, Progress.path]
  | finished record => rw [completed_finished, Progress.path]

/-- The record of a file has its path. -/
theorem path_record (outcomes : Outcomes Source) (file : Pending Source) :
    (outcomes.record languages settings file).path = file.path := by
  rw [record_eq_completed, path_completed, Progress.start]
  split <;> rfl

/-- The same comes of a file twice. The answer counts for the question about this file only. -/
structure Agree (first second : Outcomes Source) (file : Pending Source) : Prop where
  content_eq : first.content file.source = second.content file.source
  lost_eq : first.lost file.path = second.lost file.path
  answer_eq : ∀ content limit, first.content file.source = .ok content →
    settings.promptLimit = some limit →
      first.answer (summaryPrompt limit file.path (decodeText content)) =
        second.answer (summaryPrompt limit file.path (decodeText content))

/-- A record depends on nothing but what comes of its own file. -/
theorem record_congr {first second : Outcomes Source} {file : Pending Source}
    (agree : Agree settings first second file) :
    first.record languages settings file = second.record languages settings file := by
  rw [record_eq_completed, record_eq_completed, Progress.start]
  split
  · rw [completed_loading, completed_loading, ← agree.content_eq]
    cases isLoaded : first.content file.source with
    | error => rw [Progress.loaded, completed_finished, completed_finished]
    | ok content =>
        rw [Progress.loaded, completed_parsing, completed_parsing, ← agree.lost_eq]
        obtain ⟨record, _, isFinished | ⟨limit, isLimit, isQueued⟩⟩ :=
          Progress.parsed_cases languages settings file.path content (first.lost file.path)
        · rw [isFinished, completed_finished, completed_finished]
        · rw [isQueued, completed_queued, completed_queued, completed_asking, completed_asking,
            agree.answer_eq content limit isLoaded isLimit, Progress.summarized, completed_finished,
            completed_finished]
  · rw [completed_finished, completed_finished]

end Outcomes

/-! ## One stage, and all stages -/

section Stages

variable {services : Services (StateM σ) Source} {outcomes : Outcomes Source}
  (gives : services.Give outcomes) (languages : Languages) (settings : RecordSettings)
  (source : Source)

include gives

/-- One stage of a file does not change the record it has in the end. -/
theorem Progress.next_yields (progress : Progress) :
    Yields (progress.next languages settings services source) fun later =>
      outcomes.completed languages settings source later =
        outcomes.completed languages settings source progress := by
  cases progress with
  | loading path sizeHint =>
      refine (gives.load source).bind ?_
      rintro _ rfl
      exact .pure (outcomes.completed_loading languages settings source path sizeHint).symm
  | parsing path content =>
      refine (gives.awaitWorker path).bind ?_
      rintro _ rfl
      exact .pure (outcomes.completed_parsing languages settings source path content).symm
  | queued record prompt =>
      refine (Yields.trivially _).bind fun _ _ => ?_
      exact .pure (outcomes.completed_queued languages settings source record prompt).symm
  | asking record prompt =>
      refine (gives.complete prompt).bind ?_
      rintro _ rfl
      exact .pure (outcomes.completed_asking languages settings source record prompt).symm
  | finished record => exact .pure rfl

/-- Taking a file through all stages that are left gives the record it has in the end. -/
theorem Progress.complete_yields (progress : Progress) :
    Yields (progress.complete languages settings services source)
      (· = outcomes.completed languages settings source progress) := by
  induction rank_eq : progress.rank using Nat.strongRecOn generalizing progress with
  | ind rank ih =>
      subst rank_eq
      rw [complete.eq_def]
      cases progress with
      | loading path sizeHint =>
          rw [outcomes.completed_loading]
          refine (gives.load source).bind ?_
          rintro _ rfl
          exact ih _ (rank_loaded path sizeHint _) _ rfl
      | parsing path content =>
          rw [outcomes.completed_parsing]
          refine (gives.awaitWorker path).bind ?_
          rintro _ rfl
          exact ih _ (rank_parsed languages settings path content _) _ rfl
      | queued record prompt =>
          rw [outcomes.completed_queued]
          refine (Yields.trivially _).bind ?_
          intro _ _
          exact ih _ (Nat.lt_succ_self 1) _ rfl
      | asking record prompt =>
          rw [outcomes.completed_asking]
          refine (gives.complete prompt).bind ?_
          rintro _ rfl
          exact ih _ (rank_summarized record _) _ rfl
      | finished record =>
          rw [outcomes.completed_finished]
          exact .pure rfl

/-- A file that is recorded alone has the same record in every state of the outside. -/
theorem recordFile_yields (file : Pending Source) :
    Yields (recordFile languages settings services file.path file.sizeHint file.source)
      (· = outcomes.record languages settings file) :=
  Progress.complete_yields gives languages settings file.source _

end Stages

end RepoSurvey
