import RepoSurvey.Proofs.Survey.Interleaving

/-!
# Surveys keep the order of files

The records of a survey are those of its files recorded alone, one for each file, in the order in which
the files were found.  It depends on nothing else than what comes of each file.
-/

namespace RepoSurvey

variable {σ Source : Type}

/-- It is settled what comes of each file, whenever the surroundings of a survey are asked. -/
structure Settled (load : Source → StateM σ (Except FileError ByteArray))
    (summarizer : Option (Summarizer (StateM σ))) (conditions : Conditions (StateM σ))
    (outcomes : Outcomes Source) : Prop where
  load : ∀ source, Yields (load source) (· = outcomes.content source)
  awaitWorker : ∀ path, Yields (conditions.awaitWorker path) (· = outcomes.lost path)
  complete : ∀ client, summarizer = some client →
    ∀ prompt, Yields (client.complete prompt) (· = outcomes.answer prompt)

namespace SurveySettings

variable (settings : SurveySettings) (languages : Languages)
  {load : Source → StateM σ (Except FileError ByteArray)}
  {summarizer : Option (Summarizer (StateM σ))} {conditions : Conditions (StateM σ)}
  {outcomes : Outcomes Source}

/-- Without a client nobody is asked, so any answers may be given. -/
def answered (summarizer : Option (Summarizer (StateM σ))) (outcomes : Outcomes Source) :
    Outcomes Source :=
  match summarizer with
  | some _ => outcomes
  | none => { outcomes with answer := fun _ => .error "no completion service" }

theorem give_answered (settled : Settled load summarizer conditions outcomes) :
    (services load summarizer conditions).Give (answered summarizer outcomes) := by
  cases summarizer with
  | some client => exact ⟨settled.load, settled.awaitWorker, settled.complete client rfl⟩
  | none => exact ⟨settled.load, settled.awaitWorker, fun _ => .pure rfl⟩

theorem record_answered (file : Pending Source) :
    (answered summarizer outcomes).record languages (settings.recordSettings summarizer) file =
      outcomes.record languages (settings.recordSettings summarizer) file := by
  cases summarizer with
  | some client => rfl
  | none =>
      refine Outcomes.record_congr _ _ ⟨rfl, rfl, ?_⟩
      intro content limit _ isLimit
      cases isLimit

theorem recordAll_yields (settled : Settled load summarizer conditions outcomes)
    (files : List (Pending Source)) :
    Yields (settings.recordAll languages load summarizer conditions files)
      (· = files.map (outcomes.record languages (settings.recordSettings summarizer))) := by
  have given := recordFiles_yields (give_answered settled) languages
    (settings.recordSettings summarizer) conditions.choose settings.concurrency files
  have same : (answered summarizer outcomes).record languages (settings.recordSettings summarizer) =
      outcomes.record languages (settings.recordSettings summarizer) :=
    funext fun file => record_answered settings languages file
  rwa [same] at given

theorem record_yields (settled : Settled load summarizer conditions outcomes)
    (file : Pending Source) :
    Yields (recordFile languages (settings.recordSettings summarizer)
        (services load summarizer conditions) file.path file.sizeHint file.source)
      (· = outcomes.record languages (settings.recordSettings summarizer) file) := by
  have given := recordFile_yields (give_answered settled) languages
    (settings.recordSettings summarizer) file
  rwa [record_answered settings languages file] at given

/-- A file that was found on a disk. -/
def pendingFound (file : FoundFile) : Pending String := ⟨file.relative, file.size, file.path⟩

/-- A file of a repository on a host. -/
def pendingRemote (file : RemoteFile) : Pending RemoteFile := ⟨file.path, file.size.getD 0, file⟩

theorem loadFrom_yields {files : FileOperations (StateM σ)} {path : String}
    {answer : Except SystemError ByteArray} (isRead : Yields (files.read path).run (· = answer)) :
    Yields (loadFrom files path) (· = answer.mapError fun error => .read error.display) := by
  refine isRead.bind ?_
  rintro given rfl
  cases given with
  | error error => exact .pure rfl
  | ok content => exact .pure rfl

theorem fetchFrom_yields {host : RepositoryHost (StateM σ)} {file : RemoteFile}
    {answer : Except String ByteArray} (isFetched : Yields (host.fetch file) (· = answer)) :
    Yields (fetchFrom host file) (· = answer.mapError .fetch) := by
  refine isFetched.bind ?_
  rintro given rfl
  cases given with
  | error reason => exact .pure rfl
  | ok content => exact .pure rfl

theorem surveyDirectory_eq (files : FileOperations (StateM σ)) {outcomes : Outcomes String}
    (settled : Settled (loadFrom files) summarizer conditions outcomes) (root : String)
    (state : σ) :
    ((settings.surveyDirectory languages files summarizer root conditions).run.run state).1 =
      (Listing.walk settings.ignored root ((files.list root).run.run state).1).map fun found =>
        { files := (found.map pendingFound).map
            (outcomes.record languages (settings.recordSettings summarizer)) } := by
  let listed := (files.list root).run.run state
  have unfolded : ((settings.surveyDirectory languages files summarizer root conditions).run.run
      state).1 =
        ((ExceptT.run (do
          let found ← ExceptT.mk (pure (Listing.walk settings.ignored root listed.1))
          let records ← ExceptT.lift (settings.recordAll languages (loadFrom files) summarizer
            conditions (found.map pendingFound))
          return ({ files := records } : Aggregate)) : StateM σ _).run listed.2).1 := rfl
  rw [unfolded]
  cases Listing.walk settings.ignored root listed.1 with
  | error error => rfl
  | ok found =>
      have recorded := settings.recordAll_yields languages settled (found.map pendingFound) listed.2
      exact congrArg (fun records => Except.ok (Aggregate.mk none records)) recorded

theorem surveyRepository_eq (host : RepositoryHost (StateM σ)) {outcomes : Outcomes RemoteFile}
    (settled : Settled (fetchFrom host) summarizer conditions outcomes) (state : σ) :
    ((settings.surveyRepository languages host summarizer conditions).run state).1 =
      { metadata := (host.metadata.run state).1.toOption
        files := ((((host.listFiles.run (host.metadata.run state).2).1.toOption.getD []).filter
          fun file => !settings.ignored.ignoresPath file.path).map pendingRemote).map
            (outcomes.record languages (settings.recordSettings summarizer)) } := by
  have recorded := settings.recordAll_yields languages settled
    (((((host.listFiles.run (host.metadata.run state).2).1.toOption.getD []).filter
      fun file => !settings.ignored.ignoresPath file.path).map pendingRemote))
    (host.listFiles.run (host.metadata.run state).2).2
  exact congrArg (Aggregate.mk (host.metadata.run state).1.toOption) recorded

end SurveySettings

open SurveySettings in
/-- The records of a survey of a directory or of a repository are those of its files recorded alone, one
for each file that was found, in the order in which they were found.  This holds for every limit of files
in flight and for every choice among possible events.  What comes of one file changes no other record,
and no record is lost, moved or doubled. -/
theorem survey_records_each_file_alone (settings : SurveySettings) (languages : Languages)
    (summarizer : Option (Summarizer (StateM σ))) (conditions : Conditions (StateM σ)) :
    (∀ (files : FileOperations (StateM σ)) (outcomes : Outcomes String),
      Settled (loadFrom files) summarizer conditions outcomes → ∀ root state,
        ((settings.surveyDirectory languages files summarizer root conditions).run.run state).1 =
          (Listing.walk settings.ignored root ((files.list root).run.run state).1).map fun found =>
            { files := (found.map pendingFound).map
                (outcomes.record languages (settings.recordSettings summarizer)) }) ∧
      (∀ (host : RepositoryHost (StateM σ)) (outcomes : Outcomes RemoteFile),
        Settled (fetchFrom host) summarizer conditions outcomes → ∀ state,
          ((settings.surveyRepository languages host summarizer conditions).run state).1 =
            { metadata := (host.metadata.run state).1.toOption
              files := ((((host.listFiles.run (host.metadata.run state).2).1.toOption.getD []).filter
                fun file => !settings.ignored.ignoresPath file.path).map pendingRemote).map
                  (outcomes.record languages (settings.recordSettings summarizer)) }) ∧
      (∀ (Source : Type) (load : Source → StateM σ (Except FileError ByteArray))
        (outcomes : Outcomes Source), Settled load summarizer conditions outcomes →
          ∀ file : Pending Source,
            Yields (recordFile languages (settings.recordSettings summarizer)
                (services load summarizer conditions) file.path file.sizeHint file.source)
              (· = outcomes.record languages (settings.recordSettings summarizer) file)) ∧
      ∀ (Source : Type) (first second : Outcomes Source) (files : List (Pending Source)),
        (files.map (first.record languages (settings.recordSettings summarizer))).map (·.path) =
            files.map (·.path) ∧
          ∀ (index : Nat) (file : Pending Source), files[index]? = some file →
            Outcomes.Agree (settings.recordSettings summarizer) first second file →
              (files.map (first.record languages (settings.recordSettings summarizer)))[index]? =
                (files.map (second.record languages (settings.recordSettings summarizer)))[index]? := by
  refine ⟨?_, ?_, ?_, ?_⟩
  · intro files outcomes settled root state
    exact settings.surveyDirectory_eq languages files settled root state
  · intro host outcomes settled state
    exact settings.surveyRepository_eq languages host settled state
  · intro Source load outcomes settled file
    exact settings.record_yields languages settled file
  · intro Source first second files
    constructor
    · rw [List.map_map]
      exact List.map_congr_left fun file _ => first.path_record languages _ file
    · intro index file found agree
      rw [List.getElem?_map, List.getElem?_map, found, Option.map_some, Option.map_some,
        Outcomes.record_congr languages _ agree]

/-! ## Surroundings with a clock -/

/-- Every question takes some time, and what happens next depends on the time. -/
def clockConditions : Conditions (StateM Nat) where
  choose events := fun clock => (clock % events.length, clock + 1)
  awaitWorker path := fun clock => (if path == "lost.json" then some "panic" else none, clock + 1)

/-- A client that always refuses. -/
def clockClient : Summarizer (StateM Nat) where
  promptLimit := 100
  awaitTurn := fun clock => ((), 2 * clock)
  complete _ := fun clock => (.error "busy", clock + 1)

/-- A host that has lost the content of one of its files. -/
def clockHost : RepositoryHost (StateM Nat) where
  metadata := fun clock => (.error "unknown", clock + 1)
  listFiles := fun clock => (.ok [⟨"b.json", "1", none⟩, ⟨"a.json", "2", some 2⟩,
    ⟨"lost.json", "3", none⟩, ⟨"b.bin", "1", none⟩], clock + 1)
  fetch file := fun clock =>
    (if file.path == "a.json" then .error "gone" else .ok "[1]".toUTF8, clock + 1)

def clockOutcomes : Outcomes RemoteFile where
  content file := (if file.path == "a.json" then .error "gone" else .ok "[1]".toUTF8 :
    Except String ByteArray).mapError .fetch
  lost path := if path == "lost.json" then some "panic" else none
  answer _ := .error "busy"

theorem settled_clock :
    Settled (SurveySettings.fetchFrom clockHost) (some clockClient) clockConditions
      clockOutcomes where
  load _ := SurveySettings.fetchFrom_yields fun _ => rfl
  awaitWorker _ _ := rfl
  complete client same prompt clock := by
    cases same
    rfl

theorem survey_of_clockHost_in_order :
    Settled (SurveySettings.fetchFrom clockHost) (some clockClient) clockConditions clockOutcomes ∧
      ((({ concurrency := 3 } : SurveySettings).surveyRepository {} clockHost (some clockClient)
        clockConditions).run 0).1 =
          { metadata := none
            files := ((([⟨"b.json", "1", none⟩, ⟨"a.json", "2", some 2⟩, ⟨"lost.json", "3", none⟩,
              ⟨"b.bin", "1", none⟩] : List RemoteFile).filter fun file =>
                !IgnoredNames.standard.ignoresPath file.path).map SurveySettings.pendingRemote).map
                  (clockOutcomes.record {}
                    (({ concurrency := 3 } : SurveySettings).recordSettings (some clockClient))) } :=
  ⟨settled_clock, (survey_records_each_file_alone { concurrency := 3 } {} (some clockClient)
    clockConditions).2.1 clockHost clockOutcomes settled_clock 0⟩

end RepoSurvey
