import RepoSurvey.Proofs.Survey.Order

/-!
# The course of each file

Whatever the outside does, and in whatever order the stages of several files come: each file goes its own
course, from its start to its record.  What a survey leaves in a log is made of what was logged on the
courses of its files.
-/

namespace RepoSurvey

variable {σ Source ε α β : Type}

/-! ## What an action leaves behind -/

/-- Whatever the state of the outside is, an action leaves a part of it as it is. -/
def Leaves (view : σ → β) (action : StateM σ α) : Prop :=
  ∀ state, view (action.run state).2 = view state

/-- In every state an action adds entries to a log that are accepted together with what it gives. -/
def Logs (log : σ → List ε) (action : StateM σ α) (accepts : α → List ε → Prop) : Prop :=
  ∀ state, ∃ written, log (action.run state).2 = log state ++ written ∧
    accepts (action.run state).1 written

theorem Leaves.pure {view : σ → β} (value : α) : Leaves view (Pure.pure value : StateM σ α) :=
  fun _ => rfl

theorem Leaves.bind {view : σ → β} {γ : Type} {action : StateM σ α} {next : α → StateM σ γ}
    (first : Leaves view action) (others : ∀ value, Leaves view (next value)) :
    Leaves view (action >>= next) := by
  intro state
  have afterFirst := first state
  have afterOthers := others (action.run state).1 (action.run state).2
  exact afterOthers.trans afterFirst

theorem Leaves.logs {log : σ → List ε} {action : StateM σ α} (leaves : Leaves log action) :
    Logs log action fun _ written => written = [] := by
  intro state
  exact ⟨[], by rw [leaves state, List.append_nil], rfl⟩

theorem Logs.map {log : σ → List ε} {action : StateM σ α} {accepts : α → List ε → Prop}
    (logs : Logs log action accepts) (change : α → β) {acceptsChanged : β → List ε → Prop}
    (keeps : ∀ value written, accepts value written → acceptsChanged (change value) written) :
    Logs log (change <$> action) acceptsChanged := by
  intro state
  obtain ⟨written, isLogged, isAccepted⟩ := logs state
  exact ⟨written, isLogged, keeps _ _ isAccepted⟩

/-- A client that leaves a part of the outside as it is. -/
structure Summarizer.Leaves (client : Summarizer (StateM σ)) (view : σ → β) : Prop where
  awaitTurn : RepoSurvey.Leaves view client.awaitTurn
  complete : ∀ prompt, RepoSurvey.Leaves view (client.complete prompt)

/-- Conditions that leave a part of the outside as it is. -/
structure Conditions.Leave (conditions : Conditions (StateM σ)) (view : σ → β) : Prop where
  choose : ∀ events, Leaves view (conditions.choose events)
  awaitWorker : ∀ path, Leaves view (conditions.awaitWorker path)

/-! ## The course of a file -/

/-- What is logged when a file is loaded, when it gets its turn, and when a prompt is answered. -/
structure Entries (Source ε : Type) where
  load : Source → Except FileError ByteArray → List ε → Prop
  turn : List ε → Prop
  answer : String → Except String String → List ε → Prop

/-- Services that log what they do. -/
structure Services.Log (services : Services (StateM σ) Source) (log : σ → List ε)
    (entries : Entries Source ε) : Prop where
  load : ∀ source, Logs log (services.load source) (entries.load source)
  awaitWorker : ∀ path, Leaves log (services.awaitWorker path)
  awaitTurn : Logs log services.awaitTurn fun _ => entries.turn
  complete : ∀ prompt, Logs log (services.complete prompt) (entries.answer prompt)

namespace Entries

variable (entries : Entries Source ε) (languages : Languages) (settings : RecordSettings)
  (file : Pending Source)

/-- The content of a file that is to be parsed was loaded. -/
structure Loaded (content : Except FileError ByteArray) (written : List ε) : Prop where
  isParsed : (Category.ofPath file.path).isParsed
  isLoaded : entries.load file.source content written

/-- The ways to the record of a file, and what was logged on them. -/
inductive Ended : FileRecord → List ε → Prop
  | skipped (notParsed : (Category.ofPath file.path).isParsed = false) :
      Ended
        { path := file.path, category := Category.ofPath file.path
          outcome := .skipped (Category.ofPath file.path).skipReason
          sourceSize := file.sizeHint } []
  | unloaded {error : FileError} {written : List ε}
      (failed : entries.Loaded file (.error error) written) :
      Ended
        { path := file.path, category := Category.ofPath file.path, outcome := .failed error
          sourceSize := file.sizeHint } written
  | unasked {content : ByteArray} {lost : Option String} {record : FileRecord} {written : List ε}
      (loaded : entries.Loaded file (.ok content) written)
      (isFinished : Progress.parsed languages settings file.path content lost = .finished record) :
      Ended record written
  | asked {content : ByteArray} {lost : Option String} {record : FileRecord} {prompt : String}
      {answer : Except String String} {written atTurn atAnswer : List ε}
      (loaded : entries.Loaded file (.ok content) written)
      (isQueued : Progress.parsed languages settings file.path content lost = .queued record prompt)
      (hadTurn : entries.turn atTurn) (isAnswered : entries.answer prompt answer atAnswer) :
      Ended { record with summary := some (.ofAnswer answer) } (written ++ atTurn ++ atAnswer)

/-- How a file may have come to a stage, and what was logged on its way. -/
def Course : Progress → List ε → Prop
  | .loading path sizeHint, written =>
      (Category.ofPath file.path).isParsed ∧ path = file.path ∧ sizeHint = file.sizeHint ∧
        written = []
  | .parsing path content, written => path = file.path ∧ entries.Loaded file (.ok content) written
  | .queued record prompt, written =>
      ∃ content lost, entries.Loaded file (.ok content) written ∧
        Progress.parsed languages settings file.path content lost = .queued record prompt
  | .asking record prompt, written =>
      ∃ content lost loaded atTurn, written = loaded ++ atTurn ∧
        entries.Loaded file (.ok content) loaded ∧ entries.turn atTurn ∧
          Progress.parsed languages settings file.path content lost = .queued record prompt
  | .finished record, written => entries.Ended languages settings file record written

variable {entries languages settings file}

theorem course_start :
    entries.Course languages settings file (.start file.path file.sizeHint) [] := by
  rw [Progress.start]
  by_cases isParsed : (Category.ofPath file.path).isParsed
  · rw [if_pos isParsed]
    exact ⟨isParsed, rfl, rfl, rfl⟩
  · rw [if_neg isParsed]
    apply Ended.skipped
    simpa using isParsed

theorem Loaded.course_loaded {content : Except FileError ByteArray} {written : List ε}
    (loaded : entries.Loaded file content written) :
    entries.Course languages settings file (.loaded file.path file.sizeHint content) written := by
  cases content with
  | ok content => exact ⟨rfl, loaded⟩
  | error error => exact Ended.unloaded loaded

theorem Loaded.course_parsed {content : ByteArray} {written : List ε}
    (loaded : entries.Loaded file (.ok content) written) (lost : Option String) :
    entries.Course languages settings file
      (.parsed languages settings file.path content lost) written := by
  obtain ⟨record, _, isFinished | ⟨limit, _, isQueued⟩⟩ :=
    Progress.parsed_cases languages settings file.path content lost
  · rw [isFinished]
    exact Ended.unasked loaded isFinished
  · rw [isQueued]
    exact ⟨content, lost, loaded, isQueued⟩

variable {services : Services (StateM σ) Source} {log : σ → List ε}

/-- A stage of a file goes on with its course. -/
theorem Course.next (logs : services.Log log entries) {progress : Progress} {before : List ε}
    (course : entries.Course languages settings file progress before) :
    Logs log (progress.next languages settings services file.source) fun later written =>
      entries.Course languages settings file later (before ++ written) := by
  intro state
  cases progress with
  | loading path sizeHint =>
      obtain ⟨isParsed, rfl, rfl, rfl⟩ := course
      obtain ⟨written, isLogged, isLoaded⟩ := logs.load file.source state
      have loaded : entries.Loaded file _ written := ⟨isParsed, isLoaded⟩
      exact ⟨written, isLogged, loaded.course_loaded⟩
  | parsing path content =>
      obtain ⟨rfl, loaded⟩ := course
      refine ⟨[], ?_, ?_⟩
      · rw [List.append_nil]
        exact logs.awaitWorker file.path state
      · dsimp only
        rw [List.append_nil]
        exact loaded.course_parsed _
  | queued record prompt =>
      obtain ⟨content, lost, loaded, isQueued⟩ := course
      obtain ⟨atTurn, isLogged, hadTurn⟩ := logs.awaitTurn state
      exact ⟨atTurn, isLogged, content, lost, before, atTurn, rfl, loaded, hadTurn, isQueued⟩
  | asking record prompt =>
      obtain ⟨content, lost, loaded, atTurn, rfl, isLoaded, hadTurn, isQueued⟩ := course
      obtain ⟨atAnswer, isLogged, isAnswered⟩ := logs.complete prompt state
      exact ⟨atAnswer, isLogged, Ended.asked isLoaded isQueued hadTurn isAnswered⟩
  | finished record =>
      refine ⟨[], (List.append_nil _).symm, ?_⟩
      dsimp only
      rw [List.append_nil]
      exact course

end Entries

/-- Nothing is logged but what comes of loading. -/
def Entries.ofLoading (load : Source → Except FileError ByteArray → List ε → Prop) :
    Entries Source ε where
  load
  turn written := written = []
  answer _ _ written := written = []

open SurveySettings in
theorem services_log_loading {log : σ → List ε}
    {load : Source → StateM σ (Except FileError ByteArray)}
    {loaded : Source → Except FileError ByteArray → List ε → Prop}
    (loads : ∀ source, Logs log (load source) (loaded source))
    {summarizer : Option (Summarizer (StateM σ))}
    (clientLeaves : ∀ client ∈ summarizer, client.Leaves log)
    {conditions : Conditions (StateM σ)} (conditionsLeave : conditions.Leave log) :
    (services load summarizer conditions).Log log (.ofLoading loaded) := by
  cases summarizer with
  | none =>
      exact ⟨loads, conditionsLeave.awaitWorker, (Leaves.pure ()).logs,
        fun _ => (Leaves.pure _).logs⟩
  | some client =>
      have leaves := clientLeaves client rfl
      exact ⟨loads, conditionsLeave.awaitWorker, leaves.awaitTurn.logs,
        fun prompt => (leaves.complete prompt).logs⟩

/-! ## What a worker makes of a content -/

namespace Progress

variable {languages : Languages} {settings : RecordSettings} {path prompt : String}
  {content : ByteArray} {lost : Option String} {record : FileRecord}

/-- A file that waits for its turn was parsed, and its prompt is about what was loaded. -/
theorem queued_of_parsed
    (isQueued : parsed languages settings path content lost = .queued record prompt) :
    ∃ limit representation, settings.promptLimit = some limit ∧
      languages.represent settings.describesItems (Category.ofPath path) path (decodeText content) =
        .ok (.parsed representation) ∧
      prompt = summaryPrompt limit path (decodeText content) ∧ record.path = path ∧
        record.outcome = .parsed representation := by
  unfold parsed at isQueued
  dsimp only at isQueued
  split at isQueued
  · cases isQueued
  · cases isQueued
  · cases isQueued
  · rename_i representation represented
    split at isQueued
    · rename_i limit isLimit
      cases isQueued
      exact ⟨limit, representation, isLimit, represented, rfl, rfl, rfl⟩
    · cases isQueued

/-- A record that is finished without a question is that of a lost worker, of a content that is not parsed, or
of a survey without summaries. -/
theorem finished_of_parsed
    (isFinished : parsed languages settings path content lost = .finished record) :
    record.path = path ∧ record.summary = none ∧
      ((∃ reason, record.outcome = .failed (.worker reason)) ∨
        (∃ error, record.outcome = .failed (.parse error)) ∨
        (∃ reason, record.outcome = .skipped reason) ∨
        (∃ representation, record.outcome = .parsed representation) ∧
          settings.promptLimit = none) := by
  unfold parsed at isFinished
  dsimp only at isFinished
  split at isFinished
  · cases isFinished
    exact ⟨rfl, rfl, .inl ⟨_, rfl⟩⟩
  · cases isFinished
    exact ⟨rfl, rfl, .inr (.inl ⟨_, rfl⟩)⟩
  · cases isFinished
    exact ⟨rfl, rfl, .inr (.inr (.inl ⟨_, rfl⟩))⟩
  · split at isFinished
    · cases isFinished
    · rename_i noLimit
      cases isFinished
      exact ⟨rfl, rfl, .inr (.inr (.inr ⟨⟨_, rfl⟩, noLimit⟩))⟩

end Progress

/-! ## The courses of all files -/

/-- A file, and what was logged on its course. -/
structure Track (Source ε : Type) where
  file : Pending Source
  written : List ε

/-- The middle of a list that is related to another one, and what stands around it. -/
theorem forall₂_middle {R : α → β → Prop} {front back : List β} {middle : β} {others : List α}
    (related : List.Forall₂ R others (front ++ middle :: back)) :
    ∃ start other rest, others = start ++ other :: rest ∧ List.Forall₂ R start front ∧
      R other middle ∧ List.Forall₂ R rest back := by
  induction front generalizing others with
  | nil =>
      cases related with
      | cons isRelated areRelated => exact ⟨[], _, _, rfl, .nil, isRelated, areRelated⟩
  | cons first front ih =>
      cases related with
      | cons isRelated areRelated =>
          obtain ⟨start, other, rest, rfl, before, isMiddle, behind⟩ := ih areRelated
          exact ⟨_ :: start, other, rest, rfl, .cons isRelated before, isMiddle, behind⟩

namespace Window

variable (entries : Entries Source ε) (languages : Languages) (settings : RecordSettings)

/-- Each file of a list waits, or is on its course, or has come to its record.  The latest records come
first. -/
structure Tracks (files : List (Pending Source)) (written : List ε) (window : Window Source)
    (past present : List (Track Source ε)) : Prop where
  files_eq : (past.reverse ++ present).map (·.file) ++ window.waiting = files
  ended : List.Forall₂
    (fun track record => entries.Ended languages settings track.file record track.written)
    past window.delivered
  underway : List.Forall₂
    (fun track flight => flight.source = track.file.source ∧
      entries.Course languages settings track.file flight.progress track.written)
    present window.inFlight
  perm : written.Perm ((past ++ present).flatMap (·.written))

variable {entries languages settings} {services : Services (StateM σ) Source} {log : σ → List ε}
  {files : List (Pending Source)} {written : List ε} {window : Window Source}
  {past present : List (Track Source ε)}

theorem tracks_start : Tracks entries languages settings files [] { waiting := files } [] [] where
  files_eq := rfl
  ended := .nil
  underway := .nil
  perm := .refl _

theorem Tracks.takeUp (tracks : Tracks entries languages settings files written window past present)
    {pending : Pending Source} {rest : List (Pending Source)}
    (waiting_eq : window.waiting = pending :: rest) :
    Tracks entries languages settings files written
      { window with
        inFlight := window.inFlight ++ [⟨pending.source, .start pending.path pending.sizeHint⟩]
        waiting := rest }
      past (present ++ [⟨pending, []⟩]) where
  files_eq := by
    have files_eq := tracks.files_eq
    rw [waiting_eq] at files_eq
    simpa using files_eq
  ended := tracks.ended
  underway := by
    apply List.rel_append tracks.underway
    exact .cons ⟨rfl, Entries.course_start⟩ .nil
  perm := by
    have perm := tracks.perm
    simpa using perm

/-- A file in flight has a track, and it may go on. -/
theorem Tracks.advance
    (tracks : Tracks entries languages settings files written window past present)
    {front back : List (Flight Source)} {flight : Flight Source}
    (flights_eq : window.inFlight = front ++ flight :: back) :
    ∃ track : Track Source ε, flight.source = track.file.source ∧
      entries.Course languages settings track.file flight.progress track.written ∧
        ∀ progress more,
          entries.Course languages settings track.file progress (track.written ++ more) →
            ∃ later, Tracks entries languages settings files (written ++ more)
              { window with inFlight := front ++ { flight with progress } :: back } past later := by
  have underway := tracks.underway
  rw [flights_eq] at underway
  obtain ⟨start, track, rest, rfl, before, ⟨isSource, course⟩, behind⟩ := forall₂_middle underway
  refine ⟨track, isSource, course, fun progress more isOn => ?_⟩
  -- Only this course grows, and it grows at its end.
  refine ⟨start ++ { track with written := track.written ++ more } :: rest, ?_, tracks.ended, ?_, ?_⟩
  · have files_eq := tracks.files_eq
    simpa using files_eq
  · exact List.rel_append before (.cons ⟨isSource, isOn⟩ behind)
  · apply (tracks.perm.append_right more).trans
    simp only [List.flatMap_append, List.flatMap_cons, List.append_assoc]
    refine .append_left _ (.append_left _ (.append_left _ ?_))
    exact List.perm_append_comm

theorem Tracks.deliver
    (tracks : Tracks entries languages settings files written window past present)
    {source : Source} {record : FileRecord} {rest : List (Flight Source)}
    (flights_eq : window.inFlight = ⟨source, .finished record⟩ :: rest) :
    ∃ track later, Tracks entries languages settings files written
      { window with delivered := record :: window.delivered, inFlight := rest }
      (track :: past) later := by
  have underway := tracks.underway
  rw [flights_eq] at underway
  cases underway with
  | @cons track _ later _ isFirst areOthers =>
      refine ⟨track, later, ?_, .cons isFirst.2 tracks.ended, areOthers, ?_⟩
      · have files_eq := tracks.files_eq
        simpa using files_eq
      · apply tracks.perm.trans
        simp only [List.flatMap_append, List.flatMap_cons, List.cons_append]
        exact List.perm_append_comm_assoc _ _ _

/-- Whatever happens to a window, its files stay on their courses. -/
theorem Tracks.happens (logs : services.Log log entries)
    (tracks : Tracks entries languages settings files written window past present) {limit : Nat}
    {before behind : σ} {event : Event} {later : Window Source}
    (happens : Happens languages settings services limit window before event later behind) :
    ∃ more past present, log behind = log before ++ more ∧
      Tracks entries languages settings files (written ++ more) later past present := by
  cases happens with
  | nothing isImpossible =>
      refine ⟨[], past, present, (List.append_nil _).symm, ?_⟩
      rw [List.append_nil]
      exact tracks
  | @takenUp pending rest waiting_eq hasRoom =>
      refine ⟨[], past, present ++ [⟨pending, []⟩], (List.append_nil _).symm, ?_⟩
      rw [List.append_nil]
      exact tracks.takeUp waiting_eq
  | @advanced front back flight progress _ flights_eq isNext =>
      obtain ⟨track, isSource, course, goesOn⟩ := tracks.advance flights_eq
      obtain ⟨more, isLogged, isOn⟩ := course.next logs before
      rw [← isSource, isNext] at isLogged isOn
      obtain ⟨later, laterTracks⟩ := goesOn progress more isOn
      exact ⟨more, past, later, isLogged, laterTracks⟩
  | delivered flights_eq =>
      obtain ⟨track, later, laterTracks⟩ := tracks.deliver flights_eq
      refine ⟨[], track :: past, later, (List.append_nil _).symm, ?_⟩
      rw [List.append_nil]
      exact laterTracks

end Window

/-- Files that are recorded have courses of their own, one for each file in the order of the list, and the
log is made of what was logged on them. -/
structure Tracked (entries : Entries Source ε) (languages : Languages) (settings : RecordSettings)
    (files : List (Pending Source)) (records : List FileRecord) (written : List ε)
    (tracks : List (Track Source ε)) : Prop where
  files_eq : tracks.map (·.file) = files
  ended : List.Forall₂
    (fun track record => entries.Ended languages settings track.file record track.written)
    tracks records
  perm : written.Perm (tracks.flatMap (·.written))

theorem recordFiles_logs {entries : Entries Source ε} {services : Services (StateM σ) Source}
    {log : σ → List ε} (logs : services.Log log entries) (languages : Languages)
    (settings : RecordSettings) {choose : List Window.Event → StateM σ Nat}
    (chooses : ∀ events, Leaves log (choose events)) (limit : Nat) (files : List (Pending Source)) :
    Logs log (recordFiles languages settings services choose limit files) fun records written =>
      ∃ tracks, Tracked entries languages settings files records written tracks := by
  intro start
  let holds (state : σ) (window : Window Source) : Prop :=
    ∃ written past present, log state = log start ++ written ∧
      Window.Tracks entries languages settings files written window past present
  have isHeld : holds start { waiting := files } :=
    ⟨[], [], [], (List.append_nil _).symm, Window.tracks_start⟩
  obtain ⟨written, past, present, log_eq, tracks⟩ :=
    Window.run_holds languages settings services (max limit 1) choose holds
      (fun events state window isHeld => by
        obtain ⟨written, past, present, log_eq, tracks⟩ := isHeld
        exact ⟨written, past, present, (chooses events state).trans log_eq, tracks⟩)
      (fun happens isHeld => by
        obtain ⟨written, past, present, log_eq, tracks⟩ := isHeld
        obtain ⟨more, later, others, isLogged, laterTracks⟩ := tracks.happens logs happens
        refine ⟨written ++ more, later, others, ?_, laterTracks⟩
        rw [isLogged, log_eq, List.append_assoc])
      (eventsPerFile * files.length) { waiting := files } start isHeld
  have isDone := Window.run_waiting_isDone languages settings services limit choose files start
  have noFlight : present = [] := by
    have underway := tracks.underway
    rw [isDone.inFlight_eq] at underway
    exact List.forall₂_nil_right_iff.mp underway
  subst noFlight
  refine ⟨written, log_eq, past.reverse, ?_, ?_, ?_⟩
  · have files_eq := tracks.files_eq
    rw [isDone.waiting_eq] at files_eq
    simpa using files_eq
  · exact List.rel_reverse tracks.ended
  · apply tracks.perm.trans
    rw [List.append_nil]
    exact (List.reverse_perm past).symm.flatMap_right _

/-! ## Surveys -/

namespace SurveySettings

variable (settings : SurveySettings) (languages : Languages)
  (summarizer : Option (Summarizer (StateM σ))) (conditions : Conditions (StateM σ))

/-- A survey of a directory lists it and then records what the walk finds. -/
theorem surveyDirectory_run (files : FileOperations (StateM σ)) (root : String) (state : σ) :
    (settings.surveyDirectory languages files summarizer root conditions).run.run state =
      let listed := (files.list root).run.run state
      match Listing.walk settings.ignored root listed.1 with
      | .error error => (.error error, listed.2)
      | .ok found =>
          let recorded := (settings.recordAll languages (loadFrom files) summarizer conditions
            (found.map pendingFound)).run listed.2
          (.ok { files := recorded.1 }, recorded.2) := by
  let listed := (files.list root).run.run state
  have unfolded : (settings.surveyDirectory languages files summarizer root conditions).run.run
      state =
        (ExceptT.run (do
          let found ← ExceptT.mk (pure (Listing.walk settings.ignored root listed.1))
          let records ← ExceptT.lift (settings.recordAll languages (loadFrom files) summarizer
            conditions (found.map pendingFound))
          return ({ files := records } : Aggregate)) : StateM σ _).run listed.2 := rfl
  rw [unfolded]
  dsimp only
  change _ = match Listing.walk settings.ignored root listed.1 with
    | .error error => _
    | .ok found => _
  cases Listing.walk settings.ignored root listed.1 <;> rfl

/-- A survey of a repository asks about it, lists its files and then records those that are wanted. -/
theorem surveyRepository_run (host : RepositoryHost (StateM σ)) (state : σ) :
    (settings.surveyRepository languages host summarizer conditions).run state =
      let known := host.metadata.run state
      let listed := host.listFiles.run known.2
      let wanted := (listed.1.toOption.getD []).filter fun file =>
        !settings.ignored.ignoresPath file.path
      let recorded := (settings.recordAll languages (fetchFrom host) summarizer conditions
        (wanted.map pendingRemote)).run listed.2
      ({ metadata := known.1.toOption, files := recorded.1 }, recorded.2) :=
  rfl

end SurveySettings

end RepoSurvey
