import RepoSurvey.Proofs.Survey.Contacts
import RepoSurvey.Proofs.Survey.Courses

/-!
# Calls of a survey

A survey calls the completion service once for each file that is parsed, and for no other file.  The files
share the turns at one limiter, and each file that has had its turn calls before it is recorded.
-/

namespace RepoSurvey

variable {σ Source α : Type}

/-! ## Files in flight -/

/-- Whether a file has had its turn and now waits for an answer. -/
def Progress.isAsking : Progress → Bool
  | asking .. => true
  | _ => false

/-- How many files wait for an answer. -/
def Window.asking (window : Window Source) : Nat :=
  (window.inFlight.map fun flight => flight.progress.isAsking.toNat).sum

theorem Window.IsDone.asking_eq {window : Window Source} (isDone : window.IsDone) :
    window.asking = 0 := by
  rw [asking, isDone.inFlight_eq]
  rfl

theorem Progress.isAsking_start (path : String) (sizeHint : Nat) :
    (start path sizeHint).isAsking = false := by
  rw [start]
  split <;> rfl

theorem Progress.isAsking_loaded (path : String) (sizeHint : Nat)
    (content : Except FileError ByteArray) : (loaded path sizeHint content).isAsking = false := by
  cases content <;> rfl

theorem Progress.isAsking_parsed (languages : Languages) (settings : RecordSettings) (path : String)
    (content : ByteArray) (lost : Option String) :
    (parsed languages settings path content lost).isAsking = false := by
  obtain ⟨record, _, isFinished | ⟨limit, _, isQueued⟩⟩ :=
    parsed_cases languages settings path content lost
  · rw [isFinished]
    rfl
  · rw [isQueued]
    rfl

namespace SurveySettings

variable {desk : Desk σ} {client : Summarizer (StateM σ)} (paced : client.Paced desk)
  {conditions : Conditions (StateM σ)} (bide : conditions.Bide desk)
  {load : Source → StateM σ (Except FileError ByteArray)} (loads : ∀ source, desk.Bides (load source))
  (languages : Languages) (settings : RecordSettings) {interval : Nat}

include paced bide loads

/-- A file that gets its turn has an unused turn until it has called. -/
theorem next_inTurn (source : Source) (progress : Progress) {state : σ} {others : Nat}
    (inTurn : desk.InTurn interval state (others + progress.isAsking.toNat)) :
    let stage := (progress.next languages settings (services load (some client) conditions)
      source).run state
    desk.InTurn interval stage.2 (others + stage.1.isAsking.toNat) := by
  cases progress with
  | loading path sizeHint =>
      have later := inTurn.bides (loads source)
      change desk.InTurn interval _ (others + (Progress.loaded path sizeHint _).isAsking.toNat)
      rw [Progress.isAsking_loaded]
      exact later
  | parsing path content =>
      have later := inTurn.bides (bide.awaitWorker path)
      change desk.InTurn interval _
        (others + (Progress.parsed languages settings path content _).isAsking.toNat)
      rw [Progress.isAsking_parsed]
      exact later
  | queued record prompt => exact inTurn.awaitTurn paced
  | asking record prompt => exact inTurn.complete paced prompt
  | finished record => exact inTurn

theorem happens_inTurn {limit : Nat} {before behind : σ} {event : Window.Event}
    {window later : Window Source}
    (happens : Window.Happens languages settings (services load (some client) conditions) limit
      window before event later behind)
    (inTurn : desk.InTurn interval before window.asking) :
    desk.InTurn interval behind later.asking := by
  cases happens with
  | nothing isImpossible => exact inTurn
  | @takenUp pending rest waiting_eq hasRoom =>
      have notAsking := Progress.isAsking_start pending.path pending.sizeHint
      simpa [Window.asking, notAsking] using inTurn
  | @advanced front back flight progress _ flights_eq isNext =>
      -- Nothing changes for the other files in flight.
      let others := Window.asking { window with inFlight := front ++ back }
      have asking_eq (progress : Progress) :
          Window.asking { window with inFlight := front ++ { flight with progress } :: back } =
            others + progress.isAsking.toNat := by
        simp only [others, Window.asking, List.map_append, List.map_cons, List.sum_append,
          List.sum_cons]
        omega
      have window_eq : window.asking = others + flight.progress.isAsking.toNat := by
        rw [← asking_eq, Window.asking, flights_eq, Window.asking]
      rw [window_eq] at inTurn
      have next := next_inTurn paced bide loads languages settings flight.source flight.progress
        inTurn
      rw [isNext] at next
      rw [asking_eq]
      exact next
  | delivered flights_eq => simpa [Window.asking, flights_eq, Progress.isAsking] using inTurn

/-- When all files are recorded no turn is left unused. -/
theorem recordFiles_inTurn (limit : Nat) (files : List (Pending Source)) {state : σ}
    (inTurn : desk.InTurn interval state 0) :
    desk.InTurn interval ((recordFiles languages settings
      (services load (some client) conditions) conditions.choose limit files).run state).2 0 := by
  have last := Window.run_holds languages settings (services load (some client) conditions)
    (max limit 1) conditions.choose (fun state window => desk.InTurn interval state window.asking)
    (fun events state window inTurn => Desk.InTurn.bides inTurn (bide.choose events))
    (happens_inTurn paced bide loads languages settings)
    (eventsPerFile * files.length) { waiting := files } state inTurn
  have isDone := Window.run_waiting_isDone languages settings
    (services load (some client) conditions) limit conditions.choose files state
  rw [← isDone.asking_eq]
  exact last

/-! ## What a survey asks -/

omit paced bide loads

/-- What is asked about a file, and the part of its record that depends on it.  A file that is parsed is
asked about once, with a prompt about the content that was loaded, whatever the answer is. -/
def Asked (load : Source → StateM σ (Except FileError ByteArray)) (languages : Languages)
    (settings : SurveySettings) (limit : Nat) (file : Pending Source) (record : FileRecord)
    (calls : List Call) : Prop :=
  record.path = file.path ∧
    match record.outcome with
    | .parsed representation => ∃ content answer,
        (∃ state, ((load file.source).run state).1 = .ok content) ∧
          languages.represent settings.describesItems (Category.ofPath file.path) file.path
            (decodeText content) = .ok (.parsed representation) ∧
          calls = [⟨summaryPrompt limit file.path (decodeText content), answer⟩] ∧
            record.summary = some (.ofAnswer answer)
    | .failed _ | .skipped _ => calls = [] ∧ record.summary = none

/-- What happens between a survey of some files and the completion service, from the start to the end. -/
structure AsksInTurn (settings : SurveySettings) (languages : Languages)
    (load : Source → StateM σ (Except FileError ByteArray)) (limit interval : Nat)
    (files : List (Pending Source)) (records : List FileRecord) (contacts : List Contact) :
    Prop where
  /-- Each file that is parsed is asked about once, no other file is, and nothing else is asked. -/
  asked : ∃ interviews : List (Pending Source × List Call),
    interviews.map (·.1) = files ∧
      List.Forall₂ (fun interview record =>
        Asked load languages settings limit interview.1 record interview.2) interviews records ∧
      (Contact.calls contacts).Perm (interviews.flatMap (·.2))
  /-- Each call, whatever its answer is, has a turn of its own, which was granted before. -/
  isAdmitted : Contact.Admitted 0 contacts
  used : (Contact.turnTimes contacts).length = (Contact.calls contacts).length
  apart : Contact.Punctual 0 0 contacts → (Contact.callTimes contacts).Pairwise
    fun earlier later => earlier + interval ≤ later

/-- What is logged of turns and calls. -/
def contactEntries (load : Source → StateM σ (Except FileError ByteArray)) :
    Entries Source Contact where
  load source content written := written = [] ∧ ∃ state, ((load source).run state).1 = content
  turn written := ∃ time, written = [.turn time]
  answer prompt answer written := ∃ time, written = [.call ⟨prompt, answer⟩ time]

include paced bide loads in
theorem services_log :
    (services load (some client) conditions).Log desk.contacts (contactEntries load) where
  load source state := by
    refine ⟨[], ?_, rfl, state, rfl⟩
    rw [List.append_nil]
    exact (loads source state).2
  awaitWorker path state := (bide.awaitWorker path state).2
  awaitTurn state := by
    obtain ⟨_, _, _, contacts_eq⟩ := paced.awaitTurn state
    exact ⟨_, contacts_eq, _, rfl⟩
  complete prompt state := ⟨_, (paced.complete prompt state).2, _, rfl⟩

/-- The way of a file to its record shows what was asked about it. -/
theorem asked_of_ended (settings : SurveySettings) {file : Pending Source} {record : FileRecord}
    {written : List Contact}
    (ended : (contactEntries load).Ended languages (settings.recordSettings (some client)) file record
      written) :
    Asked load languages settings client.promptLimit file record (Contact.calls written) := by
  cases ended with
  | skipped notParsed => exact ⟨rfl, rfl, rfl⟩
  | unloaded failed =>
      obtain ⟨rfl, _⟩ := failed.isLoaded
      exact ⟨rfl, rfl, rfl⟩
  | unasked loaded isFinished =>
      obtain ⟨rfl, _⟩ := loaded.isLoaded
      obtain ⟨path_eq, noSummary, outcome⟩ := Progress.finished_of_parsed isFinished
      refine ⟨path_eq, ?_⟩
      obtain ⟨_, outcome_eq⟩ | ⟨_, outcome_eq⟩ | ⟨_, outcome_eq⟩ | ⟨_, noLimit⟩ := outcome
      · rw [outcome_eq]
        exact ⟨rfl, noSummary⟩
      · rw [outcome_eq]
        exact ⟨rfl, noSummary⟩
      · rw [outcome_eq]
        exact ⟨rfl, noSummary⟩
      · cases noLimit
  | @asked content _ base prompt answer _ _ _ loaded isQueued hadTurn isAnswered =>
      obtain ⟨rfl, isLoaded⟩ := loaded.isLoaded
      obtain ⟨_, rfl⟩ := hadTurn
      obtain ⟨_, rfl⟩ := isAnswered
      obtain ⟨limit, representation, isLimit, represented, rfl, path_eq, outcome_eq⟩ :=
        Progress.queued_of_parsed isQueued
      cases isLimit
      refine ⟨path_eq, ?_⟩
      dsimp only
      rw [outcome_eq]
      exact ⟨content, answer, isLoaded, represented, rfl, rfl⟩

include paced bide loads in
theorem recordAll_asksInTurn (settings : SurveySettings) (files : List (Pending Source))
    {state : σ} (start : desk.InTurn interval state 0) (noContact : desk.contacts state = []) :
    let recorded := (settings.recordAll languages load (some client) conditions files).run state
    AsksInTurn settings languages load client.promptLimit interval files recorded.1
      (desk.contacts recorded.2) := by
  obtain ⟨written, contacts_eq, tracks, files_eq, ended, perm⟩ :=
    recordFiles_logs (services_log paced bide loads) languages
      (settings.recordSettings (some client)) (fun events state => (bide.choose events state).2)
      settings.concurrency files state
  have inTurn := recordFiles_inTurn paced bide loads languages
    (settings.recordSettings (some client)) settings.concurrency files start
  rw [noContact, List.nil_append] at contacts_eq
  refine ⟨⟨tracks.map fun track => (track.file, Contact.calls track.written), ?_, ?_, ?_⟩,
    inTurn.isAdmitted, ?_, inTurn.calls_apart⟩
  · rw [List.map_map]
    exact files_eq
  · rw [List.forall₂_map_left_iff]
    exact ended.imp fun track record isEnded => asked_of_ended languages settings isEnded
  · have callsPerm : (Contact.calls written).Perm _ := perm.filterMap _
    rw [List.filterMap_flatMap, ← contacts_eq] at callsPerm
    rw [List.flatMap_map]
    exact callsPerm
  · have used := inTurn.used
    rw [Nat.add_zero] at used
    exact used.trans (Contact.length_callTimes _)

end SurveySettings

open SurveySettings in
/-- A survey with a client that waits for its turns asks about each file that is parsed once, with a prompt
about its path and its content, and asks nothing else.  This holds for every limit of files in flight and
for every choice among possible events.  A call that fails uses a turn like any other.  If the clock
stands still between a turn and its call, calls are at least the interval apart. -/
theorem survey_asks_in_turn (settings : SurveySettings) (languages : Languages) {desk : Desk σ}
    {client : Summarizer (StateM σ)} (paced : client.Paced desk) {conditions : Conditions (StateM σ)}
    (bide : conditions.Bide desk) {interval now : Nat} {state : σ}
    (isIdle : desk.limiter state = .idle interval now) (noContact : desk.contacts state = []) :
    (∀ (files : FileOperations (StateM σ)), (∀ path, desk.Bides (files.list path).run) →
      (∀ path, desk.Bides (files.read path).run) → ∀ root,
        let listed := (files.list root).run.run state
        let surveyed := (settings.surveyDirectory languages files (some client) root
          conditions).run.run state
        match Listing.walk settings.ignored root listed.1 with
        | .error error => surveyed.1 = .error error ∧ desk.contacts surveyed.2 = []
        | .ok found => ∃ aggregate, surveyed.1 = .ok aggregate ∧
            AsksInTurn settings languages (loadFrom files) client.promptLimit interval
              (found.map pendingFound) aggregate.files (desk.contacts surveyed.2)) ∧
      ∀ (host : RepositoryHost (StateM σ)), desk.Bides host.metadata → desk.Bides host.listFiles →
        (∀ file, desk.Bides (host.fetch file)) →
          let listed := host.listFiles.run (host.metadata.run state).2
          let surveyed := (settings.surveyRepository languages host (some client)
            conditions).run state
          AsksInTurn settings languages (fetchFrom host) client.promptLimit interval
            (((listed.1.toOption.getD []).filter fun file =>
              !settings.ignored.ignoresPath file.path).map pendingRemote)
            surveyed.1.files (desk.contacts surveyed.2) := by
  have start : desk.InTurn interval state 0 := .of_idle isIdle noContact
  constructor
  · intro files lists reads root
    have listed := start.bides (lists root)
    have noneListed := (lists root state).2.trans noContact
    dsimp only
    rw [settings.surveyDirectory_run languages (some client) conditions files root state]
    dsimp only
    cases walked : Listing.walk settings.ignored root ((files.list root).run.run state).1 with
    | error error => exact ⟨rfl, noneListed⟩
    | ok found =>
        refine ⟨_, rfl, ?_⟩
        exact recordAll_asksInTurn paced bide (fun path => .loadFrom (reads path)) languages settings
          (found.map pendingFound) listed noneListed
  · intro host asks lists fetches
    have known := start.bides asks
    have listed := known.bides lists
    have noneListed : desk.contacts (host.listFiles.run (host.metadata.run state).2).2 = [] :=
      ((lists _).2.trans (asks state).2).trans noContact
    exact recordAll_asksInTurn paced bide (fun file => .fetchFrom (fetches file)) languages settings
      _ listed noneListed

/-! ## A busy service -/

/-- A limiter at which nobody waits, and the turns and calls so far. -/
structure Booth where
  limiter : Limiter
  nobodyWaits : limiter.pending = []
  contacts : List Contact := []

namespace Booth

def desk : Desk Booth := ⟨limiter, contacts⟩

def atStart : Booth := { limiter := .idle 10 0, nobodyWaits := rfl }

/-- Gives a value after some time. -/
def taking (time : Nat) (value : α) : StateM Booth α := fun booth =>
  (value, { booth with limiter := booth.limiter.after (.pass time) })

theorem bides_taking (time : Nat) (value : α) : desk.Bides (taking time value) :=
  fun booth => ⟨⟨[.pass time], by simp, rfl⟩, rfl⟩

/-- A client whose first call fails. -/
def client : Summarizer (StateM Booth) where
  promptLimit := 100
  awaitTurn := fun booth =>
    let limiter := booth.limiter.acquire
    ((), ⟨limiter, (Limiter.acquire_takes booth.nobodyWaits).2,
      booth.contacts ++ [.turn limiter.now]⟩)
  complete prompt := fun booth =>
    let answer := if (Contact.calls booth.contacts).isEmpty then .error "busy" else .ok "A list."
    let called : Contact := .call ⟨prompt, answer⟩ booth.limiter.now
    (taking 3 answer).run { booth with contacts := booth.contacts ++ [called] }

theorem client_paced : client.Paced desk where
  awaitTurn booth := by
    obtain ⟨waiting, bides, taken⟩ := (Limiter.acquire_takes booth.nobodyWaits).1
    exact ⟨waiting, bides, taken, rfl⟩
  complete prompt booth := ⟨(bides_taking 3 () booth).1, rfl⟩

/-- The file that was taken up last goes on first, and one of the workers is lost. -/
def conditions : Conditions (StateM Booth) where
  choose events := taking 0 (events.length - 1)
  awaitWorker path := taking 1 (if path == "lost.json" then some "panic" else none)

theorem conditions_bide : conditions.Bide desk :=
  ⟨fun _ => bides_taking 0 _, fun _ => bides_taking 1 _⟩

/-- A host that has lost the content of one of its files. -/
def host : RepositoryHost (StateM Booth) where
  metadata := taking 5 (.error "unknown")
  listFiles := taking 5 (.ok [⟨"a.json", "1", none⟩, ⟨"b.bin", "2", none⟩, ⟨"lost.json", "3", none⟩,
    ⟨"c.json", "4", none⟩, ⟨"gone.json", "5", none⟩])
  fetch file := taking 2 (if file.path == "gone.json" then .error "gone" else .ok "[1]".toUTF8)

/-- A disk with one file that can be read and one that cannot. -/
def disk : FileOperations (StateM Booth) where
  list _ := taking 5 (.ok (.directory [("a.json", .file 3), ("gone.json", .file 3)]))
  read path := taking 2
    (if path == "root/gone.json" then .error .busy else .ok "[1]".toUTF8)
  isDirectory _ := taking 0 false
  makeDirectory _ := taking 0 (.error .busy)
  createTemporary _ := taking 0 (.error .busy)
  append _ _ := taking 0 (.error .busy)
  rename _ _ := taking 0 (.error .busy)
  remove _ := taking 0 ()

/-- What happens between the survey of the host and the service. -/
def hostContacts : List Contact :=
  let called (path : String) (answer : Except String String) : Call :=
    ⟨summaryPrompt client.promptLimit path "[1]", answer⟩
  [.turn 13, .call (called "a.json" (.error "busy")) 13, .turn 23,
    .call (called "c.json" (.ok "A list.")) 23]

open SurveySettings in
theorem surveys_at_booth_ask_in_turn :
    client.Paced desk ∧ conditions.Bide desk ∧ desk.limiter atStart = .idle 10 0 ∧
      desk.contacts atStart = [] ∧ (∀ path, desk.Bides (disk.list path).run) ∧
      (∀ path, desk.Bides (disk.read path).run) ∧ desk.Bides host.metadata ∧
      desk.Bides host.listFiles ∧ (∀ file, desk.Bides (host.fetch file)) ∧
      (let listed := (disk.list "root").run.run atStart
        let surveyed := (({ concurrency := 2 } : SurveySettings).surveyDirectory {} disk
          (some client) "root" conditions).run.run atStart
        match Listing.walk .standard "root" listed.1 with
        | .error error => surveyed.1 = .error error ∧ desk.contacts surveyed.2 = []
        | .ok found => ∃ aggregate, surveyed.1 = .ok aggregate ∧
            AsksInTurn { concurrency := 2 } {} (loadFrom disk) 100 10 (found.map pendingFound)
              aggregate.files (desk.contacts surveyed.2)) ∧
      (let listed := host.listFiles.run (host.metadata.run atStart).2
        let surveyed := (({ concurrency := 2 } : SurveySettings).surveyRepository {} host
          (some client) conditions).run atStart
        AsksInTurn { concurrency := 2 } {} (fetchFrom host) 100 10
            (((listed.1.toOption.getD []).filter fun file =>
              !IgnoredNames.standard.ignoresPath file.path).map pendingRemote)
            surveyed.1.files (desk.contacts surveyed.2) ∧
          desk.contacts surveyed.2 = hostContacts ∧ Contact.Punctual 0 0 hostContacts) := by
  have isIdle : desk.limiter atStart = .idle 10 0 := rfl
  obtain ⟨ofDirectory, ofRepository⟩ := survey_asks_in_turn { concurrency := 2 } {} client_paced
    conditions_bide isIdle rfl
  exact ⟨client_paced, conditions_bide, isIdle, rfl, fun _ => bides_taking 5 _,
    fun _ => bides_taking 2 _, bides_taking 5 _, bides_taking 5 _, fun _ => bides_taking 2 _,
    ofDirectory disk (fun _ => bides_taking 5 _) (fun _ => bides_taking 2 _) "root",
    ofRepository host (bides_taking 5 _) (bides_taking 5 _) (fun _ => bides_taking 2 _),
    by decide +kernel, by simp [hostContacts, Contact.Punctual]⟩

end Booth

end RepoSurvey
