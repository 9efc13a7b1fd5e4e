import RepoSurvey.Proofs.Actions
import RepoSurvey.Proofs.Survey.Courses
import RepoSurvey.Proofs.Web.Addresses
import RepoSurvey.Proofs.Web.Answers

/-!
# Requests to the host

A survey of a repository asks the host about the repository, then for the listing, and then for the content
of each file that it wants to parse, once.  Whatever comes back, or if nothing does, nothing else is asked
and the survey ends with its records.
-/

namespace RepoSurvey

open Web (WebError Shape Request Reply)

variable {σ : Type}

/-! ## Exchanges with a server -/

/-- A request that was sent, and the reply if one came. -/
structure Exchange where
  request : Request
  reply : Option Reply

namespace Exchange

/-- The content of a reply that came and that tells of success. -/
def content? (exchange : Exchange) : Option ByteArray :=
  (exchange.reply.filter fun reply => 200 ≤ reply.status && reply.status < 300).map Reply.content

theorem content?_eq (exchange : Exchange) :
    exchange.content? = (exchange.reply.filter Reply.isSuccess).map Reply.content := rfl

/-- A reply came, it tells of success, and its content is a document that tells a value. -/
def Tells {α : Type} (exchange : Exchange) (tells : Json.Located → α → Prop) (value : α) : Prop :=
  ∃ content, exchange.content? = some content ∧ Web.DocumentTells tells content value

/-- The entries of the listing that came. Without a listing there are none. -/
def Lists (exchange : Exchange) (entries : List ListingEntry) : Prop :=
  exchange.Tells ListingEntry.ListTold entries ∨
    (¬ ∃ told, exchange.Tells ListingEntry.ListTold told) ∧ entries = []

theorem tells_iff {α : Type} {shape : Shape α} {tells : Json.Located → α → Prop}
    (reads : shape.Reads tells) {exchange : Exchange} {value : α} :
    exchange.Tells tells value ↔ exchange.content?.bind shape.readBytes = some value := by
  simp only [Tells, Option.bind_eq_some_iff, reads.readBytes_eq_some_iff]

theorem not_tells_iff {α : Type} {shape : Shape α} {tells : Json.Located → α → Prop}
    (reads : shape.Reads tells) {exchange : Exchange} :
    (¬ ∃ value, exchange.Tells tells value) ↔ exchange.content?.bind shape.readBytes = none := by
  simp only [tells_iff reads, Option.eq_none_iff_forall_ne_some, not_exists, ne_eq]

theorem lists_read (exchange : Exchange) :
    exchange.Lists ((exchange.content?.bind ListingEntry.listShape.readBytes).getD []) := by
  cases isRead : exchange.content?.bind ListingEntry.listShape.readBytes with
  | none => exact .inr ⟨(not_tells_iff ListingEntry.listShape_reads).mpr isRead, rfl⟩
  | some entries => exact .inl ((tells_iff ListingEntry.listShape_reads).mpr isRead)

end Exchange

/-- Every request is sent once, and the log tells what came back. -/
def LogsExchanges (web : Web (StateM σ)) (log : σ → List Exchange) : Prop :=
  ∀ request, Logs log (web.send request) fun reply written => written = [⟨request, reply⟩]

namespace HostSettings

/-- The request for something in a form. -/
def request (settings : HostSettings) (address form : String) : Except WebError Request :=
  Request.make .get address (settings.headers form)

/-- The form in which documents are asked for. -/
def documentForm : String := "application/vnd.github+json"

/-- The form in which the content of a file is asked for. -/
def contentForm : String := "application/vnd.github.raw+json"

variable {settings : HostSettings} {web : Web (StateM σ)} {log : σ → List Exchange}

/-- Sends one request, if it can be made. -/
theorem ask_run {address form : String} {request : Request}
    (isMade : settings.request address form = .ok request) (state : σ) :
    (settings.ask web address form).run.run state =
      let sent := (web.send request).run state
      (match sent.1 with
        | none => .error (.web (.unanswered request.address))
        | some reply =>
            if reply.isSuccess then .ok reply.content else .error (.refused address reply.status),
        sent.2) := by
  unfold HostSettings.request at isMade
  unfold ask Web.ask
  rw [isMade]
  simp only [ExceptT.run_bind, run_adapt, ExceptT.run_mk, pure_bind, ExceptT.run_lift, map_bind,
    StateT.run_bind, StateT.run_map]
  obtain ⟨reply, later⟩ := (web.send request).run state
  cases reply with
  | none => rfl
  | some reply =>
      change ((if reply.isSuccess then pure reply.content
        else throw (.refused address reply.status) :
          ExceptT HostError (StateM σ) ByteArray).run).run later = _
      dsimp only
      split <;> rfl

/-- One exchange tells what a request was answered with. `read` is what is read from the content of a
reply. -/
def Answered {ε α : Type} (settings : HostSettings) (address form : String)
    (read : ByteArray → Option α) (given : Except ε α) (written : List Exchange) : Prop :=
  ∃ exchange : Exchange, settings.request address form = .ok exchange.request ∧
    written = [exchange] ∧ given.toOption = exchange.content?.bind read

theorem ask_logs (logged : LogsExchanges web log) {address form : String} {request : Request}
    (isMade : settings.request address form = .ok request) :
    Logs log (settings.ask web address form).run (Answered settings address form some) := by
  intro state
  obtain ⟨written, isLogged, rfl⟩ := logged request state
  rw [ask_run isMade]
  refine ⟨_, isLogged, ⟨request, ((web.send request).run state).1⟩, isMade, rfl, ?_⟩
  rw [Exchange.content?_eq]
  dsimp only
  cases ((web.send request).run state).1 with
  | none => rfl
  | some reply =>
      dsimp only
      rw [Option.filter_some]
      split <;> rfl

/-- A document is asked for once, whether or not it can be read. -/
theorem document_logs {α β : Type} (logged : LogsExchanges web log) {address : String}
    {request : Request} (isMade : settings.request address documentForm = .ok request)
    (shape : Shape α) (change : α → β) :
    Logs log (change <$> settings.askDocument web address shape).run
      (Answered settings address documentForm fun content =>
        (shape.readBytes content).map change) := by
  let decode (content : ByteArray) : Except HostError β :=
    ((shape.readBytes content).map change).elim (.error (.web .undecodable)) .ok
  have run_eq : (change <$> settings.askDocument web address shape).run =
      (Except.bind · decode) <$> (settings.ask web address documentForm).run := by
    rw [ExceptT.run_map, askDocument, ExceptT.run_bind, map_bind, map_eq_pure_bind]
    refine bind_congr fun given => ?_
    cases given with
    | error error => rfl
    | ok content =>
        dsimp only [Except.bind, decode]
        cases shape.readBytes content <;> rfl
  rw [run_eq]
  refine (ask_logs logged isMade).map _ fun given written answered => ?_
  obtain ⟨exchange, isMade, written_eq, given_eq⟩ := answered
  refine ⟨exchange, isMade, written_eq, ?_⟩
  rw [Option.bind_fun_some] at given_eq
  rw [← given_eq]
  cases given with
  | error error => rfl
  | ok content =>
      change (decode content).toOption = (shape.readBytes content).map change
      dsimp only [decode]
      cases shape.readBytes content <;> rfl

/-- What a host tells is told with a message if it fails. -/
theorem told_logs {α : Type} {action : ExceptT HostError (StateM σ) α} {address form : String}
    {read : ByteArray → Option α}
    (logs : Logs log action.run (Answered settings address form read)) :
    Logs log (do return (← action.run).mapError HostError.message : StateM σ (Except String α))
      (Answered settings address form read) := by
  refine logs.map (Except.mapError HostError.message) fun given written answered => ?_
  obtain ⟨exchange, isMade, written_eq, given_eq⟩ := answered
  refine ⟨exchange, isMade, written_eq, ?_⟩
  rw [← given_eq]
  cases given <;> rfl

variable {owner name : String} {request : Request}

theorem metadata_logs (logged : LogsExchanges web log)
    (isMade : settings.request (settings.repositoryAddress owner name) documentForm = .ok request) :
    Logs log (settings.repository web owner name).metadata
      (Answered settings (settings.repositoryAddress owner name) documentForm fun content =>
        (RepositoryAnswer.shape.readBytes content).map (·.metadata)) :=
  told_logs (document_logs logged isMade _ _)

theorem listFiles_logs (logged : LogsExchanges web log)
    (isMade : settings.request (settings.listingAddress owner name) documentForm = .ok request) :
    Logs log (settings.repository web owner name).listFiles
      (Answered settings (settings.listingAddress owner name) documentForm fun content =>
        (ListingEntry.listShape.readBytes content).map ListingEntry.files) :=
  told_logs (document_logs logged isMade _ _)

theorem fetch_logs (logged : LogsExchanges web log) {file : RemoteFile}
    (isMade : settings.request (settings.contentAddress owner name file.hash) contentForm =
      .ok request) :
    Logs log ((settings.repository web owner name).fetch file)
      (Answered settings (settings.contentAddress owner name file.hash) contentForm some) :=
  told_logs (ask_logs logged isMade)

/-! ## Requests about one repository -/

/-- A request of a survey: it goes to the server that was asked first, and shows the secret if there is
one. -/
structure Proper (settings : HostSettings) (first request : Request) : Prop where
  method : request.method = .get
  server : first.address.SameServer request.address
  authorization : ∀ value, ("authorization", value) ∈ request.headers ↔
    ∃ secret, settings.secret = some secret ∧ Web.headerValue (Web.bearer secret) = value

/-- If the first request about a repository can be made, all others can be made. -/
theorem request_below {first : Request}
    (isMade : settings.request (settings.repositoryAddress owner name) documentForm = .ok first)
    (rest form : String) (isValue : Web.isHeaderValue form = true) :
    ∃ request, settings.request (settings.repositoryAddress owner name ++ rest) form = .ok request ∧
      settings.Proper first request := by
  let base := trimEnd (· == '/') settings.address
  have address_eq (rest : String) : settings.repositoryAddress owner name ++ rest =
      base ++ "/" ++ "repos" ++ "/" ++ (owner ++ "/" ++ name ++ rest) := by
    have parts : "/repos/" = "/" ++ "repos" ++ "/" := rfl
    rw [repositoryAddress, parts]
    simp only [String.append_assoc]
    rfl
  have first_eq := address_eq ""
  rw [String.append_empty] at first_eq
  rw [HostSettings.request, first_eq] at isMade
  obtain ⟨_, _, areValues, _, _⟩ := Request.make_eq_ok_iff.mp isMade
  have otherValues : ((settings.headers form).all fun header => Web.isHeaderValue header.2) = true := by
    rw [headers, List.all_append, Bool.and_eq_true] at areValues ⊢
    refine ⟨?_, areValues.2⟩
    simp only [List.all_cons, List.all_nil, isValue, Bool.and_true]
    decide
  have hasName : ∃ character ∈ Web.Address.unbroken "repos".toList,
      Web.Address.isSlash character = false := ⟨'r', by decide, by decide⟩
  obtain ⟨request, otherMade, same⟩ := Request.make_below hasName isMade otherValues
    (owner ++ "/" ++ name ++ rest)
  rw [HostSettings.request, address_eq]
  refine ⟨request, otherMade, ?_⟩
  obtain ⟨_, _, _, _, rfl⟩ := Request.make_eq_ok_iff.mp otherMade
  refine ⟨rfl, same, fun value => ?_⟩
  cases hasSecret : settings.secret <;> simp [headers, hasSecret, eq_comm]

variable {first : Request}

theorem first_proper
    (isMade : settings.request (settings.repositoryAddress owner name) documentForm = .ok first) :
    settings.Proper first first := by
  obtain ⟨same, sameMade, isProper⟩ := request_below isMade "" documentForm (by decide)
  rw [String.append_empty, isMade] at sameMade
  cases sameMade
  exact isProper

theorem listing_made
    (isMade : settings.request (settings.repositoryAddress owner name) documentForm = .ok first) :
    ∃ request, settings.request (settings.listingAddress owner name) documentForm = .ok request ∧
      settings.Proper first request :=
  request_below isMade "/git/trees/HEAD?recursive=1" documentForm (by decide)

theorem content_made
    (isMade : settings.request (settings.repositoryAddress owner name) documentForm = .ok first)
    (hash : String) :
    ∃ request, settings.request (settings.contentAddress owner name hash) contentForm =
      .ok request ∧ settings.Proper first request := by
  obtain ⟨request, requestMade, isProper⟩ :=
    request_below isMade ("/git/blobs/" ++ hash) contentForm (by decide)
  rw [← String.append_assoc] at requestMade
  exact ⟨request, requestMade, isProper⟩

/-! ## Fetching files -/

/-- What is asked about a file that is wanted, and the part of its record that depends on it.  The content
of a file is asked for once if it is to be parsed, and never otherwise; the record tells that it could not
be fetched if and only if the reply was none or no success. -/
structure Fetched (settings : HostSettings) (owner name : String) (file : RemoteFile)
    (record : FileRecord) (exchanges : List Exchange) : Prop where
  path_eq : record.path = file.path
  requests : if (Category.ofPath file.path).isParsed then
      ∃ exchange, exchanges = [exchange] ∧
        settings.request (settings.contentAddress owner name file.hash) contentForm =
          .ok exchange.request
    else exchanges = []
  unfetched_iff : (∃ reason, record.outcome = .failed (.fetch reason)) ↔
    ∃ exchange ∈ exchanges, exchange.content? = none

/-- What is logged of the loading of a file. -/
def FetchLogged (settings : HostSettings) (owner name : String) (file : RemoteFile)
    (content : Except FileError ByteArray) (written : List Exchange) : Prop :=
  Answered settings (settings.contentAddress owner name file.hash) contentForm some content written ∧
    ∀ error, content = .error error → ∃ reason, error = .fetch reason

open SurveySettings in
theorem fetchFrom_logs (logged : LogsExchanges web log) {file : RemoteFile}
    (isMade : settings.request (settings.contentAddress owner name file.hash) contentForm =
      .ok request) :
    Logs log (fetchFrom (settings.repository web owner name) file)
      (FetchLogged settings owner name file) := by
  have run_eq : fetchFrom (settings.repository web owner name) file =
      Except.mapError FileError.fetch <$> (settings.repository web owner name).fetch file := by
    rw [fetchFrom, map_eq_pure_bind]
    refine bind_congr fun given => ?_
    cases given <;> rfl
  rw [run_eq]
  refine (fetch_logs logged isMade).map _ fun given written answered => ?_
  obtain ⟨exchange, isMade, written_eq, given_eq⟩ := answered
  cases given with
  | error reason =>
      refine ⟨⟨exchange, isMade, written_eq, given_eq⟩, fun error isError => ?_⟩
      cases isError
      exact ⟨reason, rfl⟩
  | ok content => exact ⟨⟨exchange, isMade, written_eq, given_eq⟩, nofun⟩

/-- A file whose content came was fetched, whatever becomes of it. -/
theorem fetched_of_loaded {file : RemoteFile} {content : ByteArray} {record : FileRecord}
    {written : List Exchange} (isParsed : (Category.ofPath file.path).isParsed)
    (isLoaded : FetchLogged settings owner name file (.ok content) written)
    (path_eq : record.path = file.path)
    (notFailed : ¬ ∃ reason, record.outcome = .failed (.fetch reason)) :
    Fetched settings owner name file record written := by
  obtain ⟨⟨exchange, isMade, rfl, given_eq⟩, _⟩ := isLoaded
  have content_eq : exchange.content? = some content := by
    rw [← Option.bind_fun_some exchange.content?]
    exact given_eq.symm
  refine ⟨path_eq, ?_, ?_⟩
  · rw [if_pos isParsed]
    exact ⟨exchange, rfl, isMade⟩
  · simp [notFailed, content_eq]

theorem fetched_of_ended {languages : Languages} {recordSettings : RecordSettings}
    {file : RemoteFile} {record : FileRecord} {written : List Exchange}
    (ended : (Entries.ofLoading (FetchLogged settings owner name)).Ended languages recordSettings
      (SurveySettings.pendingRemote file) record written) :
    Fetched settings owner name file record written := by
  cases ended with
  | skipped notParsed =>
      have notParsed : ¬ (Category.ofPath file.path).isParsed = true :=
        (Bool.not_eq_true _).mpr notParsed
      refine ⟨rfl, ?_, by simp⟩
      rw [if_neg notParsed]
  | @unloaded error _ failed =>
      obtain ⟨isParsed, ⟨exchange, isMade, rfl, given_eq⟩, isFetch⟩ := failed
      obtain ⟨reason, rfl⟩ := isFetch error rfl
      have content_eq : exchange.content? = none := by
        rw [← Option.bind_fun_some exchange.content?]
        exact given_eq.symm
      have isParsed : (Category.ofPath file.path).isParsed = true := isParsed
      refine ⟨rfl, ?_, ?_⟩
      · rw [if_pos isParsed]
        exact ⟨exchange, rfl, isMade⟩
      · simp [content_eq]
  | unasked loaded isFinished =>
      obtain ⟨path_eq, _, outcome⟩ := Progress.finished_of_parsed isFinished
      refine fetched_of_loaded loaded.isParsed loaded.isLoaded path_eq ?_
      rintro ⟨reason, isFailed⟩
      rw [isFailed] at outcome
      simp at outcome
  | asked loaded isQueued hadTurn isAnswered =>
      obtain ⟨_, _, _, _, _, path_eq, outcome_eq⟩ := Progress.queued_of_parsed isQueued
      cases hadTurn
      cases isAnswered
      rw [List.append_nil, List.append_nil]
      refine fetched_of_loaded loaded.isParsed loaded.isLoaded path_eq ?_
      rintro ⟨reason, isFailed⟩
      dsimp only at isFailed
      rw [outcome_eq] at isFailed
      cases isFailed

/-- Each file that was fetched has its own part of the requests. -/
def Shared (settings : HostSettings) (owner name : String) (files : List RemoteFile)
    (records : List FileRecord) (exchanges : List Exchange) : Prop :=
  ∃ shares : List (RemoteFile × List Exchange), shares.map (·.1) = files ∧
    List.Forall₂ (fun share record => Fetched settings owner name share.1 record share.2)
      shares records ∧
    exchanges.Perm (shares.flatMap (·.2))

theorem shared_of_tracked {languages : Languages} {recordSettings : RecordSettings}
    {files : List RemoteFile} {records : List FileRecord} {written : List Exchange}
    {tracks : List (Track RemoteFile Exchange)}
    (tracked : Tracked (Entries.ofLoading (FetchLogged settings owner name)) languages recordSettings
      (files.map SurveySettings.pendingRemote) records written tracks) :
    Shared settings owner name files records written := by
  have isRemote : ∀ track ∈ tracks, SurveySettings.pendingRemote track.file.source = track.file := by
    intro track isTrack
    have isFile : track.file ∈ files.map SurveySettings.pendingRemote := by
      rw [← tracked.files_eq]
      exact List.mem_map_of_mem isTrack
    obtain ⟨file, _, file_eq⟩ := List.mem_map.mp isFile
    rw [← file_eq]
    rfl
  refine ⟨tracks.map fun track => (track.file.source, track.written), ?_, ?_, ?_⟩
  · have sources_eq := congrArg (List.map (·.source)) tracked.files_eq
    rw [List.map_map, List.map_map] at sources_eq
    rw [List.map_map]
    exact sources_eq.trans (List.map_id files)
  · rw [List.forall₂_map_left_iff]
    have ended := (List.forall₂_and_left _ _).mpr ⟨isRemote, tracked.ended⟩
    refine ended.imp fun track record isEnded => ?_
    obtain ⟨file_eq, isEnded⟩ := isEnded
    rw [← file_eq] at isEnded
    exact fetched_of_ended isEnded
  · rw [List.flatMap_map]
    exact tracked.perm

open SurveySettings in
/-- Recording files asks for the content of each of them that is to be parsed, and for nothing else. -/
theorem recordAll_shared (survey : SurveySettings) (languages : Languages)
    (logged : LogsExchanges web log) {summarizer : Option (Summarizer (StateM σ))}
    (clientLeaves : ∀ client ∈ summarizer, client.Leaves log) {conditions : Conditions (StateM σ)}
    (conditionsLeave : conditions.Leave log)
    (isMade : settings.request (settings.repositoryAddress owner name) documentForm = .ok first)
    (files : List RemoteFile) :
    Logs log (survey.recordAll languages (fetchFrom (settings.repository web owner name)) summarizer
      conditions (files.map pendingRemote)) (Shared settings owner name files) := by
  have loads (file : RemoteFile) :
      Logs log (fetchFrom (settings.repository web owner name) file)
        (FetchLogged settings owner name file) := by
    obtain ⟨request, requestMade, _⟩ := content_made isMade file.hash
    exact fetchFrom_logs logged requestMade
  have records := recordFiles_logs (services_log_loading loads clientLeaves conditionsLeave)
    languages (survey.recordSettings summarizer) conditionsLeave.choose survey.concurrency
    (files.map pendingRemote)
  intro state
  obtain ⟨fetches, isLogged, tracks, tracked⟩ := records state
  exact ⟨fetches, isLogged, shared_of_tracked tracked⟩

/-- All requests for content are made below the repository. -/
theorem Shared.made {files : List RemoteFile} {records : List FileRecord}
    {exchanges : List Exchange} (shared : Shared settings owner name files records exchanges) :
    ∀ exchange ∈ exchanges, ∃ hash, settings.request (settings.contentAddress owner name hash)
      contentForm = .ok exchange.request := by
  obtain ⟨shares, _, fetched, perm⟩ := shared
  have areMade := fetched.imp fun share record (isFetched : Fetched ..) =>
    show (∀ exchange ∈ share.2, settings.request
      (settings.contentAddress owner name share.1.hash) contentForm = .ok exchange.request) ∧ True by
      have requests := isFetched.requests
      split at requests
      · obtain ⟨exchange, share_eq, isMade⟩ := requests
        rw [share_eq]
        simp [isMade]
      · rw [requests]
        simp
  intro exchange isExchange
  obtain ⟨share, isShare, isIn⟩ := List.mem_flatMap.mp (perm.mem_iff.mp isExchange)
  exact ⟨_, ((List.forall₂_and_left _ _).mp areMade).1 share isShare exchange isIn⟩

end HostSettings

/-! ## The whole survey -/

/-- What a survey asks a host about a repository, and what it makes of the replies: one request about the
repository, one for the listing, and then one for each file that is wanted and parsed. -/
structure Surveyed (host : HostSettings) (owner name : String) (ignored : IgnoredNames)
    (aggregate : Aggregate) (known listed : Exchange) (fetches : List Exchange) : Prop where
  known_request : host.request (host.repositoryAddress owner name) HostSettings.documentForm =
    .ok known.request
  /-- The metadata is what the reply tells about the repository. -/
  metadata_eq_some_iff : ∀ metadata, aggregate.metadata = some metadata ↔
    ∃ answer, known.Tells RepositoryAnswer.Told answer ∧ answer.metadata = metadata
  /-- There is none if and only if no reply came, or no success, or nothing is told about a repository. -/
  metadata_eq_none_iff : aggregate.metadata = none ↔
    ¬ ∃ answer, known.Tells RepositoryAnswer.Told answer
  /-- Whatever text stands for an object with a name is understood. -/
  metadata_of_text : ∀ text answer, known.content? = some text.toUTF8 →
    RepositoryAnswer.InText text answer → aggregate.metadata = some answer.metadata
  listed_request : host.request (host.listingAddress owner name) HostSettings.documentForm =
    .ok listed.request
  /-- There is a record for each entry that is a file and not ignored, in the order of the listing. -/
  fetched : ∃ entries, listed.Lists entries ∧
    host.Shared owner name
      ((entries.filter fun entry =>
        entry.kind == "blob" && !ignored.ignoresPath entry.file.path).map (·.file))
      aggregate.files fetches
  proper : ∀ exchange ∈ known :: listed :: fetches, host.Proper known.request exchange.request

/-- The files that are wanted of a listing. -/
theorem wanted_eq (ignored : IgnoredNames) (entries : Option (List ListingEntry)) :
    ((entries.map ListingEntry.files).getD []).filter (!ignored.ignoresPath ·.path) =
      ((entries.getD []).filter fun entry =>
        entry.kind == "blob" && !ignored.ignoresPath entry.file.path).map (·.file) := by
  cases entries with
  | none => rfl
  | some entries =>
      rw [Option.map_some, Option.getD_some, Option.getD_some, ListingEntry.files, List.filter_map,
        List.filter_filter]
      congr 1
      refine List.filter_congr fun entry _ => ?_
      exact Bool.and_comm _ _

open SurveySettings in
/-- A survey of a repository always ends with its records, whatever the host replies.  It asks about the
repository, then for the listing, and then for the content of each listed file that is not ignored and
that is to be parsed, once; nothing else is asked.  Every request goes to the same server and shows the
secret, if there is one. -/
theorem survey_asks_for_what_it_parses (settings : SurveySettings) (languages : Languages)
    (host : HostSettings) (owner name : String) {web : Web (StateM σ)} {log : σ → List Exchange}
    (logged : LogsExchanges web log) {summarizer : Option (Summarizer (StateM σ))}
    (clientLeaves : ∀ client ∈ summarizer, client.Leaves log) {conditions : Conditions (StateM σ)}
    (conditionsLeave : conditions.Leave log) {first : Request}
    (isMade : host.request (host.repositoryAddress owner name) HostSettings.documentForm = .ok first)
    (state : σ) :
    let surveyed := (settings.surveyRepository languages (host.repository web owner name) summarizer
      conditions).run state
    ∃ known listed fetches, log surveyed.2 = log state ++ known :: listed :: fetches ∧
      Surveyed host owner name settings.ignored surveyed.1 known listed fetches := by
  obtain ⟨listing, listingMade, listingProper⟩ := HostSettings.listing_made isMade
  obtain ⟨_, knownLogged, known, knownMade, rfl, known_eq⟩ :=
    HostSettings.metadata_logs logged isMade state
  obtain ⟨_, listedLogged, listed, listedMade, rfl, listed_eq⟩ :=
    HostSettings.listFiles_logs logged listingMade
      ((host.repository web owner name).metadata.run state).2
  rw [surveyRepository_run]
  dsimp only
  generalize (host.repository web owner name).metadata.run state = afterMetadata at *
  generalize (host.repository web owner name).listFiles.run afterMetadata.2 = afterListing at *
  have entries_eq : afterListing.1.toOption =
      (listed.content?.bind ListingEntry.listShape.readBytes).map ListingEntry.files :=
    listed_eq.trans (Option.map_bind ..).symm
  rw [entries_eq, wanted_eq]
  obtain ⟨fetches, fetchesLogged, shared⟩ := HostSettings.recordAll_shared settings languages logged
    clientLeaves conditionsLeave isMade _ afterListing.2
  have metadata_eq : afterMetadata.1.toOption =
      (known.content?.bind RepositoryAnswer.shape.readBytes).map (·.metadata) :=
    known_eq.trans (Option.map_bind ..).symm
  rw [metadata_eq]
  have some_iff (metadata : RepositoryMetadata) :
      (known.content?.bind RepositoryAnswer.shape.readBytes).map (·.metadata) = some metadata ↔
        ∃ answer, known.Tells RepositoryAnswer.Told answer ∧ answer.metadata = metadata := by
    simp only [Exchange.tells_iff RepositoryAnswer.shape_reads, Option.map_eq_some_iff]
  have none_iff : (known.content?.bind RepositoryAnswer.shape.readBytes).map (·.metadata) = none ↔
      ¬ ∃ answer, known.Tells RepositoryAnswer.Told answer := by
    rw [Exchange.not_tells_iff RepositoryAnswer.shape_reads, Option.map_eq_none_iff]
  refine ⟨known, listed, fetches, ?_, knownMade, some_iff, none_iff, ?_, listedMade, ?_, ?_⟩
  · rw [fetchesLogged, listedLogged, knownLogged, List.append_assoc, List.append_assoc]
    rfl
  · intro text answer content_eq isText
    have told := RepositoryAnswer.documentTells_of_inText isText
    exact (some_iff answer.metadata).mpr ⟨answer, ⟨_, content_eq, told⟩, rfl⟩
  · exact ⟨_, listed.lists_read, shared⟩
  · rw [isMade] at knownMade
    cases knownMade
    rw [listingMade] at listedMade
    cases listedMade
    rw [List.forall_mem_cons, List.forall_mem_cons]
    refine ⟨HostSettings.first_proper isMade, listingProper, fun exchange isFetch => ?_⟩
    obtain ⟨hash, fetchMade⟩ := shared.made exchange isFetch
    obtain ⟨request, requestMade, isProper⟩ := HostSettings.content_made isMade hash
    rw [requestMade] at fetchMade
    cases fetchMade
    exact isProper

/-! ## A host that loses some of its replies -/

namespace LossyHost

def surveySettings : SurveySettings := { concurrency := 2, ignored := ["m"] }

def settings : HostSettings := { address := "https://code.example/api//", secret := some "key " }

/-- A listing. One of its entries is written as an object, the others as arrays. -/
def listing : Reply :=
  ⟨200, ("\x7b\"tree\":[[\"b.json\",\"blob\",\"1\",null],[\"a\",\"tree\",\"2\",null]," ++
    "[\"c.png\",\"blob\",\"3\",null],[\"m/d.json\",\"blob\",\"4\",null]," ++
    "\x7b\"sha\":\"5\",\"mode\":1,\"type\":\"blob\",\"path\":\"e.json\"\x7d]\x7d").toUTF8⟩

/-- What comes back for a path: what is known of the repository, what is listed, and only one of the
contents. -/
def reply (known listed : Option Reply) (path : String) : Option Reply :=
  if path == "/api/repos/o/n" then known
  else if path == "/api/repos/o/n/git/trees/HEAD" then listed
  else if path == "/api/repos/o/n/git/blobs/1" then some ⟨200, "[1]".toUTF8⟩
  else if path == "/api/repos/o/n/git/blobs/5" then some ⟨404, "[2]".toUTF8⟩
  else none

def web (known listed : Option Reply) : Web (StateM (List Exchange)) where
  send request := fun log =>
    let given := reply known listed request.address.path
    (given, log ++ [⟨request, given⟩])

/-- The file that was taken up last goes on first. -/
def conditions : Conditions (StateM (List Exchange)) where
  choose events := return events.length - 1
  awaitWorker _ := return none

def client : Summarizer (StateM (List Exchange)) where
  promptLimit := 100
  awaitTurn := return
  complete _ := return .ok "A list."

/-- The request for a path of the host. -/
def requestFor (path : String) (query : Option String) (form : String) : Request where
  method := .get
  address := { scheme := "https", host := "code.example", path, query }
  headers := [("x-github-api-version", "2022-11-28"), ("user-agent", "source-atlas/0.1.0"),
    ("accept", form), ("authorization", "Bearer key")]

def first : Request := requestFor "/api/repos/o/n" none HostSettings.documentForm

theorem first_made :
    settings.request (settings.repositoryAddress "o" "n") HostSettings.documentForm = .ok first := by
  decide +kernel

/-- Everything that was exchanged. -/
def log (exchanges : List Exchange) : List Exchange := exchanges

theorem web_logged (known listed : Option Reply) : LogsExchanges (web known listed) log :=
  fun _ _ => ⟨_, rfl, rfl⟩

theorem client_leaves : ∀ each ∈ some client, each.Leaves log := by
  intro each isClient
  cases isClient
  exact ⟨Leaves.pure (), fun _ => Leaves.pure _⟩

theorem conditions_leave : conditions.Leave log :=
  ⟨fun _ => Leaves.pure _, fun _ => Leaves.pure _⟩

/-- A survey of the host, two files at a time. -/
def surveyed (known listed : Option Reply) : Aggregate × List Exchange :=
  (surveySettings.surveyRepository {} (settings.repository (web known listed) "o" "n") (some client)
    conditions).run []

/-- What a survey of the host is known to have asked and made of the replies. -/
def Asked (known listed : Option Reply) : Prop :=
  ∃ about listing fetches,
    log (surveyed known listed).2 = log [] ++ about :: listing :: fetches ∧
      Surveyed settings "o" "n" ["m"] (surveyed known listed).1 about listing fetches

def told : Reply :=
  ⟨200, "\x7b\"id\":[1.5],\"homepage\":\" \",\"name\":\"N\",\"html_url\":\"p\"\x7d".toUTF8⟩

/-- The name is null, so nothing is told. -/
def untold : Reply := ⟨200, "\x7b\"name\":null\x7d".toUTF8⟩

theorem survey_of_lossyHost_asks_for_what_it_parses :
    (∀ known listed, LogsExchanges (web known listed) log) ∧
      (∀ each ∈ some client, each.Leaves log) ∧ conditions.Leave log ∧
      settings.request (settings.repositoryAddress "o" "n") HostSettings.documentForm = .ok first ∧
      (Asked none (some listing) ∧
        (surveyed none (some listing)).2.map (·.request) =
          [first,
            requestFor "/api/repos/o/n/git/trees/HEAD" (some "recursive=1")
              HostSettings.documentForm,
            requestFor "/api/repos/o/n/git/blobs/1" none HostSettings.contentForm,
            requestFor "/api/repos/o/n/git/blobs/5" none HostSettings.contentForm]) ∧
      (Asked (some told) none ∧
        (surveyed (some told) none).1.metadata = some { name := "N", demoLink := some "p" }) ∧
      (Asked (some untold) none ∧ (surveyed (some untold) none).1.metadata = none) :=
  ⟨web_logged, client_leaves, conditions_leave, first_made,
    ⟨survey_asks_for_what_it_parses surveySettings {} settings "o" "n" (web_logged _ _) client_leaves
      conditions_leave first_made [], by decide +kernel⟩,
    ⟨survey_asks_for_what_it_parses surveySettings {} settings "o" "n" (web_logged _ _) client_leaves
      conditions_leave first_made [], by decide +kernel⟩,
    ⟨survey_asks_for_what_it_parses surveySettings {} settings "o" "n" (web_logged _ _) client_leaves
      conditions_leave first_made [], by decide +kernel⟩⟩

end LossyHost

end RepoSurvey
