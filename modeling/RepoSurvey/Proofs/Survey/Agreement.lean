import RepoSurvey.Proofs.Files.Walk
import RepoSurvey.Proofs.Survey.Order
import RepoSurvey.Proofs.Survey.Prompts
import RepoSurvey.Proofs.Survey.Sources

/-!
# A directory and a repository with the same files

A repository on a host that has the files of a directory gives the same records as the directory, and the
same prompts are sent.  The walk leaves out those files whose paths the survey of the repository ignores.
-/

namespace RepoSurvey

variable {σ : Type} (sent : σ → List String)

/-- In every state an action gives the same and sends nothing. -/
def Tells {α : Type} (action : StateM σ α) (value : α) : Prop :=
  Sends sent action fun given prompts => given = value ∧ prompts = []

/-- The answers of a client depend on the prompts only, and each prompt is sent when it is completed. -/
structure Summarizer.Answers (client : Summarizer (StateM σ)) (answer : String → Except String String) :
    Prop where
  awaitTurn : Silent sent client.awaitTurn
  complete : ∀ prompt,
    Sends sent (client.complete prompt) fun given prompts => given = answer prompt ∧ prompts = [prompt]

/-- In every state it is the same whether a worker is lost, and nothing is sent for that. -/
structure Conditions.AreQuiet (conditions : Conditions (StateM σ)) (lost : String → Option String) :
    Prop where
  choose : ∀ events, Silent sent (conditions.choose events)
  awaitWorker : ∀ path, Tells sent (conditions.awaitWorker path) (lost path)

/-- A disk has a tree at a path, with these contents of its files. -/
structure FileOperations.HaveTree (disk : FileOperations (StateM σ)) (root : String)
    (listing : Listing) (contents : List String → ByteArray) : Prop where
  list : Tells sent (disk.list root).run (.ok listing)
  read : ∀ place size, listing.At place (.file size) →
    Tells sent (disk.read (Listing.pathTo root place)).run (.ok (contents place))

/-- A host lists all files of a tree in the order of a walk, with their sizes, and has these contents. -/
structure RepositoryHost.HasTree (host : RepositoryHost (StateM σ)) (listing : Listing)
    (contents : List String → ByteArray) : Prop where
  metadata : Silent sent host.metadata
  listFiles : ∃ files remotes, listing.Lists [] files ∧ Tells sent host.listFiles (.ok remotes) ∧
    List.Forall₂ (fun remote file =>
      remote.path = "/".intercalate file.1 ∧ remote.size = some file.2 ∧
        Tells sent (host.fetch remote) (.ok (contents file.1))) remotes files

variable {sent}

theorem Tells.yields {α : Type} {action : StateM σ α} {value : α} (tells : Tells sent action value) :
    Yields action (· = value) := by
  intro state
  obtain ⟨_, _, given, _⟩ := tells state
  exact given

theorem Tells.silent {α : Type} {action : StateM σ α} {value : α} (tells : Tells sent action value) :
    Silent sent action :=
  tells.mono fun _ _ told => told.2

theorem Tells.bind {α β : Type} {action : StateM σ α} {value : α} {next : α → StateM σ β}
    {accepts : β → List String → Prop} (tells : Tells sent action value)
    (others : Sends sent (next value) accepts) : Sends sent (action >>= next) accepts :=
  Sends.bind tells fun _ _ told => by
    obtain ⟨rfl, rfl⟩ := told
    exact others

namespace SurveySettings

variable (settings : SurveySettings) (languages : Languages)
  {summarizer : Option (Summarizer (StateM σ))} {conditions : Conditions (StateM σ)}

/-- What is sent when a prompt is to be completed: nothing without a client. -/
def noted (summarizer : Option (Summarizer (StateM σ))) (prompt : String) : List String :=
  if summarizer.isSome then [prompt] else []

theorem loadFrom_tells {disk : FileOperations (StateM σ)} {path : String} {content : ByteArray}
    (isRead : Tells sent (disk.read path).run (.ok content)) :
    Tells sent (loadFrom disk path) (.ok content) :=
  isRead.bind (.pure ⟨rfl, rfl⟩)

theorem fetchFrom_tells {host : RepositoryHost (StateM σ)} {file : RemoteFile}
    {content : ByteArray} (isFetched : Tells sent (host.fetch file) (.ok content)) :
    Tells sent (fetchFrom host file) (.ok content) :=
  isFetched.bind (.pure ⟨rfl, rfl⟩)

section RecordAll

variable {Source : Type} {load : Source → StateM σ (Except FileError ByteArray)}
  {outcomes : Outcomes Source}

/-- What recording files gives and sends is settled by what comes of each file. -/
def Accounts (outcomes : Outcomes Source) (summarizer : Option (Summarizer (StateM σ)))
    (files : List (Pending Source)) (records : List FileRecord) (prompts : List String) : Prop :=
  let settled := settings.recordSettings summarizer
  let about := outcomes.prompts (noted summarizer) languages settled
  records = files.map (outcomes.record languages settled) ∧
    prompts.Perm (files.flatMap about) ∧ (settings.concurrency ≤ 1 → prompts = files.flatMap about)

theorem settled_of_tells
    (answers : ∀ client, summarizer = some client → client.Answers sent outcomes.answer)
    (areQuiet : conditions.AreQuiet sent outcomes.lost)
    (loads : ∀ source, Tells sent (load source) (outcomes.content source)) :
    Settled load summarizer conditions outcomes where
  load source := (loads source).yields
  awaitWorker path := (areQuiet.awaitWorker path).yields
  complete client same prompt state := by
    obtain ⟨_, _, given, _⟩ := (answers client same).complete prompt state
    exact given

theorem services_tell
    (answers : ∀ client, summarizer = some client → client.Answers sent outcomes.answer)
    (areQuiet : conditions.AreQuiet sent outcomes.lost)
    (loads : ∀ source, Tells sent (load source) (outcomes.content source)) :
    (services load summarizer conditions).Tell sent (noted summarizer) := by
  have loadsSilently source := (loads source).silent
  have waitsSilently path := (areQuiet.awaitWorker path).silent
  cases summarizer with
  | none => exact ⟨loadsSilently, waitsSilently, .pure rfl, fun prompt => .pure rfl⟩
  | some client =>
      refine ⟨loadsSilently, waitsSilently, (answers client rfl).awaitTurn, fun prompt => ?_⟩
      exact ((answers client rfl).complete prompt).mono fun _ _ told => told.2

theorem recordAll_sends (outcomes : Outcomes Source)
    (answers : ∀ client, summarizer = some client → client.Answers sent outcomes.answer)
    (areQuiet : conditions.AreQuiet sent outcomes.lost)
    (loads : ∀ source, Tells sent (load source) (outcomes.content source))
    (files : List (Pending Source)) :
    Sends sent (settings.recordAll languages load summarizer conditions files)
      (Accounts settings languages outcomes summarizer files) := by
  have settled := settled_of_tells answers areQuiet loads
  have recorded := recordFiles_sends (give_answered settled) (services_tell answers areQuiet loads)
    languages (settings.recordSettings summarizer) conditions.choose areQuiet.choose
    settings.concurrency files
  refine recorded.mono fun records prompts ⟨isRecords, areSent⟩ => ⟨?_, ?_⟩
  · rw [isRecords]
    exact List.map_congr_left fun file _ => record_answered settings languages file
  · cases summarizer <;> exact areSent

theorem recordAll_map {Other : Type} (load : Other → StateM σ (Except FileError ByteArray))
    (change : Source → Other) (files : List (Pending Source)) :
    settings.recordAll languages load summarizer conditions (files.map (.map change)) =
      settings.recordAll languages (fun source => load (change source)) summarizer conditions files :=
  recordFiles_map languages (settings.recordSettings summarizer)
    (services load summarizer conditions) change conditions.choose settings.concurrency files

end RecordAll

/-! ## The same files in both places -/

/-- A file of a repository, and the place and the size of a file in a tree. -/
abbrev Counterparts := RemoteFile × (List String × Nat)

variable (pairs : List Counterparts)

/-- The files that wait, wherever their content comes from. -/
def pendingPairs : List (Pending {pair // pair ∈ pairs}) :=
  pairs.attach.map fun pair => ⟨"/".intercalate pair.1.2.1, pair.1.2.2, pair⟩

/-- What comes of the files of a tree. -/
def outcomesOfPairs (contents : List String → ByteArray) (lost : String → Option String)
    (answer : String → Except String String) : Outcomes {pair // pair ∈ pairs} :=
  ⟨fun pair => .ok (contents pair.1.2.1), lost, answer⟩

theorem map_pendingFound (root : String) :
    ((pairs.map Prod.snd).map (Listing.foundAt root)).map pendingFound =
      (pendingPairs pairs).map (.map fun pair => Listing.pathTo root pair.1.2.1) := by
  rw [pendingPairs, List.map_map, List.map_map, List.map_map]
  exact List.attach_map_val.symm

theorem map_pendingRemote (areFiles : ∀ pair ∈ pairs,
      pair.1.path = "/".intercalate pair.2.1 ∧ pair.1.size = some pair.2.2) :
    (pairs.map Prod.fst).map pendingRemote =
      (pendingPairs pairs).map (.map fun pair => pair.1.1) := by
  rw [pendingPairs, List.map_map, List.map_map, ← List.attach_map_val]
  refine List.map_congr_left fun pair _ => ?_
  obtain ⟨path_eq, size_eq⟩ := areFiles pair.1 pair.2
  simp only [Function.comp_apply, pendingRemote, Pending.map, path_eq, size_eq, Option.getD_some]

variable {pairs} {answer : String → Except String String} {lost : String → Option String}
  {contents : List String → ByteArray}

theorem surveyDirectory_sends {disk : FileOperations (StateM σ)} {root : String} {listing : Listing}
    (answers : ∀ client, summarizer = some client → client.Answers sent answer)
    (areQuiet : conditions.AreQuiet sent lost)
    (isListed : Tells sent (disk.list root).run (.ok listing))
    (walked : Listing.walk settings.ignored root (.ok listing) =
      .ok ((pairs.map Prod.snd).map (Listing.foundAt root)))
    (areRead : ∀ pair ∈ pairs,
      Tells sent (disk.read (Listing.pathTo root pair.2.1)).run (.ok (contents pair.2.1))) :
    Sends sent (settings.surveyDirectory languages disk summarizer root conditions).run
      fun result prompts => ∃ records, result = .ok { files := records } ∧
        Accounts settings languages (outcomesOfPairs pairs contents lost answer) summarizer
          (pendingPairs pairs) records prompts := by
  have recorded := settings.recordAll_sends languages
    (outcomesOfPairs pairs contents lost answer) answers areQuiet
    (fun pair => loadFrom_tells (areRead pair.1 pair.2)) (pendingPairs pairs)
  rw [← recordAll_map, ← map_pendingFound] at recorded
  have unfolded : (settings.surveyDirectory languages disk summarizer root conditions).run =
      (disk.list root).run >>= fun listing => (do
        let found ← ExceptT.mk (pure (Listing.walk settings.ignored root listing))
        let records ← ExceptT.lift (settings.recordAll languages (loadFrom disk) summarizer
          conditions (found.map pendingFound))
        return ({ files := records } : Aggregate) : ExceptT WalkError (StateM σ) Aggregate).run :=
    rfl
  rw [unfolded]
  refine isListed.bind ?_
  rw [walked]
  intro state
  obtain ⟨prompts, isSent, accounts⟩ := recorded state
  exact ⟨prompts, isSent, _, rfl, accounts⟩

theorem surveyRepository_sends {host : RepositoryHost (StateM σ)} {remotes : List RemoteFile}
    (answers : ∀ client, summarizer = some client → client.Answers sent answer)
    (areQuiet : conditions.AreQuiet sent lost) (metadataSilent : Silent sent host.metadata)
    (areListed : Tells sent host.listFiles (.ok remotes))
    (wanted : remotes.filter (fun file => !settings.ignored.ignoresPath file.path) =
      pairs.map Prod.fst)
    (areFiles : ∀ pair ∈ pairs, pair.1.path = "/".intercalate pair.2.1 ∧ pair.1.size = some pair.2.2)
    (areFetched : ∀ pair ∈ pairs, Tells sent (host.fetch pair.1) (.ok (contents pair.2.1))) :
    Sends sent (settings.surveyRepository languages host summarizer conditions)
      fun aggregate prompts =>
        Accounts settings languages (outcomesOfPairs pairs contents lost answer) summarizer
          (pendingPairs pairs) aggregate.files prompts := by
  have recorded := settings.recordAll_sends languages
    (outcomesOfPairs pairs contents lost answer) answers areQuiet
    (fun pair => fetchFrom_tells (areFetched pair.1 pair.2)) (pendingPairs pairs)
  rw [← recordAll_map, ← map_pendingRemote pairs areFiles, ← wanted] at recorded
  refine metadataSilent.bind fun metadata => areListed.bind ?_
  exact recorded.bind fun records prompts accounts => .pure (by rwa [List.append_nil])

end SurveySettings

/-- The files that a host lists and those of the tree, one beside the other, without those whose paths are
ignored. -/
theorem counterparts {contents : List String → ByteArray}
    {host : RepositoryHost (StateM σ)} (ignored : IgnoredNames) {files : List (List String × Nat)}
    {remotes : List RemoteFile}
    (matched : List.Forall₂ (fun remote file =>
      remote.path = "/".intercalate file.1 ∧ remote.size = some file.2 ∧
        Tells sent (host.fetch remote) (.ok (contents file.1))) remotes files) :
    ∃ pairs : List SurveySettings.Counterparts,
      remotes.filter (fun remote => !ignored.ignoresPath remote.path) = pairs.map Prod.fst ∧
      files.filter (fun file => !ignored.ignoresPath ("/".intercalate file.1)) =
        pairs.map Prod.snd ∧
      ∀ pair ∈ pairs, pair.2 ∈ files ∧ pair.1.path = "/".intercalate pair.2.1 ∧
        pair.1.size = some pair.2.2 ∧ Tells sent (host.fetch pair.1) (.ok (contents pair.2.1)) := by
  obtain ⟨sameLength, areMatched⟩ := List.forall₂_iff_zip.1 matched
  have areRemotes : (remotes.zip files).map Prod.fst = remotes :=
    List.map_fst_zip (Nat.le_of_eq sameLength)
  have areFiles : (remotes.zip files).map Prod.snd = files :=
    List.map_snd_zip (Nat.le_of_eq sameLength.symm)
  refine ⟨(remotes.zip files).filter fun pair => !ignored.ignoresPath pair.1.path, ?_, ?_, ?_⟩
  · conv_lhs => rw [← areRemotes, List.filter_map]
    rfl
  · conv_lhs => rw [← areFiles, List.filter_map]
    refine congrArg (List.map Prod.snd) (List.filter_congr fun pair isIn => ?_)
    simp only [Function.comp_apply, (areMatched isIn).1]
  · intro pair isIn
    have isIn := (List.mem_filter.1 isIn).1
    exact ⟨(List.of_mem_zip isIn).2, areMatched isIn⟩

/-- The survey of a directory and the survey of a repository, each from a state, give the same records and
send the same prompts: in the same order, if one file is recorded after the other. -/
def SurveysAgree (settings : SurveySettings) (languages : Languages) (sent : σ → List String)
    (summarizer : Option (Summarizer (StateM σ))) (here there : Conditions (StateM σ))
    (disk : FileOperations (StateM σ)) (root : String) (host : RepositoryHost (StateM σ))
    (hereState thereState : σ) : Prop :=
  let directory :=
    (settings.surveyDirectory languages disk summarizer root here).run.run hereState
  let repository := (settings.surveyRepository languages host summarizer there).run thereState
  ∃ records herePrompts therePrompts,
    directory.1 = .ok { files := records } ∧ sent directory.2 = sent hereState ++ herePrompts ∧
      repository.1.files = records ∧ sent repository.2 = sent thereState ++ therePrompts ∧
      herePrompts.Perm therePrompts ∧ (settings.concurrency ≤ 1 → herePrompts = therePrompts)

open SurveySettings in
/-- The survey of a directory and the survey of a repository with the same files agree.  The walk leaves
out the same files that the survey of the repository leaves out. -/
theorem directory_and_repository_agree (settings : SurveySettings) (languages : Languages)
    (sent : σ → List String) (summarizer : Option (Summarizer (StateM σ)))
    (answer : String → Except String String)
    (answers : ∀ client, summarizer = some client → client.Answers sent answer)
    (here there : Conditions (StateM σ)) (lost : String → Option String)
    (hereQuiet : here.AreQuiet sent lost) (thereQuiet : there.AreQuiet sent lost)
    (listing : Listing) (contents : List String → ByteArray) (isDirectory : listing.isDirectory)
    (named : listing.Named) (readable : ∀ place cause, ¬ listing.At place (.unreadable cause))
    (disk : FileOperations (StateM σ)) (root : String)
    (onDisk : disk.HaveTree sent root listing contents) (host : RepositoryHost (StateM σ))
    (onHost : host.HasTree sent listing contents) :
    (∃ all, Listing.walk [] root (.ok listing) = .ok all ∧
      Listing.walk settings.ignored root (.ok listing) =
        .ok (all.filter fun file => !settings.ignored.ignoresPath file.relative)) ∧
      ∀ hereState thereState, SurveysAgree settings languages sent summarizer here there disk root host
        hereState thereState := by
  obtain ⟨files, remotes, lists, areListed, matched⟩ := onHost.listFiles
  have walked := lists.walk_eq_filter settings.ignored root isDirectory named readable
  obtain ⟨all, walkedAll, allLists⟩ := Listing.walk_of_readable [] root isDirectory named readable
  obtain ⟨pairs, wanted, found, areCounterparts⟩ := counterparts settings.ignored matched
  refine ⟨⟨_, walkedAll, ?_⟩, fun hereState thereState => ?_⟩
  · rw [walked, allLists.unique lists, List.filter_map]
    rfl
  · have areRead : ∀ pair ∈ pairs,
        Tells sent (disk.read (Listing.pathTo root pair.2.1)).run (.ok (contents pair.2.1)) :=
      fun pair isIn => onDisk.read _ _ ((lists.mem_iff _ _).1 (areCounterparts pair isIn).1).1
    rw [found] at walked
    obtain ⟨herePrompts, hereSent, records, hereResult, hereRecords, hereAccount⟩ :=
      settings.surveyDirectory_sends languages answers hereQuiet onDisk.list walked areRead hereState
    obtain ⟨therePrompts, thereSent, thereRecords, thereAccount⟩ :=
      settings.surveyRepository_sends languages answers thereQuiet onHost.metadata areListed wanted
        (fun pair isIn => ⟨(areCounterparts pair isIn).2.1, (areCounterparts pair isIn).2.2.1⟩)
        (fun pair isIn => (areCounterparts pair isIn).2.2.2) thereState
    refine ⟨records, herePrompts, therePrompts, hereResult, hereSent,
      thereRecords.trans hereRecords.symm, thereSent, hereAccount.1.trans thereAccount.1.symm, ?_⟩
    exact fun oneByOne => (hereAccount.2 oneByOne).trans (thereAccount.2 oneByOne).symm

/-! ## A tree with an ignored directory -/

/-- A tree with an ignored directory, and a file with the name of one. -/
def grove : Listing :=
  .directory [
    ("node_modules", .directory [("b.json", .file 2)]),
    ("src", .directory [("node_modules", .file 2), ("c.json", .file 2)]),
    ("a.json", .file 2)]

def groveFiles : List (List String × Nat) :=
  [(["a.json"], 2), (["node_modules", "b.json"], 2), (["src", "c.json"], 2),
    (["src", "node_modules"], 2)]

def groveContents (_ : List String) : ByteArray := "[]".toUTF8

/-- A disk with the tree. The state is a list of the prompts that have been sent. -/
def groveDisk : FileOperations (StateM (List String)) where
  list _ := pure grove
  read _ := pure "[]".toUTF8
  isDirectory _ := pure true
  makeDirectory _ := throw .alreadyExists
  createTemporary _ := throw .diskFull
  append _ _ := throw .diskFull
  rename _ _ := throw .diskFull
  remove _ := pure ()

def groveHost : RepositoryHost (StateM (List String)) where
  metadata := pure (.error "unknown")
  listFiles := pure (.ok (groveFiles.map fun file =>
    { path := "/".intercalate file.1, hash := "", size := some file.2 }))
  fetch _ := pure (.ok "[]".toUTF8)

/-- A client that answers with the prompt. -/
def echo : Summarizer (StateM (List String)) where
  promptLimit := 100
  awaitTurn := pure ()
  complete prompt := fun sent => (.ok prompt, sent ++ [prompt])

/-- The last possible event happens next. -/
def hasty : Conditions (StateM (List String)) where
  choose events := pure (events.length - 1)
  awaitWorker _ := pure none

theorem echo_answers : echo.Answers id .ok where
  awaitTurn := .pure rfl
  complete prompt _ := ⟨[prompt], rfl, rfl, rfl⟩

theorem calm_areQuiet :
    (.calm : Conditions (StateM (List String))).AreQuiet id fun _ => none where
  choose _ := .pure rfl
  awaitWorker _ := .pure ⟨rfl, rfl⟩

theorem hasty_areQuiet : hasty.AreQuiet id fun _ => none where
  choose _ := .pure rfl
  awaitWorker _ := .pure ⟨rfl, rfl⟩

theorem grove_named : grove.Named := by
  have isFile (size : Nat) : (Listing.file size).Named := Listing.named_of_not_directory nofun
  refine Listing.named_directory (by decide) (by decide) ?_
  simp only [List.map_cons, List.map_nil, List.forall_mem_cons]
  refine ⟨Listing.named_directory (by decide) (by decide) ?_,
    Listing.named_directory (by decide) (by decide) ?_, isFile 2, nofun⟩
  · simp only [List.map_cons, List.map_nil, List.forall_mem_cons]
    exact ⟨isFile 2, nofun⟩
  · simp only [List.map_cons, List.map_nil, List.forall_mem_cons]
    exact ⟨isFile 2, isFile 2, nofun⟩

/-- There are only directories and the listed files in the tree. -/
theorem at_grove {place : List String} {target : Listing} (isAt : grove.At place target) :
    (∃ entries, target = .directory entries) ∨
      ∃ size, target = .file size ∧ (place, size) ∈ groveFiles := by
  cases isAt with
  | here => exact .inl ⟨_, rfl⟩
  | inside isEntry isAt =>
      simp only [List.mem_cons, Prod.mk.injEq, List.not_mem_nil, or_false] at isEntry
      rcases isEntry with ⟨rfl, rfl⟩ | ⟨rfl, rfl⟩ | ⟨rfl, rfl⟩
      · cases isAt with
        | here => exact .inl ⟨_, rfl⟩
        | inside isEntry isAt =>
            simp only [List.mem_singleton, Prod.mk.injEq] at isEntry
            obtain ⟨rfl, rfl⟩ := isEntry
            cases isAt
            exact .inr ⟨2, rfl, by decide⟩
      · cases isAt with
        | here => exact .inl ⟨_, rfl⟩
        | inside isEntry isAt =>
            simp only [List.mem_cons, Prod.mk.injEq, List.not_mem_nil, or_false] at isEntry
            rcases isEntry with ⟨rfl, rfl⟩ | ⟨rfl, rfl⟩
            · cases isAt
              exact .inr ⟨2, rfl, by decide⟩
            · cases isAt
              exact .inr ⟨2, rfl, by decide⟩
      · cases isAt
        exact .inr ⟨2, rfl, by decide⟩

theorem grove_readable (place : List String) (cause : SystemError) :
    ¬ grove.At place (.unreadable cause) := by
  intro isAt
  obtain ⟨_, same⟩ | ⟨_, same, _⟩ := at_grove isAt <;> cases same

theorem grove_lists : grove.Lists [] groveFiles where
  increasing := by
    have isLess {left right : String} (isLess : left < right) (rest others : List String) :
        Listing.Before (left :: rest) (right :: others) := .rel (lex_bytes_of_lt isLess)
    simp only [groveFiles, List.pairwise_cons, List.forall_mem_cons, List.not_mem_nil,
      IsEmpty.forall_iff, implies_true, and_true, List.Pairwise.nil]
    exact ⟨⟨isLess (by decide) _ _, isLess (by decide) _ _, isLess (by decide) _ _⟩,
      ⟨isLess (by decide) _ _, isLess (by decide) _ _⟩, .cons (isLess (by decide) _ _)⟩
  mem_iff place size := by
    constructor
    · intro isIn
      simp only [groveFiles, List.mem_cons, Prod.mk.injEq, List.not_mem_nil, or_false] at isIn
      rcases isIn with ⟨rfl, rfl⟩ | ⟨rfl, rfl⟩ | ⟨rfl, rfl⟩ | ⟨rfl, rfl⟩
      · exact ⟨.inside (by simp) .here, fun _ _ => rfl⟩
      · exact ⟨.inside (.head _) (.inside (by simp) .here), fun _ _ => rfl⟩
      · exact ⟨.inside (.tail _ (.head _)) (.inside (by simp) .here), fun _ _ => rfl⟩
      · exact ⟨.inside (.tail _ (.head _)) (.inside (by simp) .here), fun _ _ => rfl⟩
    · rintro ⟨isAt, -⟩
      obtain ⟨_, same⟩ | ⟨_, same, isIn⟩ := at_grove isAt
      · cases same
      · cases same
        exact isIn

theorem groveDisk_haveTree : groveDisk.HaveTree id "grove" grove groveContents where
  list := .pure ⟨rfl, rfl⟩
  read _ _ _ := .pure ⟨rfl, rfl⟩

theorem groveHost_hasTree : groveHost.HasTree id grove groveContents where
  metadata := .pure rfl
  listFiles := by
    refine ⟨groveFiles, _, grove_lists, .pure ⟨rfl, rfl⟩, ?_⟩
    rw [List.forall₂_map_left_iff, List.forall₂_same]
    exact fun file _ => ⟨rfl, rfl, .pure ⟨rfl, rfl⟩⟩

theorem surveys_of_grove_agree :
    grove.isDirectory ∧ grove.Named ∧ (∀ place cause, ¬ grove.At place (.unreadable cause)) ∧
      groveDisk.HaveTree id "grove" grove groveContents ∧ groveHost.HasTree id grove groveContents ∧
      SurveysAgree { concurrency := 3 } {} id (some echo) .calm hasty groveDisk "grove" groveHost
        [] ["before"] := by
  have answers (client : Summarizer (StateM (List String))) (same : some echo = some client) :
      client.Answers id .ok := by
    cases same
    exact echo_answers
  exact ⟨rfl, grove_named, grove_readable, groveDisk_haveTree, groveHost_hasTree,
    (directory_and_repository_agree { concurrency := 3 } {} id (some echo) .ok answers .calm hasty
      (fun _ => none) calm_areQuiet hasty_areQuiet grove groveContents rfl grove_named grove_readable
      groveDisk "grove" groveDisk_haveTree groveHost groveHost_hasTree).2 [] ["before"]⟩

end RepoSurvey
