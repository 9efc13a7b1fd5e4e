import RepoSurvey.Proofs.Schema.Erasure
import RepoSurvey.Proofs.Survey.Artifact
import RepoSurvey.Proofs.Survey.Courses
import RepoSurvey.Proofs.Survey.Recording
import RepoSurvey.Proofs.Survey.Summaries

/-!
# Options add keys of their own

Three options add something to the records of a survey: the texts of files, their summaries, and the items
of arrays.  Each of them changes nothing else.  When what an option adds is erased, the records are those
of a survey without the option, whatever becomes of a file and whatever the other options are.
-/

namespace RepoSurvey

open Json (Ordered)
open RepoSurvey.Graph (Value)

variable {σ Source : Type}

/-! ## What is erased -/

def Representation.withoutItems : Representation → Representation
  | schema node => schema node.withoutItems
  | other => other

def ParseOutcome.withoutItems : ParseOutcome → ParseOutcome
  | parsed representation => parsed representation.withoutItems
  | skipped reason => skipped reason

def FileOutcome.withoutItems : FileOutcome → FileOutcome
  | parsed representation => parsed representation.withoutItems
  | other => other

namespace FileRecord

def withoutSource (record : FileRecord) : FileRecord := { record with sourceCode := none }

def withoutSummary (record : FileRecord) : FileRecord := { record with summary := none }

def withoutItems (record : FileRecord) : FileRecord :=
  { record with outcome := record.outcome.withoutItems }

/-- There is nothing in a record that options add. -/
structure IsBare (record : FileRecord) : Prop where
  noSummary : record.summary = none
  noSource : record.sourceCode = none
  noRepresentation : record.representation? = none

namespace IsBare

variable {record : FileRecord}

theorem withoutSource_eq (isBare : record.IsBare) : record.withoutSource = record := by
  rw [withoutSource, ← isBare.noSource]

theorem withoutSummary_eq (isBare : record.IsBare) : record.withoutSummary = record := by
  rw [withoutSummary, ← isBare.noSummary]

theorem withoutItems_eq (isBare : record.IsBare) : record.withoutItems = record := by
  obtain ⟨path, category, outcome, summary, sourceSize, sourceCode⟩ := record
  have noRepresentation := isBare.noRepresentation
  cases outcome with
  | parsed representation => cases noRepresentation
  | failed error => rfl
  | skipped reason => rfl

end IsBare

end FileRecord

/-! ## Records without an option -/

/-- Content is represented in the same way but for the items. -/
theorem Languages.represent_withoutItems (languages : Languages) (describesItems : Bool)
    (category : Category) (path content : String) :
    (languages.represent describesItems category path content).map (·.withoutItems) =
      languages.represent false category path content := by
  unfold represent
  cases category with
  | script =>
      dsimp only
      cases soundTree (languages.script (Script.Dialect.ofPath path)) .script content <;> rfl
  | structuredData =>
      dsimp only
      cases Json.read content with
      | error error => rfl
      | ok document =>
          have schema_eq := SchemaNode.withoutItems_ofValue describesItems document
          exact congrArg (fun schema => Except.ok (ParseOutcome.parsed (.schema schema))) schema_eq
  | stylesheet =>
      dsimp only
      cases soundTree languages.stylesheet .stylesheet content <;> rfl
  | markup | prose | media | unsupported => rfl

namespace Outcomes

variable (outcomes : Outcomes Source) (languages : Languages) (settings : RecordSettings)

/-- The record of a file whose content is known. -/
def recordOf (path : String) (content : ByteArray) : FileRecord :=
  let category := Category.ofPath path
  let text := decodeText content
  let sourceSize := content.size
  match outcomes.lost path, languages.represent settings.describesItems category path text with
  | some reason, _ => { path, category, outcome := .failed (.worker reason), sourceSize }
  | none, .error error =>
      { path, category, outcome := .failed (.parse error), sourceSize
        sourceCode := settings.sourceOf content }
  | none, .ok (.skipped reason) => { path, category, outcome := .skipped reason, sourceSize }
  | none, .ok (.parsed representation) =>
      { path, category, outcome := .parsed representation, sourceSize
        summary := settings.promptLimit.map fun limit =>
          .ofAnswer (outcomes.answer (summaryPrompt limit path text))
        sourceCode := settings.sourceOf content }

theorem completed_parsing_eq (source : Source) (path : String) (content : ByteArray) :
    outcomes.completed languages settings source (.parsing path content) =
      outcomes.recordOf languages settings path content := by
  rw [completed_parsing, recordOf]
  unfold Progress.parsed
  dsimp only
  cases outcomes.lost path with
  | some reason => exact completed_finished ..
  | none =>
      cases languages.represent settings.describesItems (Category.ofPath path) path
          (decodeText content) with
      | error error => exact completed_finished ..
      | ok outcome =>
          cases outcome with
          | skipped reason => exact completed_finished ..
          | parsed representation =>
              cases settings.promptLimit with
              | none => exact completed_finished ..
              | some limit =>
                  dsimp only
                  rw [completed_queued, completed_asking, Progress.summarized, completed_finished]
                  rfl

variable {outcomes languages settings}

/-- An option that adds nothing to bare records can be judged by what it adds to content. -/
theorem erase_record {other : RecordSettings} {erase : FileRecord → FileRecord}
    (keepsBare : ∀ record : FileRecord, record.IsBare → erase record = record)
    (erases : ∀ path content, erase (outcomes.recordOf languages settings path content) =
      outcomes.recordOf languages other path content) (file : Pending Source) :
    erase (outcomes.record languages settings file) = outcomes.record languages other file := by
  rw [record_eq_completed, record_eq_completed, Progress.start]
  split
  · rw [completed_loading, completed_loading]
    cases outcomes.content file.source with
    | error error =>
        rw [Progress.loaded, completed_finished, completed_finished]
        exact keepsBare _ ⟨rfl, rfl, rfl⟩
    | ok content =>
        rw [Progress.loaded, completed_parsing_eq, completed_parsing_eq]
        exact erases file.path content
  · rw [completed_finished, completed_finished]
    exact keepsBare _ ⟨rfl, rfl, rfl⟩

variable (outcomes languages settings)

theorem withoutSource_record (file : Pending Source) :
    (outcomes.record languages settings file).withoutSource =
      outcomes.record languages { settings with includesSource := false } file := by
  refine erase_record (fun _ isBare => isBare.withoutSource_eq) (fun path content => ?_) file
  rw [recordOf, recordOf]
  dsimp only
  split <;> rfl

theorem withoutSummary_record (file : Pending Source) :
    (outcomes.record languages settings file).withoutSummary =
      outcomes.record languages { settings with promptLimit := none } file := by
  refine erase_record (fun _ isBare => isBare.withoutSummary_eq) (fun path content => ?_) file
  rw [recordOf, recordOf]
  dsimp only
  split <;> rfl

theorem withoutItems_record (file : Pending Source) :
    (outcomes.record languages settings file).withoutItems =
      outcomes.record languages { settings with describesItems := false } file := by
  refine erase_record (fun _ isBare => isBare.withoutItems_eq) (fun path content => ?_) file
  rw [recordOf, recordOf]
  dsimp only
  rw [← languages.represent_withoutItems settings.describesItems]
  cases outcomes.lost path with
  | some reason => rfl
  | none =>
      cases languages.represent settings.describesItems (Category.ofPath path) path
          (decodeText content) with
      | error error => rfl
      | ok outcome => cases outcome <;> rfl

end Outcomes

/-! ## Documents without an option -/

/-- A document without the member of a key. -/
def Json.Ordered.without (key : String) : Ordered → Ordered
  | .object members => .object (members.filter (·.1 != key))
  | other => other

/-- Members that show a record of structured data. -/
def showsStructuredData (members : List (String × Ordered)) : Bool :=
  match members.lookup "type" with
  | some (.string name) => name == Category.structuredData.name
  | _ => false

/-- The document of a record, with the items left out if it shows a schema. -/
def eraseSchemaItems : Ordered → Ordered
  | .object members =>
      if showsStructuredData members then
        .object (members.map fun member =>
          if member.1 == "ast" then (member.1, SchemaNode.eraseItems member.2) else member)
      else .object members
  | other => other

namespace FileRecord

theorem filter_firstMembers {key : String} (isOption : key ∈ ["summary", "sourceCode"])
    (record : FileRecord) : record.firstMembers.filter (·.1 != key) = record.firstMembers := by
  have areOther : ∀ keys ∈ outcomeWays, ∀ key ∈ ["summary", "sourceCode"],
      key ∉ ["file", "type"] ++ keys := by decide
  refine List.filter_eq_self.mpr fun member isMember => ?_
  rw [bne_iff_ne]
  rintro rfl
  have isKey := List.mem_map_of_mem (f := (·.1)) isMember
  rw [firstKeys_eq] at isKey
  exact areOther _ (outcomeKeys_mem record.outcome) _ isOption isKey

/-- A record that lacks only what a key shows. -/
theorem document_without {key : String} (isOption : key ∈ ["summary", "sourceCode"])
    {record other : FileRecord} (first_eq : other.firstMembers = record.firstMembers)
    (tail_eq : other.tailEntries = record.tailEntries.filter (·.1 != key)) :
    other.document = record.document.without key := by
  change Ordered.object other.documentMembers =
    .object (record.documentMembers.filter (·.1 != key))
  rw [documentMembers, documentMembers, List.filter_append, filter_firstMembers isOption, first_eq,
    tail_eq, List.filter_map]
  rfl

theorem document_withoutSource (record : FileRecord) :
    record.withoutSource.document = record.document.without "sourceCode" := by
  refine document_without (by simp) rfl ?_
  obtain ⟨path, category, outcome, summary, sourceSize, sourceCode⟩ := record
  cases summary <;> cases sourceCode <;> rfl

theorem document_withoutSummary (record : FileRecord) :
    record.withoutSummary.document = record.document.without "summary" := by
  refine document_without (by simp) rfl ?_
  obtain ⟨path, category, outcome, summary, sourceSize, sourceCode⟩ := record
  cases summary <;> cases sourceCode <;> rfl

/-- Only structured data has a schema. -/
theorem withoutItems_eq {record : FileRecord} (suits : record.Suits)
    (isOther : record.category ≠ .structuredData) : record.withoutItems = record := by
  obtain ⟨path, category, outcome, summary, sourceSize, sourceCode⟩ := record
  cases outcome with
  | parsed representation =>
      have isSuited := suits representation rfl
      cases representation with
      | schema node =>
          cases category with
          | structuredData => exact absurd rfl isOther
          | _ => exact isSuited.elim
      | _ => rfl
  | _ => rfl

theorem outcomeMembers_withoutItems {record : FileRecord} (suits : record.Suits)
    (isData : record.category = .structuredData) :
    outcomeMembers record.outcome.withoutItems = (outcomeMembers record.outcome).map fun member =>
      if member.1 == "ast" then (member.1, SchemaNode.eraseItems member.2) else member := by
  cases outcome_eq : record.outcome with
  | parsed representation =>
      have isSuited := suits representation outcome_eq
      rw [isData] at isSuited
      cases representation with
      | schema node =>
          exact congrArg (fun shown => [("ast", shown)]) node.eraseItems_rootDocument.symm
      | _ => exact isSuited.elim
  | failed error => rfl
  | skipped reason => rfl

theorem showsStructuredData_iff (record : FileRecord) :
    showsStructuredData record.documentMembers = true ↔ record.category = .structuredData := by
  rw [showsStructuredData, record.shows_documentMembers.category]
  cases record.category <;> simp [Category.name]

/-- Where a record shows no outcome, nothing is called like a schema. -/
theorem map_tailEntries (record : FileRecord) :
    (record.tailEntries.map (Prod.map id Value.scalarOrdered)).map (fun member =>
      if member.1 == "ast" then (member.1, SchemaNode.eraseItems member.2) else member) =
        record.tailEntries.map (Prod.map id Value.scalarOrdered) := by
  obtain ⟨path, category, outcome, summary, sourceSize, sourceCode⟩ := record
  cases summary <;> cases sourceCode <;> rfl

theorem document_withoutItems {record : FileRecord} (suits : record.Suits) :
    record.withoutItems.document = eraseSchemaItems record.document := by
  change _ = eraseSchemaItems (.object record.documentMembers)
  rw [eraseSchemaItems]
  by_cases isData : record.category = .structuredData
  · rw [if_pos (record.showsStructuredData_iff.mpr isData)]
    change Ordered.object record.withoutItems.documentMembers = _
    rw [documentMembers, documentMembers, firstMembers, firstMembers, List.map_append,
      List.map_append, map_tailEntries, ← outcomeMembers_withoutItems suits isData]
    rfl
  · rw [if_neg fun shows => isData (record.showsStructuredData_iff.mp shows),
      withoutItems_eq suits isData]
    rfl

end FileRecord

/-! ## Surveys without an option -/

/-- Records are the same as others, once something is erased from them and from what they show. -/
structure SameRecords (erase : FileRecord → FileRecord) (eraseShown : Ordered → Ordered)
    (records others : List FileRecord) : Prop where
  records_eq : records.map erase = others
  texts_eq : (records.map fun record => (eraseShown record.document).compact) =
    others.map fun record => textAlone record.object

/-- A survey with other records. -/
def Aggregate.mapFiles (change : FileRecord → FileRecord) (aggregate : Aggregate) : Aggregate :=
  { aggregate with files := aggregate.files.map change }

open SurveySettings in
/-- One survey gives the same as another one, once something is erased from its records.  The same is
loaded in both of them, and it does not matter in which order things happen. -/
structure SameOnceErased (languages : Languages) (conditions : Conditions (StateM σ))
    (erase : FileRecord → FileRecord) (eraseShown : Ordered → Ordered)
    (first second : SurveySettings) (summarizer other : Option (Summarizer (StateM σ))) : Prop where
  records : ∀ (Source : Type) (load : Source → StateM σ (Except FileError ByteArray))
    (outcomes : Outcomes Source), Settled load other conditions outcomes →
      ∀ (files : List (Pending Source)) (state otherState : σ),
        SameRecords erase eraseShown
          ((first.recordAll languages load summarizer conditions files).run state).1
          ((second.recordAll languages load other conditions files).run otherState).1
  directory : ∀ (files : FileOperations (StateM σ)) (outcomes : Outcomes String),
    Settled (loadFrom files) other conditions outcomes → ∀ (root : String) (state : σ),
      ((first.surveyDirectory languages files summarizer root conditions).run.run state).1.map
          (·.mapFiles erase) =
        ((second.surveyDirectory languages files other root conditions).run.run state).1
  repository : ∀ (host : RepositoryHost (StateM σ)) (outcomes : Outcomes RemoteFile),
    Settled (fetchFrom host) other conditions outcomes → ∀ state : σ,
      ((first.surveyRepository languages host summarizer conditions).run state).1.mapFiles erase =
        ((second.surveyRepository languages host other conditions).run state).1

section Surveys

variable {languages : Languages} {conditions : Conditions (StateM σ)}
  {erase : FileRecord → FileRecord} {eraseShown : Ordered → Ordered}
  {first second : SurveySettings} {summarizer other : Option (Summarizer (StateM σ))}

theorem sameRecords {records : List FileRecord} (suit : ∀ record ∈ records, record.Suits)
    (shows : ∀ record : FileRecord, record.Suits →
      (erase record).document = eraseShown record.document) :
    SameRecords erase eraseShown records (records.map erase) where
  records_eq := rfl
  texts_eq := by
    rw [List.map_map]
    refine List.map_congr_left fun record isRecord => ?_
    rw [← shows record (suit record isRecord), Function.comp_apply, FileRecord.textAlone_object]

/-- It is enough to compare what is recorded of a list of files. -/
theorem sameOnceErased (ignored_eq : second.ignored = first.ignored)
    (erases : ∀ (Source : Type) (load : Source → StateM σ (Except FileError ByteArray))
      (outcomes : Outcomes Source), Settled load other conditions outcomes →
        ∀ (files : List (Pending Source)) (state otherState : σ),
          ((first.recordAll languages load summarizer conditions files).run state).1.map erase =
            ((second.recordAll languages load other conditions files).run otherState).1)
    (shows : ∀ record : FileRecord, record.Suits →
      (erase record).document = eraseShown record.document) :
    SameOnceErased languages conditions erase eraseShown first second summarizer other := by
  refine ⟨?_, ?_, ?_⟩
  · intro Source load outcomes settled files state otherState
    have suit := (lasting_suits languages (first.recordSettings summarizer)).recordFiles
      (SurveySettings.services load summarizer conditions) conditions.choose first.concurrency files
        state
    rw [← erases Source load outcomes settled files state otherState]
    exact sameRecords suit shows
  · intro files outcomes settled root state
    rw [SurveySettings.surveyDirectory_run, SurveySettings.surveyDirectory_run, ignored_eq]
    dsimp only
    cases Listing.walk first.ignored root ((files.list root).run.run state).1 with
    | error error => rfl
    | ok found =>
        exact congrArg (fun files => Except.ok (Aggregate.mk none files))
          (erases _ _ outcomes settled _ _ _)
  · intro host outcomes settled state
    rw [SurveySettings.surveyRepository_run, SurveySettings.surveyRepository_run, ignored_eq]
    exact congrArg (Aggregate.mk (host.metadata.run state).1.toOption)
      (erases _ _ outcomes settled _ _ _)

variable (first second summarizer languages conditions)
  {load : Source → StateM σ (Except FileError ByteArray)} {outcomes : Outcomes Source}

/-- Surveys with the same client are compared record by record. -/
theorem erase_recordAll (settled : Settled load summarizer conditions outcomes)
    (erases : ∀ file, erase (outcomes.record languages (first.recordSettings summarizer) file) =
      outcomes.record languages (second.recordSettings summarizer) file)
    (files : List (Pending Source)) (state otherState : σ) :
    ((first.recordAll languages load summarizer conditions files).run state).1.map erase =
      ((second.recordAll languages load summarizer conditions files).run otherState).1 := by
  rw [first.recordAll_yields languages settled files state,
    second.recordAll_yields languages settled files otherState, List.map_map]
  exact List.map_congr_left fun file _ => erases file

/-- Whatever a client answers, and whenever, nothing but the summaries comes from it. -/
theorem withoutSummary_recordAll (settings : SurveySettings) (client : Summarizer (StateM σ))
    (settled : Settled load none conditions outcomes) (files : List (Pending Source))
    (state otherState : σ) :
    ((settings.recordAll languages load (some client) conditions files).run state).1.map
        (·.withoutSummary) =
      ((settings.recordAll languages load none conditions files).run otherState).1 := by
  let unanswered : Outcomes Source := { outcomes with answer := fun _ => noAnswer }
  have settledSilent : Settled load (some client.silenced) conditions unanswered := by
    refine ⟨settled.load, settled.awaitWorker, ?_⟩
    rintro _ ⟨⟩ prompt
    exact (Yields.trivially (client.complete prompt)).bind fun _ _ => .pure rfl
  have settledNobody : Settled load none conditions unanswered :=
    ⟨settled.load, settled.awaitWorker, fun _ same => nomatch same⟩
  have silent_eq :
      ((settings.recordAll languages load (some client.silenced) conditions files).run state).1 =
        ((settings.recordAll languages load (some client) conditions files).run state).1.map
          (·.silenced) := by
    rw [settings.recordAll_silenced]
    rfl
  have erased_eq :
      ((settings.recordAll languages load (some client) conditions files).run state).1.map
          (·.withoutSummary) =
        ((settings.recordAll languages load (some client.silenced) conditions files).run
          state).1.map (·.withoutSummary) := by
    rw [silent_eq, List.map_map]
    rfl
  rw [erased_eq, settings.recordAll_yields languages settledSilent files state,
    settings.recordAll_yields languages settledNobody files otherState, List.map_map]
  exact List.map_congr_left fun file _ => unanswered.withoutSummary_record languages _ file

end Surveys

/-- Texts of files, summaries and items are added by their options and erased again without a trace: a
survey with one of these options on gives the same as a survey with it off, once its key is erased from
the records.  Erasing items from the schema of a document leaves the schema of the document without
items, whatever its members are called. -/
theorem options_add_their_keys (settings : SurveySettings) (languages : Languages)
    (client : Summarizer (StateM σ)) (summarizer : Option (Summarizer (StateM σ)))
    (conditions : Conditions (StateM σ)) :
    SameOnceErased languages conditions (·.withoutSource) (·.without "sourceCode")
        { settings with includesSource := true } { settings with includesSource := false }
        summarizer summarizer ∧
      SameOnceErased languages conditions (·.withoutSummary) (·.without "summary")
          settings settings (some client) none ∧
        SameOnceErased languages conditions (·.withoutItems) eraseSchemaItems
            { settings with describesItems := true } { settings with describesItems := false }
            summarizer summarizer ∧
          ∀ document : Json.Value,
            (SchemaNode.ofValue true document).withoutItems = .ofValue false document ∧
              SchemaNode.eraseItems (SchemaNode.ofValue true document).rootDocument =
                (SchemaNode.ofValue false document).rootDocument := by
  refine ⟨?_, ?_, ?_, ?_⟩
  · refine sameOnceErased rfl (fun _ _ outcomes settled => ?_)
      fun record _ => record.document_withoutSource
    exact erase_recordAll languages conditions _ _ summarizer settled
      fun file => outcomes.withoutSource_record languages _ file
  · refine sameOnceErased rfl (fun _ _ _ settled => ?_)
      fun record _ => record.document_withoutSummary
    exact withoutSummary_recordAll languages conditions settings client settled
  · refine sameOnceErased rfl (fun _ _ outcomes settled => ?_)
      fun record suits => FileRecord.document_withoutItems suits
    exact erase_recordAll languages conditions _ _ summarizer settled
      fun file => outcomes.withoutItems_record languages _ file
  · intro document
    have schema_eq := SchemaNode.withoutItems_ofValue true document
    exact ⟨schema_eq, by rw [SchemaNode.eraseItems_rootDocument, schema_eq]⟩

/-- A client that never gives the same answer again. -/
def fickleClient : Summarizer (StateM Nat) where
  promptLimit := 100
  awaitTurn := fun clock => ((), 2 * clock)
  complete _ := fun clock => (.ok (toString clock), clock + 1)

theorem survey_of_clockHost_without_client :
    Settled (SurveySettings.fetchFrom clockHost) none clockConditions clockOutcomes ∧
      ((({} : SurveySettings).surveyRepository {} clockHost (some fickleClient)
        clockConditions).run 0).1.mapFiles (·.withoutSummary) =
          ((({} : SurveySettings).surveyRepository {} clockHost none clockConditions).run 0).1 := by
  have settled : Settled (SurveySettings.fetchFrom clockHost) none clockConditions clockOutcomes :=
    ⟨settled_clock.load, settled_clock.awaitWorker, fun _ same => nomatch same⟩
  exact ⟨settled, (options_add_their_keys {} {} fickleClient none clockConditions).2.1.repository
    clockHost clockOutcomes settled 0⟩

end RepoSurvey
