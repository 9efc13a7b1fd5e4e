import RepoSurvey.Proofs.Survey.Record

/-!
# Recording a file

The ends that the record of a file may come to, and what each of them shows.  A file of a category that
is not parsed is never loaded; any other file is loaded once.
-/

namespace RepoSurvey

open RepoSurvey.Graph

/-! ## Counting loads -/

variable {σ Source α : Type}

/-- An action beside a count that it leaves alone. -/
def besideCount (action : StateM σ α) : StateM (Nat × σ) α := fun world =>
  let (value, after) := action.run world.2
  (value, (world.1, after))

/-- The same services, with a count of the loads. -/
def Services.counted (services : Services (StateM σ) Source) :
    Services (StateM (Nat × σ)) Source where
  load source := do
    modify fun world => (world.1 + 1, world.2)
    besideCount (services.load source)
  awaitWorker path := besideCount (services.awaitWorker path)
  awaitTurn := besideCount services.awaitTurn
  complete prompt := besideCount (services.complete prompt)

namespace Progress

/-- How many loads are left. -/
def loads : Progress → Nat
  | loading .. => 1
  | _ => 0

theorem loads_loaded (path : String) (sizeHint : Nat) (content : Except FileError ByteArray) :
    (loaded path sizeHint content).loads = 0 := by
  cases content <;> rfl

theorem loads_parsed (languages : Languages) (settings : RecordSettings) (path : String)
    (content : ByteArray) (lost : Option String) :
    (parsed languages settings path content lost).loads = 0 := by
  obtain ⟨record, _, isFinished | ⟨limit, _, isQueued⟩⟩ :=
    parsed_cases languages settings path content lost
  · rw [isFinished]
    rfl
  · rw [isQueued]
    rfl

variable (languages : Languages) (settings : RecordSettings) (services : Services (StateM σ) Source)
  (source : Source)

/-- Counting changes nothing. -/
theorem run_counted (progress : Progress) (count : Nat) (state : σ) :
    (progress.complete languages settings services.counted source).run (count, state) =
      (((progress.complete languages settings services source).run state).1,
        (count + progress.loads,
          ((progress.complete languages settings services source).run state).2)) := by
  induction rank_eq : progress.rank using Nat.strongRecOn generalizing progress count state with
  | ind rank ih =>
      subst rank_eq
      rw [complete.eq_def, complete.eq_def]
      cases progress with
      | loading path sizeHint =>
          have later := ih _ (rank_loaded path sizeHint ((services.load source).run state).1) _
            (count + 1) ((services.load source).run state).2 rfl
          rw [loads_loaded] at later
          exact later
      | parsing path content =>
          have later := ih _ (rank_parsed languages settings path content
            ((services.awaitWorker path).run state).1) _ count
              ((services.awaitWorker path).run state).2 rfl
          rw [loads_parsed] at later
          exact later
      | queued record prompt =>
          exact ih _ (Nat.lt_succ_self 1) (.asking record prompt) count
            (services.awaitTurn.run state).2 rfl
      | asking record prompt =>
          exact ih _ (rank_summarized record ((services.complete prompt).run state).1) _ count
            ((services.complete prompt).run state).2 rfl
      | finished record => rfl

end Progress

/-! ## The ends of a file -/

/-- The text of a content, if texts are kept. -/
def RecordSettings.sourceOf (settings : RecordSettings) (content : ByteArray) : Option String :=
  if settings.includesSource then some (decodeText content) else none

/-- The record of a file whose worker is not lost, and how often something was loaded for it. -/
inductive Recorded (languages : Languages) (settings : RecordSettings)
    (services : Services (StateM σ) Source) (path : String) (sizeHint : Nat)
    (loaded : Except FileError ByteArray) : Nat → FileRecord → Prop
  | skipped (notParsed : (Category.ofPath path).isParsed = false) :
      Recorded languages settings services path sizeHint loaded 0
        { path, category := Category.ofPath path
          outcome := .skipped (Category.ofPath path).skipReason, sourceSize := sizeHint }
  | unloaded {error : FileError} (isParsed : (Category.ofPath path).isParsed)
      (isLoaded : loaded = .error error) :
      Recorded languages settings services path sizeHint loaded 1
        { path, category := Category.ofPath path, outcome := .failed error, sourceSize := sizeHint }
  | faulty {content : ByteArray} {error : ParseError} (isParsed : (Category.ofPath path).isParsed)
      (isLoaded : loaded = .ok content)
      (isFaulty : languages.represent settings.describesItems (Category.ofPath path) path
        (decodeText content) = .error error)
      (category_eq : error.category = Category.ofPath path) :
      Recorded languages settings services path sizeHint loaded 1
        { path, category := Category.ofPath path, outcome := .failed (.parse error)
          sourceSize := content.size, sourceCode := settings.sourceOf content }
  | unasked {content : ByteArray} {representation : Representation}
      (isParsed : (Category.ofPath path).isParsed) (isLoaded : loaded = .ok content)
      (isRepresented : languages.represent settings.describesItems (Category.ofPath path) path
        (decodeText content) = .ok (.parsed representation))
      (isSilent : settings.promptLimit = none) :
      Recorded languages settings services path sizeHint loaded 1
        { path, category := Category.ofPath path, outcome := .parsed representation
          sourceSize := content.size, sourceCode := settings.sourceOf content }
  | asked {content : ByteArray} {representation : Representation} {limit : Nat}
      {answer : Except String String} (isParsed : (Category.ofPath path).isParsed)
      (isLoaded : loaded = .ok content)
      (isRepresented : languages.represent settings.describesItems (Category.ofPath path) path
        (decodeText content) = .ok (.parsed representation))
      (isLimit : settings.promptLimit = some limit)
      (isAnswer : ∃ asked, ((services.complete
        (summaryPrompt limit path (decodeText content))).run asked).1 = answer) :
      Recorded languages settings services path sizeHint loaded 1
        { path, category := Category.ofPath path, outcome := .parsed representation
          summary := some (.ofAnswer answer), sourceSize := content.size
          sourceCode := settings.sourceOf content }

section Recorded

variable {languages : Languages} {settings : RecordSettings} {services : Services (StateM σ) Source}
  {path : String} {source : Source}

/-- What a worker makes of a content, and what follows. -/
theorem recorded_parsing (isKept : Yields (services.awaitWorker path) (· = none))
    (isParsed : (Category.ofPath path).isParsed) (sizeHint : Nat) (content : ByteArray) :
    Yields ((Progress.parsing path content).complete languages settings services source)
      (Recorded languages settings services path sizeHint (.ok content) 1) := by
  rw [Progress.complete]
  refine isKept.bind ?_
  rintro _ rfl
  unfold Progress.parsed
  dsimp only
  obtain ⟨representation, isRepresented, _⟩ | ⟨error, isFaulty, category_eq⟩ :=
    languages.represent_cases settings.describesItems isParsed path (decodeText content)
  · rw [isRepresented]
    dsimp only
    cases isLimit : settings.promptLimit with
    | none =>
        rw [Progress.complete]
        exact .pure (.unasked isParsed rfl isRepresented isLimit)
    | some limit =>
        dsimp only
        rw [Progress.complete]
        refine (Yields.trivially _).bind fun _ _ => ?_
        rw [Progress.complete]
        have answers : Yields (services.complete (summaryPrompt limit path (decodeText content)))
            fun answer => ∃ asked, ((services.complete
              (summaryPrompt limit path (decodeText content))).run asked).1 = answer :=
          fun asked => ⟨asked, rfl⟩
        refine answers.bind fun answer isAnswer => ?_
        rw [Progress.summarized, Progress.complete]
        exact .pure (.asked isParsed rfl isRepresented isLimit isAnswer)
  · rw [isFaulty]
    dsimp only
    rw [Progress.complete]
    exact .pure (.faulty isParsed rfl isFaulty category_eq)

theorem recorded_start (isKept : Yields (services.awaitWorker path) (· = none)) (sizeHint : Nat)
    (state : σ) :
    Recorded languages settings services path sizeHint ((services.load source).run state).1
      (Progress.start path sizeHint).loads
      ((recordFile languages settings services path sizeHint source).run state).1 := by
  rw [recordFile, Progress.start]
  cases isParsed : (Category.ofPath path).isParsed with
  | false =>
      rw [if_neg Bool.false_ne_true, Progress.complete]
      exact .skipped isParsed
  | true =>
      rw [if_pos rfl, Progress.complete]
      change Recorded _ _ _ _ _ _ _
        ((Progress.complete languages settings services source (.loaded path sizeHint
          ((services.load source).run state).1)).run ((services.load source).run state).2).1
      cases isLoaded : ((services.load source).run state).1 with
      | error error =>
          rw [Progress.loaded, Progress.complete]
          exact .unloaded isParsed rfl
      | ok content => exact recorded_parsing isKept isParsed sizeHint content _

end Recorded

/-! ## What a record shows -/

namespace FileRecord

/-- The members of the document of a record up to its outcome. -/
def firstMembers (record : FileRecord) : List (String × Json.Ordered) :=
  record.headEntries.map (Prod.map id Value.scalarOrdered) ++ outcomeMembers record.outcome

/-- The members of the document of a record. -/
def documentMembers (record : FileRecord) : List (String × Json.Ordered) :=
  record.firstMembers ++ record.tailEntries.map (Prod.map id Value.scalarOrdered)

theorem firstKeys_eq (record : FileRecord) :
    record.firstMembers.map (·.1) = ["file", "type"] ++ outcomeKeys record.outcome := by
  have outcome_eq : (outcomeMembers record.outcome).map (·.1) = outcomeKeys record.outcome := by
    cases record.outcome <;> rfl
  rw [firstMembers, List.map_append, outcome_eq]
  rfl

theorem documentKeys_eq (record : FileRecord) :
    record.documentMembers.map (·.1) =
      ["file", "type"] ++ outcomeKeys record.outcome ++ record.tailEntries.map (·.1) := by
  rw [documentMembers, List.map_append, firstKeys_eq, List.map_map]
  rfl

theorem documentKeys_nodup (record : FileRecord) :
    (record.documentMembers.map (·.1)).Nodup := by
  rw [documentKeys_eq]
  exact record.shownKeys_nodup

/-- What stands behind the outcome is found there. -/
theorem lookup_tail {key : String} (isTail : key ∈ ["summary", "sourceSize", "sourceCode"])
    (record : FileRecord) :
    record.documentMembers.lookup key = (record.tailEntries.lookup key).map Value.scalarOrdered := by
  have areOther : ∀ keys ∈ outcomeWays, ∀ key ∈ ["summary", "sourceSize", "sourceCode"],
      key ∉ ["file", "type"] ++ keys := by decide
  have isOther : key ∉ record.firstMembers.map (·.1) := by
    rw [firstKeys_eq]
    exact areOther _ (outcomeKeys_mem record.outcome) key isTail
  rw [documentMembers, List.lookup_append, lookup_eq_none_of_notMem isOther, Option.none_or,
    lookup_map]

/-- Of the keys that tell an outcome only those of one way are there. -/
theorem outcomeKeys_eq_filter (record : FileRecord) :
    (record.documentMembers.map (·.1)).filter (outcomeWays.flatten.contains ·) =
      outcomeKeys record.outcome := by
  have inWays : ∀ keys ∈ outcomeWays,
      (["file", "type"] ++ keys).filter (outcomeWays.flatten.contains ·) = keys := by decide
  have notTail : ∀ key ∈ ["summary", "sourceSize", "sourceCode"],
      ¬ outcomeWays.flatten.contains key = true := by decide
  have noneBehind := List.filter_eq_nil_iff.mpr fun key isKey =>
    notTail key (record.tailKeys_sublist.subset isKey)
  rw [documentKeys_eq, List.filter_append, inWays _ (outcomeKeys_mem record.outcome), noneBehind,
    List.append_nil]

/-- The members that a record shows. -/
structure Shows (record : FileRecord) (members : List (String × Json.Ordered)) : Prop where
  distinct : (members.map (·.1)).Nodup
  file : members.lookup "file" = some (.string record.path)
  category : members.lookup "type" = some (.string record.category.name)
  sourceSize : members.lookup "sourceSize" = some (.number (.integer record.sourceSize))
  /-- The outcome is told in one way, and in no other. -/
  oneWay : (members.map (·.1)).filter (outcomeWays.flatten.contains ·) ∈ outcomeWays
  outcome : ∀ member ∈ outcomeMembers record.outcome, members.lookup member.1 = some member.2
  summary : members.lookup "summary" = record.summary.map (.string ·.text)
  sourceCode : members.lookup "sourceCode" = record.sourceCode.map .string

theorem shows_documentMembers (record : FileRecord) : record.Shows record.documentMembers where
  distinct := record.documentKeys_nodup
  file := rfl
  category := rfl
  sourceSize := by
    rw [lookup_tail (by simp), tailEntries]
    cases record.summary <;> rfl
  oneWay := by
    rw [outcomeKeys_eq_filter]
    exact outcomeKeys_mem record.outcome
  outcome member isMember := by
    refine lookup_of_mem record.documentKeys_nodup ?_
    exact List.mem_append_left _ (List.mem_append_right _ isMember)
  summary := by
    rw [lookup_tail (by simp), tailEntries]
    cases record.summary <;> cases record.sourceCode <;> rfl
  sourceCode := by
    rw [lookup_tail (by simp), tailEntries]
    cases record.summary <;> cases record.sourceCode <;> rfl

end FileRecord

namespace Recorded

variable {languages : Languages} {settings : RecordSettings} {services : Services (StateM σ) Source}
  {path : String} {sizeHint loads : Nat} {loaded : Except FileError ByteArray} {record : FileRecord}

/-- Only what is represented has a summary. -/
theorem isRepresented (recorded : Recorded languages settings services path sizeHint loaded loads record)
    (isSummarized : record.summary.isSome) :
    ∃ representation, record.outcome = .parsed representation := by
  cases recorded with
  | skipped | unloaded | faulty | unasked => cases isSummarized
  | asked => exact ⟨_, rfl⟩

/-- Only what was loaded has a text, and only if texts are kept. -/
theorem includesSource (recorded : Recorded languages settings services path sizeHint loaded loads record)
    (isKept : record.sourceCode.isSome) :
    settings.includesSource = true ∧ ∃ content, loaded = .ok content := by
  have isIncluded {content : ByteArray} (isSome : (settings.sourceOf content).isSome) :
      settings.includesSource = true := by
    unfold RecordSettings.sourceOf at isSome
    split at isSome
    · assumption
    · cases isSome
  cases recorded with
  | skipped | unloaded => cases isKept
  | faulty _ isLoaded | unasked _ isLoaded | asked _ isLoaded =>
      exact ⟨isIncluded isKept, _, isLoaded⟩

end Recorded

/-- The record of a file comes to one of its ends, whatever the outside does, as long as its worker is
not lost.  A file that is not parsed is never loaded, any other is loaded once.  What the record shows has a
name, a category and a size, tells the outcome in one way, has a summary only beside a representation and a
text only if texts are kept. -/
theorem recordFile_recorded {services : Services (StateM σ) Source} {path : String}
    (isKept : Yields (services.awaitWorker path) (· = none)) (languages : Languages)
    (settings : RecordSettings) (sizeHint : Nat) (source : Source) (state : σ) :
    ∃ loads record after,
      (recordFile languages settings services path sizeHint source).run state = (record, after) ∧
        (recordFile languages settings services.counted path sizeHint source).run (0, state) =
          (record, (loads, after)) ∧
          Recorded languages settings services path sizeHint ((services.load source).run state).1 loads
            record ∧
            ∃ members, textAlone record.object = (Json.Ordered.object members).compact ∧
              record.Shows members ∧
                ((members.lookup "summary").isSome →
                  ∃ representation, record.outcome = .parsed representation ∧
                    members.lookup representation.key = some representation.written) ∧
                  ((members.lookup "sourceCode").isSome →
                    settings.includesSource = true ∧
                      ∃ content, ((services.load source).run state).1 = .ok content) := by
  have recorded : Recorded languages settings services path sizeHint ((services.load source).run state).1
      (Progress.start path sizeHint).loads
      ((recordFile languages settings services path sizeHint source).run state).1 :=
    recorded_start isKept sizeHint state
  have counted :
      (recordFile languages settings services.counted path sizeHint source).run (0, state) =
        (((recordFile languages settings services path sizeHint source).run state).1,
          ((Progress.start path sizeHint).loads,
            ((recordFile languages settings services path sizeHint source).run state).2)) := by
    refine (Progress.run_counted languages settings services source _ 0 state).trans ?_
    rw [Nat.zero_add]
    rfl
  generalize (recordFile languages settings services path sizeHint source).run state = ran
    at recorded counted ⊢
  obtain ⟨record, after⟩ := ran
  have shows := record.shows_documentMembers
  refine ⟨_, record, after, rfl, counted, recorded, record.documentMembers,
    record.textAlone_object, shows, fun isSummarized => ?_, fun isShown => ?_⟩
  · rw [shows.summary, Option.isSome_map] at isSummarized
    obtain ⟨representation, outcome_eq⟩ := recorded.isRepresented isSummarized
    refine ⟨representation, outcome_eq, ?_⟩
    refine shows.outcome (representation.key, representation.written) ?_
    rw [outcome_eq]
    exact List.mem_singleton_self _
  · rw [shows.sourceCode, Option.isSome_map] at isShown
    exact recorded.includesSource isShown

/-- Services that can read one file only. -/
def drawer : Services (StateM Unit) String where
  load path := return if path == "a.json" then .ok "[]".toUTF8 else .error (.read "gone")
  awaitWorker _ := return none
  awaitTurn := return
  complete _ := return .ok "Nothing."

/-- A file that is lost, one that is parsed and summarized, and one that is passed over. -/
theorem recordFile_of_drawer :
    (∀ path, Yields (drawer.awaitWorker path) (· = none)) ∧
      (recordFile {} { promptLimit := some 5 } drawer.counted "b.json" 3 "b.json").run (0, ()) =
        ({ path := "b.json", category := .structuredData, outcome := .failed (.read "gone")
           sourceSize := 3 }, (1, ())) ∧
      (recordFile {} { promptLimit := some 5, includesSource := true } drawer.counted "a.json" 3
          "a.json").run (0, ()) =
        ({ path := "a.json", category := .structuredData
           outcome := .parsed (.schema (.leaf .array)), summary := some (.generated "Nothing.")
           sourceSize := 2, sourceCode := some "[]" }, (1, ())) ∧
      (recordFile {} { promptLimit := some 5 } drawer.counted "c.png" 3 "c.png").run (0, ()) =
        ({ path := "c.png", category := .media, outcome := .skipped Category.media.skipReason
           sourceSize := 3 }, (0, ())) := by
  have isKept (path : String) : Yields (drawer.awaitWorker path) (· = none) := .pure rfl
  have isJson : Category.ofPath "a.json" = .structuredData ∧
      Category.ofPath "b.json" = .structuredData := by decide +kernel
  have isMedia : Category.ofPath "c.png" = .media := by decide +kernel
  refine ⟨isKept, ?_, ?_, ?_⟩
  · obtain ⟨loads, record, after, _, counted, recorded, _⟩ :=
      recordFile_recorded (isKept "b.json") {} { promptLimit := some 5 } 3 "b.json" ()
    refine counted.trans ?_
    cases recorded with
    | skipped notParsed =>
        rw [isJson.2] at notParsed
        cases notParsed
    | unloaded _ isLoaded =>
        cases isLoaded
        rw [isJson.2]
    | faulty _ isLoaded | unasked _ isLoaded | asked _ isLoaded => cases isLoaded
  · obtain ⟨loads, record, after, _, counted, recorded, _⟩ :=
      recordFile_recorded (isKept "a.json") {} { promptLimit := some 5, includesSource := true } 3
        "a.json" ()
    refine counted.trans ?_
    cases recorded with
    | skipped notParsed =>
        rw [isJson.1] at notParsed
        cases notParsed
    | unloaded _ isLoaded => cases isLoaded
    | faulty _ isLoaded isFaulty =>
        cases isLoaded
        rw [isJson.1] at isFaulty
        cases isFaulty
    | unasked _ _ _ isSilent => cases isSilent
    | asked _ isLoaded isRepresented _ isAnswer =>
        obtain ⟨_, rfl⟩ := isAnswer
        cases isLoaded
        rw [isJson.1] at isRepresented ⊢
        cases isRepresented
        rfl
  · obtain ⟨loads, record, after, _, counted, recorded, _⟩ :=
      recordFile_recorded (isKept "c.png") {} { promptLimit := some 5 } 3 "c.png" ()
    refine counted.trans ?_
    cases recorded with
    | skipped => rw [isMedia]
    | unloaded isParsed | faulty isParsed | unasked isParsed | asked isParsed =>
        rw [isMedia] at isParsed
        cases isParsed

end RepoSurvey
