import RepoSurvey.Proofs.Survey.Interleaving

/-!
# What holds of every record

What the stages of a file see to holds of every record of a survey, whatever the outside does and in whatever
order things happen.
-/

namespace RepoSurvey

variable {σ Source : Type}

/-- The record of a file is accepted as soon as there is one. -/
def Progress.Keeps (accepts : FileRecord → Prop) : Progress → Prop
  | loading _ _ | parsing _ _ => True
  | queued record _ | asking record _ | finished record => accepts record

/-- All records that there are in a window are accepted. -/
structure Window.Keeps (accepts : FileRecord → Prop) (window : Window Source) : Prop where
  delivered : ∀ record ∈ window.delivered, accepts record
  inFlight : ∀ flight ∈ window.inFlight, flight.progress.Keeps accepts

/-- Every stage of a file leads to a record that is accepted. -/
structure Lasting (languages : Languages) (settings : RecordSettings)
    (accepts : FileRecord → Prop) : Prop where
  start : ∀ path sizeHint, (Progress.start path sizeHint).Keeps accepts
  loaded : ∀ path sizeHint content, (Progress.loaded path sizeHint content).Keeps accepts
  parsed : ∀ path content lost,
    (Progress.parsed languages settings path content lost).Keeps accepts
  summarized : ∀ record answer, accepts record →
    (Progress.summarized record answer).Keeps accepts

namespace Lasting

variable {languages : Languages} {settings : RecordSettings} {accepts : FileRecord → Prop}
  (lasting : Lasting languages settings accepts) (services : Services (StateM σ) Source)

include lasting

theorem next (source : Source) {progress : Progress} (keeps : progress.Keeps accepts) :
    Yields (progress.next languages settings services source) (·.Keeps accepts) := by
  cases progress with
  | loading path sizeHint =>
      exact (Yields.trivially _).bind fun content _ => .pure (lasting.loaded path sizeHint content)
  | parsing path content =>
      exact (Yields.trivially _).bind fun lost _ => .pure (lasting.parsed path content lost)
  | queued record prompt => exact (Yields.trivially _).bind fun _ _ => .pure keeps
  | asking record prompt =>
      exact (Yields.trivially _).bind fun answer _ =>
        .pure (lasting.summarized record answer keeps)
  | finished record => exact .pure keeps

/-- Whatever happens to a window, its records stay accepted. -/
theorem happens {services : Services (StateM σ) Source} {limit : Nat} {event : Window.Event}
    {before behind : σ} {window later : Window Source}
    (happens : Window.Happens languages settings services limit window before event later behind)
    (keeps : window.Keeps accepts) : later.Keeps accepts := by
  cases happens with
  | nothing isImpossible => exact keeps
  | @takenUp pending rest waiting_eq hasRoom =>
      refine ⟨keeps.delivered, ?_⟩
      rw [List.forall_mem_append, List.forall_mem_singleton]
      exact ⟨keeps.inFlight, lasting.start pending.path pending.sizeHint⟩
  | @advanced front back flight progress _ flights_eq isNext =>
      have inFlight := keeps.inFlight
      rw [flights_eq, List.forall_mem_append, List.forall_mem_cons] at inFlight
      have nextKeeps := lasting.next services flight.source inFlight.2.1 before
      rw [isNext] at nextKeeps
      refine ⟨keeps.delivered, ?_⟩
      rw [List.forall_mem_append, List.forall_mem_cons]
      exact ⟨inFlight.1, nextKeeps, inFlight.2.2⟩
  | delivered flights_eq =>
      have inFlight := keeps.inFlight
      rw [flights_eq, List.forall_mem_cons] at inFlight
      exact ⟨List.forall_mem_cons.mpr ⟨inFlight.1, keeps.delivered⟩, inFlight.2⟩

theorem recordFiles (choose : List Window.Event → StateM σ Nat) (limit : Nat)
    (files : List (Pending Source)) :
    Yields (recordFiles languages settings services choose limit files)
      fun records => ∀ record ∈ records, accepts record := by
  have start : Window.Keeps accepts { waiting := files } := ⟨by simp, by simp⟩
  have keeps : Yields (Window.run languages settings services choose (max limit 1)
      (eventsPerFile * files.length) { waiting := files }) (·.Keeps accepts) := fun state =>
    Window.run_holds languages settings services _ choose (fun _ window => window.Keeps accepts)
      (fun _ _ _ isKept => isKept) lasting.happens _ _ state start
  refine keeps.bind fun window keeps => .pure ?_
  exact fun record isIn => keeps.delivered record (List.mem_reverse.mp isIn)

end Lasting

namespace SurveySettings

variable {settings : SurveySettings} {languages : Languages}
  {summarizer : Option (Summarizer (StateM σ))} {accepts : FileRecord → Prop}
  (lasting : Lasting languages (settings.recordSettings summarizer) accepts)
  (conditions : Conditions (StateM σ))

include lasting

theorem surveyDirectory_accepts (files : FileOperations (StateM σ)) (root : String) :
    Yields (settings.surveyDirectory languages files summarizer root conditions).run
      fun result => ∀ aggregate, result = .ok aggregate →
        ∀ record ∈ aggregate.files, accepts record := by
  have unfolded : (settings.surveyDirectory languages files summarizer root conditions).run = (do
      let listing ← (files.list root).run
      (do
        let found ← ExceptT.mk (pure (Listing.walk settings.ignored root listing))
        let pending := found.map fun file =>
          ({ path := file.relative, sizeHint := file.size, source := file.path } : Pending String)
        let records ← ExceptT.lift
          (settings.recordAll languages (loadFrom files) summarizer conditions pending)
        return ({ files := records } : Aggregate) : ExceptT WalkError (StateM σ) Aggregate).run) :=
    rfl
  rw [unfolded]
  refine (Yields.trivially _).bind fun listing _ => ?_
  cases Listing.walk settings.ignored root listing with
  | error error =>
      intro state aggregate same
      cases same
  | ok found =>
      intro state aggregate same
      cases same
      exact lasting.recordFiles _ _ _ _ state

theorem surveyRepository_accepts (host : RepositoryHost (StateM σ)) :
    Yields (settings.surveyRepository languages host summarizer conditions)
      fun aggregate => ∀ record ∈ aggregate.files, accepts record := by
  refine (Yields.trivially _).bind fun metadata _ => ?_
  refine (Yields.trivially _).bind fun listed _ => ?_
  exact (lasting.recordFiles _ _ _ _).bind fun records areAccepted => .pure areAccepted

end SurveySettings

/-! ## Representations that suit categories -/

/-- A representation is what the category of a file promises. -/
def Representation.Suits : Representation → Category → Prop
  | syntaxTree .., .script | schema _, .structuredData | document .., .markup
  | document .., .prose | ruleTree .., .stylesheet => True
  | _, _ => False

namespace Languages

variable {languages : Languages} {describesItems : Bool} {category : Category} {path content : String}

theorem category_of_soundTree {language : Parsing.Language} {error : ParseError}
    (isFaulty : soundTree language category content = .error error) : error.category = category := by
  unfold soundTree at isFaulty
  split at isFaulty
  · cases isFaulty
    rfl
  · split at isFaulty <;> cases isFaulty
    rfl

/-- Content of a category that is parsed is represented, or it has a fault that names the category. -/
theorem represent_cases (languages : Languages) (describesItems : Bool)
    (isParsed : category.isParsed) (path content : String) :
    (∃ representation, languages.represent describesItems category path content =
        .ok (.parsed representation) ∧ representation.Suits category) ∨
      ∃ error, languages.represent describesItems category path content = .error error ∧
        error.category = category := by
  unfold represent
  cases category with
  | script =>
      dsimp only
      cases sound : soundTree (languages.script (Script.Dialect.ofPath path)) .script content with
      | error error => exact .inr ⟨error, rfl, category_of_soundTree sound⟩
      | ok root => exact .inl ⟨_, rfl, trivial⟩
  | structuredData =>
      dsimp only
      cases Json.read content with
      | error error => exact .inr ⟨_, rfl, rfl⟩
      | ok value => exact .inl ⟨_, rfl, trivial⟩
  | markup => exact .inl ⟨_, rfl, trivial⟩
  | stylesheet =>
      dsimp only
      cases sound : soundTree languages.stylesheet .stylesheet content with
      | error error => exact .inr ⟨error, rfl, category_of_soundTree sound⟩
      | ok root => exact .inl ⟨_, rfl, trivial⟩
  | prose => exact .inl ⟨_, rfl, trivial⟩
  | media | unsupported => cases isParsed

theorem represent_suits {representation : Representation}
    (represented : languages.represent describesItems category path content =
      .ok (.parsed representation)) : representation.Suits category := by
  cases isParsed : category.isParsed with
  | true =>
      obtain ⟨other, isOther, suits⟩ | ⟨error, isFaulty, _⟩ :=
        languages.represent_cases describesItems isParsed path content
      · rw [represented] at isOther
        cases isOther
        exact suits
      · rw [represented] at isFaulty
        cases isFaulty
  | false =>
      -- Content that is not parsed is skipped.
      cases category <;> cases isParsed <;> cases represented

end Languages

/-- A record holds no representation that does not suit its category. -/
def FileRecord.Suits (record : FileRecord) : Prop :=
  ∀ representation, record.outcome = .parsed representation → representation.Suits record.category

theorem lasting_suits (languages : Languages) (settings : RecordSettings) :
    Lasting languages settings FileRecord.Suits where
  start path sizeHint := by
    rw [Progress.start]
    split
    · trivial
    · intro representation same
      cases same
  loaded path sizeHint content := by
    cases content with
    | ok content => trivial
    | error error =>
        intro representation same
        cases same
  parsed path content lost := by
    unfold Progress.parsed
    dsimp only
    split
    · intro representation same
      cases same
    · intro representation same
      cases same
    · intro representation same
      cases same
    · rename_i representation represented
      have suits : ∀ record : FileRecord, record.category = Category.ofPath path →
          record.outcome = .parsed representation → record.Suits := by
        intro record category_eq outcome_eq other same
        rw [outcome_eq] at same
        cases same
        rw [category_eq]
        exact Languages.represent_suits represented
      split
      · exact suits _ rfl rfl
      · exact suits _ rfl rfl
  summarized record answer suits := suits

end RepoSurvey
