import RepoSurvey.Proofs.Command.Secrets
import RepoSurvey.Proofs.Files.Replacing
import RepoSurvey.Proofs.Survey.Leaving

/-!
# Keeping the artifact of a survey

A command that surveys keeps an artifact.  It ends well with the whole artifact at its destination, or it
fails and no file has changed.  It fails only if its configuration cannot be loaded, if no client for the
web can be made, if the walk itself stops, or if the artifact cannot be put in place; what goes wrong with
one file, and what a host does not tell, is no reason.
-/

namespace RepoSurvey

variable {σ : Type}

/-! ## Loading a configuration -/

theorem FileOperations.readText_leaves {γ : Type} {view : σ → γ} {files : FileOperations (StateM σ)}
    (reads : ∀ path, Leaves view (files.read path).run) (path : String) :
    Leaves view (files.readText path).run := by
  refine (reads path).bindExcept fun bytes => ?_
  split <;> exact .pure _

theorem Configuration.told_leaves {γ : Type} {view : σ → γ} {files : FileOperations (StateM σ)}
    (reads : ∀ path, Leaves view (files.read path).run) (path : Option String) :
    Leaves view (told files path).run := by
  cases path with
  | none => exact .pure _
  | some path => exact (files.readText_leaves reads path).map _

/-- Where an artifact is kept. -/
def Configuration.destination (configuration : Configuration) (output : String) : String :=
  Path.join configuration.outputDirectory output

/-- Writing an artifact tells the path of the text that is put in place, or why it is not. -/
theorem Aggregate.write_run (aggregate : Aggregate) (files : FileOperations (StateM σ))
    (directory name : String) (state : σ) :
    let destination := Path.join directory name
    (aggregate.write files directory name).run.run state =
      match (files.replaceText directory destination aggregate.text).run.run state with
      | (.ok _, later) => (.ok destination, later)
      | (.error error, later) => (.error (.write destination error), later) := by
  extract_lets destination
  rw [Aggregate.write, run_bind, run_adapt, StateT.run_map]
  generalize (files.replaceText directory destination aggregate.text).run.run state = outcome
  obtain ⟨error | done, later⟩ := outcome <;> rfl

namespace World

variable {world : World (StateM σ)} {environment : Environment} {config : Option String}

theorem configuration_run (state : σ) :
    (world.configuration environment config).run.run state =
      let told := (Configuration.told world.files config).run.run state
      ((told.1.map (Configuration.withSecrets environment.get?)).mapError .configuration, told.2) := by
  let loading := (Configuration.load world.files environment.get? config).run
  change ((loading.run state).1.mapError RunError.configuration, (loading.run state).2) = _
  rw [Configuration.load_run]

theorem configuration_leaves {γ : Type} {view : σ → γ}
    (reads : ∀ path, Leaves view (world.files.read path).run) :
    Leaves view (world.configuration environment config).run := by
  intro state
  rw [configuration_run]
  exact Configuration.told_leaves reads config state

/-- What was loaded has its secrets from the environment. -/
theorem configuration_eq_ok {state later : σ} {configuration : Configuration}
    (isLoaded : (world.configuration environment config).run.run state = (.ok configuration, later)) :
    ∃ told, configuration = Configuration.withSecrets environment.get? told := by
  rw [configuration_run] at isLoaded
  dsimp only at isLoaded
  cases isTold : ((Configuration.told world.files config).run.run state).1 with
  | error error =>
      rw [isTold] at isLoaded
      cases isLoaded
  | ok told =>
      rw [isTold] at isLoaded
      cases isLoaded
      exact ⟨told, rfl⟩

/-! ## Why there is no survey -/

/-- Why no client can be made for the summaries that a configuration asks for. -/
inductive LacksSummarizer (world : World (StateM σ)) (configuration : Configuration) : RunError → Prop
  | refused {reason : String} (isEnabled : configuration.summaries.isEnabled = true)
      (refuses : world.clientFailure configuration.summaries.timeout = some reason) :
      LacksSummarizer world configuration (.noSummarizer reason)

/-- Why a directory cannot be surveyed. -/
inductive RefusesDirectory (world : World (StateM σ)) (root : String) (configuration : Configuration)
    (state : σ) : RunError → Prop
  | noSummarizer {error : RunError} (lacks : world.LacksSummarizer configuration error) :
      RefusesDirectory world root configuration state error
  | stopped {error : WalkError}
      (stops : Listing.walk configuration.survey.ignored root
        ((world.files.list root).run.run state).1 = .error error) :
      RefusesDirectory world root configuration state (.survey (.traversal error))

/-- Why a repository cannot be surveyed. -/
inductive RefusesRepository (world : World (StateM σ)) (configuration : Configuration) : RunError → Prop
  | noSummarizer {error : RunError} (lacks : world.LacksSummarizer configuration error) :
      RefusesRepository world configuration error
  | noHost {reason : String}
      (refuses : world.clientFailure configuration.host.timeout = some reason) :
      RefusesRepository world configuration (.noHost reason)

theorem connectedSummarizer_cases {environment : String → Option String} {told : Configuration} :
    let configuration := Configuration.withSecrets environment told
    (∃ summarizer, world.connectedSummarizer configuration.summaries = .ok summarizer) ∨
    ∃ error, world.connectedSummarizer configuration.summaries = .error error ∧
      world.LacksSummarizer configuration error := by
  extract_lets configuration
  obtain ⟨summarizer, isMade, isWanted⟩ :=
    Configuration.summarizer_withSecrets world environment told
  rw [connectedSummarizer, isMade]
  cases summarizer with
  | none => exact .inl ⟨none, rfl⟩
  | some client =>
      simp only [bind, Except.bind, Option.isSome_some, if_true, World.client]
      cases refuses : world.clientFailure configuration.summaries.timeout with
      | none => exact .inl ⟨some client, rfl⟩
      | some reason => exact .inr ⟨.noSummarizer reason, rfl, .refused isWanted.symm refuses⟩

/-! ## Surveys -/

theorem summarizer_of_connected {settings : SummarySettings}
    {summarizer : Option (Summarizer (StateM σ))}
    (isMade : world.connectedSummarizer settings = .ok summarizer) :
    world.summarizer settings = .ok summarizer := by
  rw [connectedSummarizer] at isMade
  cases made : world.summarizer settings with
  | error error => simp [made, bind, Except.bind] at isMade
  | ok first =>
      simp only [made, bind, Except.bind] at isMade
      split at isMade
      · split at isMade
        · cases isMade
        · cases isMade
          rfl
      · cases isMade
        rfl

section Surveys

variable {disk : σ → Disk} (works : world.files.WorkOn disk)
  (sends : ∀ request, Leaves disk (world.web.send request))
  (waits : ∀ interval, Leaves disk (world.awaitTurn interval)) (languages : Languages)

include sends waits

theorem connectedSummarizer_leaves {settings : SummarySettings}
    {summarizer : Option (Summarizer (StateM σ))}
    (isMade : world.connectedSummarizer settings = .ok summarizer) :
    ∀ client ∈ summarizer, client.Leaves disk := by
  have isMadeFirst := summarizer_of_connected isMade
  rintro client rfl
  rw [World.summarizer] at isMadeFirst
  split at isMadeFirst
  · split at isMadeFirst
    · rename_i made
      cases isMadeFirst
      exact SummarySettings.summarizer_leaves sends (waits _) made
    · cases isMadeFirst
  · cases isMadeFirst

theorem surveyRepository_leaves (owner name : String) (configuration : Configuration) :
    Leaves disk (world.surveyRepository languages owner name configuration).run := by
  rw [surveyRepository]
  refine Leaves.bindExcept (.pure _) fun _ => ?_
  cases isMade : world.connectedSummarizer configuration.summaries with
  | error error => exact .pure _
  | ok summarizer =>
      rw [mk_ok_bind]
      obtain ⟨tells, lists, fetches⟩ :=
        HostSettings.repository_leaves sends configuration.host owner name
      exact (SurveySettings.surveyRepository_leaves languages
        (connectedSummarizer_leaves sends waits isMade) SurveySettings.calm_leave
        configuration.survey tells lists fetches).lift

include works

theorem surveyDirectory_leaves (root : String) (configuration : Configuration) :
    Leaves disk (world.surveyDirectory languages root configuration).run := by
  rw [surveyDirectory]
  cases isMade : world.connectedSummarizer configuration.summaries with
  | error error => exact .pure _
  | ok summarizer =>
      rw [mk_ok_bind]
      exact (SurveySettings.surveyDirectory_leaves languages
        (connectedSummarizer_leaves sends waits isMade) SurveySettings.calm_leave
        configuration.survey works.list works.read root).adapt _

end Surveys

/-- A directory that cannot be surveyed is refused for a reason, whatever is wrong with its files. -/
theorem refusesDirectory_of_error {languages : Languages} {root : String}
    {environment : String → Option String} {told : Configuration} {state : σ} {error : RunError}
    (fails : ((world.surveyDirectory languages root
      (Configuration.withSecrets environment told)).run.run state).1 = .error error) :
    world.RefusesDirectory root (Configuration.withSecrets environment told) state error := by
  obtain ⟨summarizer, isMade⟩ | ⟨reason, notMade, lacks⟩ :=
    @connectedSummarizer_cases σ world environment told
  · generalize Configuration.withSecrets environment told = configuration at fails isMade ⊢
    rw [surveyDirectory, isMade, mk_ok_bind, run_adapt, run_map_fst,
      SurveySettings.surveyDirectory_run] at fails
    dsimp only at fails
    cases stops : Listing.walk configuration.survey.ignored root
        ((world.files.list root).run.run state).1 with
    | error stopped =>
        rw [stops] at fails
        cases fails
        exact .stopped stops
    | ok found =>
        rw [stops] at fails
        cases fails
  · generalize Configuration.withSecrets environment told = configuration at fails notMade lacks ⊢
    rw [surveyDirectory, notMade, mk_error_bind] at fails
    cases fails
    exact .noSummarizer lacks

/-- A repository that cannot be surveyed is refused for want of a client, whatever its host tells. -/
theorem refusesRepository_of_error {languages : Languages} {owner name : String}
    {environment : String → Option String} {told : Configuration} {state : σ} {error : RunError}
    (fails : ((world.surveyRepository languages owner name
      (Configuration.withSecrets environment told)).run.run state).1 = .error error) :
    world.RefusesRepository (Configuration.withSecrets environment told) error := by
  obtain ⟨summarizer, isMade⟩ | ⟨reason, notMade, lacks⟩ :=
    @connectedSummarizer_cases σ world environment told
  · generalize Configuration.withSecrets environment told = configuration at fails isMade ⊢
    rw [surveyRepository, client] at fails
    split at fails
    · rename_i reason refuses
      cases fails
      exact .noHost refuses
    · rw [mk_ok_bind, isMade, mk_ok_bind, ExceptT.run_lift, run_map_fst] at fails
      cases fails
  · generalize Configuration.withSecrets environment told = configuration at fails notMade lacks ⊢
    rw [surveyRepository, client] at fails
    split at fails
    · rename_i reason refuses
      cases fails
      exact .noHost refuses
    · rw [mk_ok_bind, notMade, mk_error_bind] at fails
      cases fails
      exact .noSummarizer lacks

/-! ## Keeping the artifact -/

theorem write_run (aggregate : Aggregate) (files : FileOperations (StateM σ))
    (directory name : String) (state : σ) :
    let destination := Path.join directory name
    (ExceptT.adapt RunError.survey (aggregate.write files directory name)).run.run state =
      match (files.replaceText directory destination aggregate.text).run.run state with
      | (.ok _, later) => (.ok destination, later)
      | (.error error, later) => (.error (.survey (.write destination error)), later) := by
  extract_lets destination
  rw [run_adapt, StateT.run_map, aggregate.write_run]
  generalize (files.replaceText directory destination aggregate.text).run.run state = outcome
  obtain ⟨error | done, later⟩ := outcome <;> rfl

section Ends

variable (world environment config) (disk : σ → Disk)
  (survey : Configuration → ExceptT RunError (StateM σ) Aggregate)
  (refuses : Configuration → σ → RunError → Prop) (output : String)
  (report : Aggregate → String → String) (state : σ)

/-- The ways in which a command ends that keeps the artifact of a survey, and how the disk looks then.
`refuses` tells when there is no survey. -/
inductive Ends : Except RunError String → Disk → Prop
  | unconfigured {error : RunError}
      (fails : ((world.configuration environment config).run.run state).1 = .error error) :
      Ends (.error error) (disk state)
  | unsurveyed {configuration : Configuration} {error : RunError} {later : σ}
      (isLoaded : (world.configuration environment config).run.run state = (.ok configuration, later))
      (isRefused : refuses configuration later error) :
      Ends (.error error) (disk state)
  /-- The artifact cannot be put in place. Nothing on the disk is new but directories on the way, and the
  destination is as it was unless it is such a directory. -/
  | unwritten {configuration : Configuration} {aggregate : Aggregate} {error : SystemError}
      {later last : σ} {after : Disk}
      (isLoaded : (world.configuration environment config).run.run state = (.ok configuration, later))
      (isSurveyed : (survey configuration).run.run later = (.ok aggregate, last))
      (fails : ((world.files.replaceText configuration.outputDirectory
        (configuration.destination output) aggregate.text).run.run last).1 = .error error)
      (grown : Disk.Grown (configuration.outputDirectory :: Path.parents configuration.outputDirectory)
        (disk state) after)
      (spares : Disk.Spares (configuration.outputDirectory :: Path.parents configuration.outputDirectory)
        (configuration.destination output) (disk state) after) :
      Ends (.error (.survey (.write (configuration.destination output) error))) after
  /-- The artifact is in place. `made` is the disk with the directories on the way. The artifact can be read
  where its destination still leads to it, as it does unless a link was replaced. -/
  | kept {configuration : Configuration} {aggregate : Aggregate} {later last : σ} {made after : Disk}
      (isLoaded : (world.configuration environment config).run.run state = (.ok configuration, later))
      (isSurveyed : (survey configuration).run.run later = (.ok aggregate, last))
      (grown : Disk.Grown (configuration.outputDirectory :: Path.parents configuration.outputDirectory)
        (disk state) made)
      (replaces : made.Replaces (configuration.destination output) aggregate.text.toUTF8 after)
      (isRead : after.entry (configuration.destination output) =
          made.entry (configuration.destination output) →
        after.read (configuration.destination output) = .ok aggregate.text.toUTF8)
      (staysEntry : (∀ parent name target,
          made.entry (configuration.destination output) = .ok (parent, some name) →
            made.top.standingAt (parent ++ [name]) ≠ some (.link target)) →
        after.entry (configuration.destination output) =
          made.entry (configuration.destination output)) :
      Ends (.ok (report aggregate (configuration.destination output))) after

end Ends

theorem keepSurvey_ends {disk : σ → Disk}
    {survey : Configuration → ExceptT RunError (StateM σ) Aggregate}
    {refuses : Configuration → σ → RunError → Prop} (works : world.files.WorkOn disk)
    (surveyLeaves : ∀ configuration, Leaves disk (survey configuration).run)
    (refused : ∀ told later error,
      let configuration := Configuration.withSecrets environment.get? told
      ((survey configuration).run.run later).1 = .error error → refuses configuration later error)
    (output : String) (report : Aggregate → String → String) (state : σ) :
    let done := (world.keepSurvey environment config survey output report).run.run state
    world.Ends environment config disk survey refuses output report state done.1 (disk done.2) := by
  dsimp only
  rw [keepSurvey, run_bind]
  -- Loading and surveying leave the disk as it is, so only the last step has to be looked at.
  have loadingLeaves : Leaves disk (world.configuration environment config).run :=
    configuration_leaves works.read
  have afterLoading := loadingLeaves state
  cases loaded : (world.configuration environment config).run.run state with
  | mk result later =>
  rw [loaded] at afterLoading
  cases result with
  | error error =>
      dsimp only at afterLoading ⊢
      rw [afterLoading]
      exact .unconfigured (congrArg Prod.fst loaded)
  | ok configuration =>
      dsimp only at afterLoading ⊢
      rw [run_bind]
      have afterSurvey := surveyLeaves configuration later
      cases surveyed : (survey configuration).run.run later with
      | mk result last =>
      rw [surveyed] at afterSurvey
      cases result with
      | error error =>
          dsimp only at afterSurvey ⊢
          rw [afterSurvey, afterLoading]
          obtain ⟨told, rfl⟩ := configuration_eq_ok loaded
          exact .unsurveyed loaded (refused told later error (congrArg Prod.fst surveyed))
      | ok aggregate =>
          dsimp only at afterSurvey ⊢
          rw [run_bind, write_run]
          have replaced := works.replaceText configuration.outputDirectory
            (configuration.destination output) aggregate.text last
          dsimp only at replaced
          rw [afterSurvey, afterLoading] at replaced
          rw [Configuration.destination] at replaced
          cases written : (world.files.replaceText configuration.outputDirectory
            (Path.join configuration.outputDirectory output) aggregate.text).run.run last with
          | mk result finish =>
          rw [written] at replaced
          cases result with
          | error error =>
              exact .unwritten loaded surveyed (congrArg Prod.fst written) replaced
                (replaced.spares (configuration.destination output))
          | ok =>
              obtain ⟨made, grown, replaces⟩ := replaced
              exact .kept loaded surveyed grown replaces replaces.read replaces.entry

end World

/-- A command that surveys ends with its whole artifact in place, or it fails and no file has changed or
was left behind.  It fails for no reason that lies in a single file or in what a host tells. -/
theorem surveys_keep_whole_artifacts {world : World (StateM σ)} {disk : σ → Disk}
    (works : world.files.WorkOn disk) (sends : ∀ request, Leaves disk (world.web.send request))
    (waits : ∀ interval, Leaves disk (world.awaitTurn interval)) (languages : Languages)
    (environment : Environment) (config : Option String) (state : σ) :
    (∀ root output,
      let done := ((Command.surveyDirectory root config output).run languages world
        environment).run.run state
      world.Ends environment config disk (world.surveyDirectory languages root)
        (world.RefusesDirectory root) output Command.directoryReport state done.1 (disk done.2)) ∧
    ∀ owner name,
      let done := ((Command.surveyRepository owner name config).run languages world
        environment).run.run state
      world.Ends environment config disk (world.surveyRepository languages owner name)
        (fun configuration _ => world.RefusesRepository configuration) (artifactName name)
        (Command.repositoryReport owner name) state done.1 (disk done.2) := by
  constructor
  · intro root output
    exact World.keepSurvey_ends works (World.surveyDirectory_leaves works sends waits languages root)
      (fun _ _ _ => World.refusesDirectory_of_error) output Command.directoryReport state
  · intro owner name
    exact World.keepSurvey_ends works (World.surveyRepository_leaves sends waits languages owner name)
      (fun _ _ _ => World.refusesRepository_of_error) (artifactName name)
      (Command.repositoryReport owner name) state

/-! ## A full disk -/

namespace FullDisk

/-- There is no room for another file, and nobody answers. -/
def world : World (StateM Disk) where
  files := { Disk.operations with createTemporary := fun _ => throw .diskFull }
  web := { send := fun _ => return none }
  awaitTurn _ := return

theorem files_workOn : world.files.WorkOn id :=
  { Disk.operations_workOn with createTemporary := fun _ _ => rfl }

/-- The artifact of another day. -/
def before : Disk := { top := .directory [("n.json", .file "[]".toUTF8)] }

def surveyed : Except RunError String × Disk :=
  ((Command.surveyRepository "o" "n" none).run {} world []).run.run before

theorem survey_of_fullDisk_keeps_artifact :
    world.files.WorkOn id ∧ (∀ request, Leaves id (world.web.send request)) ∧
      (∀ interval, Leaves id (world.awaitTurn interval)) ∧
      world.Ends [] none id (world.surveyRepository {} "o" "n")
        (fun configuration _ => world.RefusesRepository configuration) (artifactName "n")
        (Command.repositoryReport "o" "n") before surveyed.1 surveyed.2 ∧
      surveyed.1 = .error (.survey (.write "./n.json" .diskFull)) ∧
        surveyed.2.read "./n.json" = .ok "[]".toUTF8 :=
  ⟨files_workOn, fun _ => .pure _, fun _ => .pure _,
    (surveys_keep_whole_artifacts files_workOn (fun _ => .pure _) (fun _ => .pure _) {} [] none
      before).2 "o" "n",
    by decide +kernel, by decide +kernel⟩

end FullDisk

end RepoSurvey
