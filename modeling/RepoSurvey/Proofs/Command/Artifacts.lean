import RepoSurvey.Proofs.Command.Keeping
import RepoSurvey.Proofs.Files.Children

/-!
# Artifacts of repositories

The artifact of a repository is a child of the output directory, whatever the repository is called.  No other
file is made or replaced, and directories are made only where the output directory is missing.
-/

namespace RepoSurvey

/-! ## Names of artifacts -/

theorem toList_artifactName (repository : String) :
    (artifactName repository).toList =
      repository.toList.map (fun character =>
        if character == '/' || character == '\\' || character == ':' then '_' else character) ++
          ".json".toList := by
  rw [artifactName, String.toList_map, String.toList_append, List.map_append]
  rfl

theorem artifactName_ends (repository : String) :
    ".json".toList <:+ (artifactName repository).toList := by
  rw [toList_artifactName]
  exact List.suffix_append _ _

/-- No separator of any system is left in the name of an artifact. -/
theorem notMem_artifactName (repository : String) {sign : Char} (isSign : sign ∈ ['/', '\\', ':']) :
    sign ∉ (artifactName repository).toList := by
  rw [artifactName, String.toList_map, List.mem_map]
  rintro ⟨character, _, replaced⟩
  split at replaced
  · rw [← replaced] at isSign
    revert isSign
    decide
  · rename_i notSign
    rw [replaced] at notSign
    exact notSign (by simpa [or_assoc] using isSign)

theorem artifactName_ne (repository : String) {text : String}
    (notEnd : ¬ ".json".toList <:+ text.toList) : artifactName repository ≠ text := by
  rintro rfl
  exact notEnd (artifactName_ends repository)

theorem artifactName_isOrdinary (repository : String) : Path.IsOrdinary (artifactName repository) where
  isName := notMem_artifactName repository (by decide)
  nonempty := artifactName_ne repository (by decide)
  ne_dot := artifactName_ne repository (by decide)
  ne_up := artifactName_ne repository (by decide)

/-! ## Where artifacts are kept -/

variable {σ : Type}

/-- Writing an artifact tells one path, whether it goes well or not. -/
theorem Aggregate.write_tells (aggregate : Aggregate) (files : FileOperations (StateM σ))
    (directory name : String) (state : σ) :
    let destination := Path.join directory name
    let written := ((aggregate.write files directory name).run.run state).1
    written = .ok destination ∨ ∃ error, written = .error (.write destination error) := by
  extract_lets destination written
  rw [show written = _ from congrArg Prod.fst (aggregate.write_run files directory name state)]
  generalize (files.replaceText directory destination aggregate.text).run.run state = outcome
  obtain ⟨error | done, later⟩ := outcome
  · exact .inr ⟨error, rfl⟩
  · exact .inl rfl

/-- A command that keeps its artifact under an ordinary name keeps it as a child of the output directory. -/
theorem World.Ends.keepsChild {world : World (StateM σ)} {environment : Environment}
    {config : Option String} {disk : σ → Disk}
    {survey : Configuration → ExceptT RunError (StateM σ) Aggregate}
    {refuses : Configuration → σ → RunError → Prop} {output : String}
    {report : Aggregate → String → String} {state : σ} {result : Except RunError String} {after : Disk}
    (ends : world.Ends environment config disk survey refuses output report state result after)
    (isOrdinary : Path.IsOrdinary output) :
    match ((world.configuration environment config).run.run state).1 with
    | .error _ => after = disk state
    | .ok configuration =>
        (disk state).KeepsChild configuration.outputDirectory output result after := by
  cases ends with
  | unconfigured fails => rw [fails]
  | unsurveyed isLoaded =>
      rw [isLoaded]
      exact .failed _ (Disk.Grown.refl _).prepares
  | unwritten isLoaded _ _ grown =>
      rw [isLoaded]
      exact .failed _ grown.prepares
  | kept isLoaded _ grown replaces =>
      rw [isLoaded]
      obtain ⟨_, _, parent, name, isEntry, notDirectory, places⟩ := replaces
      obtain ⟨leads, rfl⟩ := Disk.leads_of_entry_join isOrdinary isEntry
      exact .kept _ grown.prepares leads notDirectory places

/-- The artifact of a repository is a child of the output directory, whatever the repository is called.  Its
path is that of the directory with one ordinary component more, which ends in `.json`.  A survey of the
repository puts a file there or none at all; apart from that it only makes the output directory, where
that is missing. -/
theorem artifact_of_repository_is_child :
    (∀ directory repository : String,
      let name := artifactName repository
      let destination := Path.join directory name
      Path.IsOrdinary name ∧ Path.isAbsolute name = false ∧ ".json".toList <:+ name.toList ∧
        (∀ sign ∈ ['/', '\\', ':'], sign ∉ name.toList) ∧
        Path.IsChild directory name destination ∧
        ∀ {σ : Type} (files : FileOperations (StateM σ)) (aggregate : Aggregate) (state : σ),
          let written := ((aggregate.write files directory name).run.run state).1
          written = .ok destination ∨ ∃ error, written = .error (.write destination error)) ∧
    ∀ {σ : Type} {world : World (StateM σ)} {disk : σ → Disk}, world.files.WorkOn disk →
      (∀ request, Leaves disk (world.web.send request)) →
      (∀ interval, Leaves disk (world.awaitTurn interval)) →
      ∀ (languages : Languages) (environment : Environment) (config : Option String)
        (owner repository : String) (state : σ),
        let done := ((Command.surveyRepository owner repository config).run languages world
          environment).run.run state
        match ((world.configuration environment config).run.run state).1 with
        | .error _ => disk done.2 = disk state
        | .ok configuration =>
            (disk state).KeepsChild configuration.outputDirectory (artifactName repository) done.1
              (disk done.2) := by
  constructor
  · intro directory repository
    have isOrdinary := artifactName_isOrdinary repository
    exact ⟨isOrdinary, Path.isAbsolute_of_isName isOrdinary.isName, artifactName_ends repository,
      fun _ => notMem_artifactName repository, Path.isChild_join directory isOrdinary.toIsProper,
      fun files aggregate => aggregate.write_tells files directory _⟩
  · intro σ world disk works sends waits languages environment config owner repository state done
    have ends : world.Ends environment config disk
        (world.surveyRepository languages owner repository)
        (fun configuration _ => world.RefusesRepository configuration) (artifactName repository)
        (Command.repositoryReport owner repository) state done.1 (disk done.2) :=
      World.keepSurvey_ends works
        (World.surveyRepository_leaves sends waits languages owner repository)
        (fun _ _ _ => World.refusesRepository_of_error) (artifactName repository)
        (Command.repositoryReport owner repository) state
    exact ends.keepsChild (artifactName_isOrdinary repository)

/-! ## A repository whose name climbs -/

namespace Climbing

/-- Nobody answers, and nothing fails without need. -/
def world : World (StateM Disk) where
  files := Disk.operations
  web := { send := fun _ => return none }
  awaitTurn _ := return

/-- The output directory is missing, and above it there is a file that the name of a repository points to. -/
def before : Disk where
  top := .directory [
    ("home", .directory [("settings", .file "output_dir: out/new/".toUTF8)]),
    ("passwd.json", .file "[]".toUTF8)]
  start := ["home"]

def surveyed : Except RunError String × Disk :=
  ((Command.surveyRepository "o" "../..\\:/passwd" (some "settings")).run {} world []).run.run before

theorem artifact_of_climbing_is_child :
    world.files.WorkOn id ∧ (∀ request, Leaves id (world.web.send request)) ∧
      (∀ interval, Leaves id (world.awaitTurn interval)) ∧
      before.KeepsChild "out/new/" ".._..___passwd.json" surveyed.1 surveyed.2 ∧
      surveyed.2.top.standingAt ["passwd.json"] = some (.file "[]".toUTF8) := by
  have sends (request : Web.Request) : Leaves id (world.web.send request) := .pure _
  have waits (interval : Nat) : Leaves id (world.awaitTurn interval) := .pure _
  have kept := artifact_of_repository_is_child.2 Disk.operations_workOn sends waits {} []
    (some "settings") "o" "../..\\:/passwd" before
  have name_eq : artifactName "../..\\:/passwd" = ".._..___passwd.json" := by decide +kernel
  have isTold : ((world.configuration [] (some "settings")).run.run before).1.map
      Configuration.outputDirectory = .ok "out/new/" := by decide +kernel
  cases loaded : ((world.configuration [] (some "settings")).run.run before).1 with
  | error error =>
      rw [loaded] at isTold
      cases isTold
  | ok configuration =>
      rw [loaded] at isTold kept
      have directory_eq : configuration.outputDirectory = "out/new/" := Except.ok.inj isTold
      dsimp only at kept
      rw [name_eq, directory_eq] at kept
      exact ⟨Disk.operations_workOn, sends, waits, kept, kept.stays rfl (by decide)⟩

end Climbing

end RepoSurvey
