import Mathlib.Data.List.DropRight
import RepoSurvey.Command.Run
import RepoSurvey.Proofs.Actions
import RepoSurvey.Proofs.Yaml.Decoding

/-!
# Where secrets come from

Whatever the file of a configuration says, secrets come from the environment alone, word for word.  The
environment in turn tells nothing but secrets, and whether there are summaries.  Summaries are only
wanted when their secret is there, so a summarizer can always be made.
-/

namespace RepoSurvey

variable {σ : Type}

/-! ## Variables -/

/-- A text is empty without the white space at its ends if it is white space throughout. -/
theorem trim_isEmpty_iff (text : String) :
    (trim text).isEmpty = true ↔ ∀ character ∈ text.toList, isWhiteSpace character = true := by
  have isEmpty_iff : (trim text).isEmpty = true ↔
      (text.toList.dropWhile isWhiteSpace).reverse.dropWhile isWhiteSpace = [] := by
    rw [trim, dropEndWhile, String.isEmpty_iff, String.ofList_eq_empty_iff, List.reverse_eq_nil_iff]
  rw [isEmpty_iff, List.dropWhile_eq_nil_iff]
  constructor
  · intro isBlank
    have nothingLeft : (text.toList.dropWhile isWhiteSpace).dropWhile isWhiteSpace = [] := by
      rw [List.dropWhile_eq_nil_iff]
      exact fun character isIn => isBlank character (List.mem_reverse.mpr isIn)
    rw [List.dropWhile_idempotent, List.dropWhile_eq_nil_iff] at nothingLeft
    exact nothingLeft
  · intro isBlank character isIn
    rw [List.mem_reverse] at isIn
    exact isBlank character ((List.dropWhile_sublist _).subset isIn)

/-- The variables of a process. A value is any sequence of bytes. -/
abbrev RawVariables := String → Option ByteArray

namespace RawVariables

/-- The values that are texts. -/
def texts (raw : RawVariables) (name : String) : Option String :=
  (raw name).bind String.fromUTF8?

/-- A variable is set to a text that is not blank. -/
def Tells (raw : RawVariables) (name value : String) : Prop :=
  raw name = some value.toUTF8 ∧
    ∃ character ∈ value.toList, isWhiteSpace character = false

theorem secret?_eq_some_iff {raw : RawVariables} {name value : String} :
    Configuration.secret? raw.texts name = some value ↔ raw.Tells name value := by
  have isText : raw.texts name = some value ↔ raw name = some value.toUTF8 := by
    rw [texts, Option.bind_eq_some_iff]
    constructor
    · rintro ⟨bytes, isSet, isText⟩
      rw [isSet, fromUTF8?_eq_some_iff.mp isText]
    · intro isSet
      exact ⟨_, isSet, fromUTF8?_eq_some_iff.mpr rfl⟩
  have notBlank : (!(trim value).isEmpty) = true ↔
      ∃ character ∈ value.toList, isWhiteSpace character = false := by
    rw [Bool.not_eq_true', ← Bool.not_eq_true, trim_isEmpty_iff]
    simp
  rw [Configuration.secret?, Option.filter_eq_some_iff, isText, notBlank, Tells]

end RawVariables

/-! ## What a file can tell -/

namespace Configuration

open Yaml (Decoder)

/-- There are no secrets in a configuration. -/
structure IsOpen (configuration : Configuration) : Prop where
  summaries : configuration.summaries.secret = none
  host : configuration.host.secret = none

theorem surveySection_gives (name : String)
    (fields : List (String × Decoder (SurveySettings → SurveySettings))) :
    (surveySection name fields).Gives fun change =>
      ∀ configuration, configuration.IsOpen → (change configuration).IsOpen :=
  Decoder.gives_map _ fun _ _ isOpen => ⟨isOpen.summaries, isOpen.host⟩

theorem summaryFields_keep : Decoder.Keep summaryFields fun settings => settings.secret = none := by
  simp only [Decoder.Keep, summaryFields, List.forall_mem_cons]
  refine ⟨?_, ?_, ?_, ?_, ?_, ?_, nofun⟩ <;> exact Decoder.gives_map _ fun _ _ noSecret => noSecret

theorem hostFields_keep : Decoder.Keep hostFields fun settings => settings.secret = none := by
  simp only [Decoder.Keep, hostFields, List.forall_mem_cons]
  refine ⟨?_, ?_, nofun⟩ <;> exact Decoder.gives_map _ fun _ _ noSecret => noSecret

/-- No document puts a secret into a configuration. -/
theorem decoder_gives : decoder.Gives IsOpen := by
  refine Decoder.Keep.fields ?_ ⟨rfl, rfl⟩
  have keepsSurvey := surveySection_gives
  have givesSummaries : (Decoder.fields "SummarizeConfig" summaryFields {}).Gives
      fun settings => settings.secret = none := summaryFields_keep.fields rfl
  have givesHost : (Decoder.fields "RemoteConfig" hostFields {}).Gives
      fun settings => settings.secret = none := hostFields_keep.fields rfl
  simp only [Decoder.Keep, List.forall_mem_cons]
  refine ⟨?_, keepsSurvey _ _, keepsSurvey _ _, ?_, keepsSurvey _ _, ?_, ?_, nofun⟩
  · exact Decoder.gives_map _ fun _ _ isOpen => ⟨isOpen.summaries, isOpen.host⟩
  · exact givesSummaries.map fun _ noSecret _ isOpen => ⟨noSecret, isOpen.host⟩
  · exact givesHost.map fun _ noSecret _ isOpen => ⟨isOpen.summaries, noSecret⟩
  · exact Decoder.gives_map _ fun _ _ isOpen => ⟨isOpen.summaries, isOpen.host⟩

theorem ofText_eq_ok {text : String} {configuration : Configuration}
    (isRead : ofText text = .ok configuration) :
    configuration.IsOpen ∧ 1 ≤ configuration.survey.concurrency := by
  rw [ofText] at isRead
  split at isRead
  · cases isRead
    exact ⟨⟨rfl, rfl⟩, by decide⟩
  · split at isRead
    · cases isRead
    · rename_i given isGiven
      split at isRead
      · cases isRead
      · rename_i notZero
        cases isRead
        refine ⟨decoder_gives.decode ⟨rfl, rfl⟩ isGiven, ?_⟩
        rw [beq_iff_eq] at notZero
        exact Nat.one_le_iff_ne_zero.mpr notZero

/-! ## Loading -/

/-- What a file alone tells, if there is a path to one. -/
def told {m : Type → Type} [Monad m] (files : FileOperations m) :
    Option String → ExceptT ConfigurationError m Configuration
  | none => return {}
  | some path => ExceptT.mk
      ((fun read => (read.mapError (.unreadable path)).bind ofText) <$> (files.readText path).run)

theorem told_eq_ok {files : FileOperations (StateM σ)} {path : Option String} {state : σ}
    {configuration : Configuration}
    (isTold : ((told files path).run.run state).1 = .ok configuration) :
    configuration.IsOpen ∧ 1 ≤ configuration.survey.concurrency := by
  cases path with
  | none =>
      cases isTold
      exact ⟨⟨rfl, rfl⟩, by decide⟩
  | some path =>
      rw [told, ExceptT.run_mk, run_map_fst] at isTold
      cases read : ((files.readText path).run.run state).1 with
      | error error =>
          rw [read] at isTold
          cases isTold
      | ok text =>
          rw [read] at isTold
          dsimp only [Except.mapError, Except.bind] at isTold
          exact ofText_eq_ok isTold

/-- Loading takes what the file tells, and then the secrets from the environment. -/
theorem load_eq {m : Type → Type} [Monad m] [LawfulMonad m] (files : FileOperations m)
    (environment : String → Option String) (path : Option String) :
    load files environment path = withSecrets environment <$> told files path := by
  cases path with
  | none => simp [load, told]
  | some path =>
      apply ExceptT.ext
      simp only [load, told, run_adapt, ExceptT.run_bind, ExceptT.run_map, ExceptT.run_mk]
      refine (bind_map_left _ (files.readText path).run _).trans ?_
      rw [← comp_map, map_eq_pure_bind]
      refine bind_congr fun answer => ?_
      cases answer with
      | error error => rfl
      | ok text =>
          dsimp only [Except.mapError, Except.bind, Function.comp_apply]
          rw [pure_bind]
          cases ofText text <;> rfl

theorem load_run (files : FileOperations (StateM σ)) (environment : String → Option String)
    (path : Option String) (state : σ) :
    (load files environment path).run.run state =
      let told := (told files path).run.run state
      (told.1.map (withSecrets environment), told.2) := by
  rw [load_eq, ExceptT.run_map]
  rfl

/-- A configuration without what the environment can tell. -/
def withoutSecrets (configuration : Configuration) : Configuration :=
  { configuration with
    summaries := { configuration.summaries with isEnabled := false, secret := none }
    host := { configuration.host with secret := none } }

/-- What a configuration has from the variables of a process and from what a file told. -/
structure Joins (raw : RawVariables) (told configuration : Configuration) : Prop where
  summarySecret : ∀ value,
    configuration.summaries.secret = some value ↔ raw.Tells "OPENAI_API_KEY" value
  hostSecret : ∀ value, configuration.host.secret = some value ↔ raw.Tells "GITHUB_TOKEN" value
  isEnabled : configuration.summaries.isEnabled = true ↔
    told.summaries.isEnabled = true ∧ ∃ value, raw.Tells "OPENAI_API_KEY" value
  others : configuration.withoutSecrets = told.withoutSecrets

theorem joins_withSecrets (raw : RawVariables) (told : Configuration) :
    Joins raw told (withSecrets raw.texts told) where
  summarySecret _ := RawVariables.secret?_eq_some_iff
  hostSecret _ := RawVariables.secret?_eq_some_iff
  isEnabled := by
    have isThere : (secret? raw.texts "OPENAI_API_KEY").isSome = true ↔
        ∃ value, raw.Tells "OPENAI_API_KEY" value := by
      rw [Option.isSome_iff_exists]
      exact exists_congr fun _ => RawVariables.secret?_eq_some_iff
    rw [← isThere, ← Bool.and_eq_true]
    rfl
  others := rfl

/-- Where summaries are wanted after loading, their secret is there. -/
theorem summarizer_withSecrets {m : Type → Type} [Monad m] (world : World m)
    (environment : String → Option String) (told : Configuration) :
    ∃ summarizer, world.summarizer (withSecrets environment told).summaries = .ok summarizer ∧
      summarizer.isSome = (withSecrets environment told).summaries.isEnabled := by
  rw [World.summarizer]
  by_cases isEnabled : (withSecrets environment told).summaries.isEnabled
  · rw [if_pos isEnabled, SummarySettings.summarizer, isEnabled]
    have hasSecret : (withSecrets environment told).summaries.secret.isSome = true :=
      (Bool.and_eq_true_iff.mp isEnabled).2
    obtain ⟨secret, secret_eq⟩ := Option.isSome_iff_exists.mp hasSecret
    rw [secret_eq]
    exact ⟨_, rfl, rfl⟩
  · rw [if_neg isEnabled]
    exact ⟨none, rfl, ((Bool.not_eq_true _).mp isEnabled).symm⟩

/-- Secrets come from the environment alone and word for word, whatever a file says; all else comes from
the file alone, whatever the environment says, except that summaries are only wanted when their secret is
there.  So a summarizer can be made from whatever was loaded. -/
theorem secrets_come_from_environment :
    (∀ (files : FileOperations (StateM σ)) (path : Option String) (state : σ) (raw : RawVariables),
      let fromFile := (told files path).run.run state
      let loaded := (load files raw.texts path).run.run state
      loaded.2 = fromFile.2 ∧
        match fromFile.1 with
        | .error error => loaded.1 = .error error
        | .ok told => told.IsOpen ∧ ∃ configuration, loaded.1 = .ok configuration ∧
            Joins raw told configuration ∧ 1 ≤ configuration.survey.concurrency ∧
              ∀ world : World (StateM σ), ∃ summarizer,
                world.summarizer configuration.summaries = .ok summarizer ∧
                  summarizer.isSome = configuration.summaries.isEnabled) ∧
      (∀ (files : FileOperations (StateM σ)) (path : Option String) (state : σ)
        (raw other : RawVariables),
        let first := (load files raw.texts path).run.run state
        let second := (load files other.texts path).run.run state
        first.2 = second.2 ∧ first.1.map withoutSecrets = second.1.map withoutSecrets) ∧
      ∀ (files others : FileOperations (StateM σ)) (path otherPath : Option String)
        (state otherState : σ) (raw : RawVariables),
        match ((load files raw.texts path).run.run state).1,
          ((load others raw.texts otherPath).run.run otherState).1 with
        | .ok first, .ok second => first.summaries.secret = second.summaries.secret ∧
            first.host.secret = second.host.secret
        | _, _ => True := by
  refine ⟨?_, ?_, ?_⟩
  · intro files path state raw
    dsimp only
    rw [load_run]
    refine ⟨rfl, ?_⟩
    dsimp only
    cases isTold : ((told files path).run.run state).1 with
    | error error => rfl
    | ok told =>
        obtain ⟨isOpen, hasRoom⟩ := told_eq_ok isTold
        exact ⟨isOpen, _, rfl, joins_withSecrets raw told, hasRoom,
          fun world => summarizer_withSecrets world raw.texts told⟩
  · intro files path state raw other
    dsimp only
    rw [load_run, load_run]
    refine ⟨rfl, ?_⟩
    dsimp only
    cases ((told files path).run.run state).1 <;> rfl
  · intro files others path otherPath state otherState raw
    rw [load_run, load_run]
    dsimp only
    cases ((told files path).run.run state).1 with
    | error error => trivial
    | ok first =>
        cases ((told others otherPath).run.run otherState).1 with
        | error error => trivial
        | ok second => exact ⟨rfl, rfl⟩

/-- A blank secret is none, and without a secret there are no summaries. -/
example : (withSecrets (fun _ => some " \t") {}).summaries = { isEnabled := false } := by
  decide +kernel

end Configuration

end RepoSurvey
