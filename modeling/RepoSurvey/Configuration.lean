import RepoSurvey.Survey.Run
import RepoSurvey.Yaml.Decoding

/-!
# Configuration

What a run is told by a file and by the environment.  Everything has a value of its own for the case that
nothing is told.  Secrets come from the environment only; a file is never asked for them.
-/

namespace RepoSurvey

/-- How summaries are asked for. -/
structure SummarySettings where
  isEnabled : Bool := true
  model : String := "gpt-4o-mini"
  address : String := "https://api.openai.com/v1"
  /-- How many milliseconds two requests are apart. -/
  interval : Nat := 1000
  promptLimit : Nat := 12000
  /-- How many seconds a request may take. -/
  timeout : Nat := 60
  secret : Option String := none
  deriving BEq, DecidableEq, Repr

/-- How the host of repositories is reached. -/
structure HostSettings where
  address : String := "https://api.github.com"
  timeout : Nat := 30
  secret : Option String := none
  deriving BEq, DecidableEq, Repr

/-- How the service that shows applications is reached. -/
structure SandboxSettings where
  address : String := "https://codesandbox.io"
  timeout : Nat := 60
  deriving BEq, DecidableEq, Repr

structure Configuration where
  outputDirectory : String := "."
  survey : SurveySettings := {}
  summaries : SummarySettings := {}
  host : HostSettings := {}
  sandbox : SandboxSettings := {}
  deriving Repr

inductive ConfigurationError
  | unreadable (path : String) (error : SystemError)
  | malformed (error : Yaml.ReadError)
  | noConcurrency
  deriving DecidableEq, Repr

/-- The texts of an error and of what lies behind it, the outermost first. -/
def ConfigurationError.causes : ConfigurationError → List String
  | unreadable path error => ["Failed to read config file " ++ path, error.display]
  | malformed error => ["Failed to parse config YAML: " ++ error.message]
  | noConcurrency => ["pipeline.concurrency must be at least 1"]

namespace Configuration

open Yaml (Decoder)

/-! ## Sections of a file -/

def walkFields : List (String × Decoder (SurveySettings → SurveySettings)) :=
  [("ignore_dirs", (Decoder.list (.text "a string")).map fun ignored settings =>
    { settings with ignored })]

def pipelineFields : List (String × Decoder (SurveySettings → SurveySettings)) :=
  [("concurrency", (Decoder.natural "usize").map fun concurrency settings =>
      { settings with concurrency }),
    ("include_source", Decoder.bool.map fun includesSource settings =>
      { settings with includesSource })]

def schemaFields : List (String × Decoder (SurveySettings → SurveySettings)) :=
  [("describe_array_items", Decoder.bool.map fun describesItems settings =>
    { settings with describesItems })]

def summaryFields : List (String × Decoder (SummarySettings → SummarySettings)) :=
  [("enabled", Decoder.bool.map fun isEnabled settings => { settings with isEnabled }),
    ("model", (Decoder.text "a string").map fun model settings => { settings with model }),
    ("base_url", (Decoder.text "a string").map fun address settings => { settings with address }),
    ("min_interval_ms", (Decoder.natural "u64").map fun interval settings =>
      { settings with interval }),
    ("max_prompt_chars", (Decoder.natural "usize").map fun promptLimit settings =>
      { settings with promptLimit }),
    ("timeout_secs", (Decoder.natural "u64").map fun timeout settings =>
      { settings with timeout })]

def hostFields : List (String × Decoder (HostSettings → HostSettings)) :=
  [("api_base", (Decoder.text "a string").map fun address settings => { settings with address }),
    ("timeout_secs", (Decoder.natural "u64").map fun timeout settings =>
      { settings with timeout })]

def sandboxFields : List (String × Decoder (SandboxSettings → SandboxSettings)) :=
  [("api_base", (Decoder.text "a string").map fun address settings => { settings with address }),
    ("timeout_secs", (Decoder.natural "u64").map fun timeout settings =>
      { settings with timeout })]

/-- A section of the survey's settings. The sections have no fields in common, so each of them is read
as a change. -/
def surveySection (name : String)
    (fields : List (String × Decoder (SurveySettings → SurveySettings))) :
    Decoder (Configuration → Configuration) :=
  (Decoder.fields name (fields.map fun (field, decoder) =>
      (field, decoder.map fun change (all : SurveySettings → SurveySettings) => change ∘ all)) id).map
    fun change configuration => { configuration with survey := change configuration.survey }

def decoder : Decoder Configuration :=
  Decoder.fields "Config"
    [("output_dir", (Decoder.text "path string").map fun outputDirectory configuration =>
        { configuration with outputDirectory }),
      ("walk", surveySection "WalkConfig" walkFields),
      ("pipeline", surveySection "PipelineConfig" pipelineFields),
      ("summarize", (Decoder.fields "SummarizeConfig" summaryFields {}).map
        fun summaries configuration => { configuration with summaries }),
      ("schema", surveySection "SchemaOptions" schemaFields),
      ("remote", (Decoder.fields "RemoteConfig" hostFields {}).map
        fun host configuration => { configuration with host }),
      ("publish", (Decoder.fields "PublishConfig" sandboxFields {}).map
        fun sandbox configuration => { configuration with sandbox })]
    {}

/-! ## Loading -/

/-- What a text tells. A blank text tells nothing. -/
def ofText (text : String) : Except ConfigurationError Configuration :=
  if (trim text).isEmpty then .ok {}
  else
    match (Yaml.read text).decode decoder {} with
    | .error error => .error (.malformed error)
    | .ok configuration =>
        if configuration.survey.concurrency == 0 then .error .noConcurrency else .ok configuration

/-- A variable of the environment, unless it is blank. -/
def secret? (environment : String → Option String) (name : String) : Option String :=
  (environment name).filter fun value => !(trim value).isEmpty

/-- Takes the secrets from the environment. Without the secret of the completion service there are no
summaries. -/
def withSecrets (environment : String → Option String) (configuration : Configuration) :
    Configuration :=
  let secret := secret? environment "OPENAI_API_KEY"
  let isEnabled := configuration.summaries.isEnabled && secret.isSome
  { configuration with
    summaries := { configuration.summaries with secret, isEnabled }
    host := { configuration.host with secret := secret? environment "GITHUB_TOKEN" } }

/-- Loads the configuration from a file, if there is a path to one, and from the environment. -/
def load {m : Type → Type} [Monad m] (files : FileOperations m)
    (environment : String → Option String) (path : Option String) :
    ExceptT ConfigurationError m Configuration := do
  match path with
  | none => return withSecrets environment {}
  | some path =>
      let text ← ExceptT.adapt (ConfigurationError.unreadable path) (files.readText path)
      return withSecrets environment (← ExceptT.mk (pure (ofText text)))

end Configuration

end RepoSurvey
