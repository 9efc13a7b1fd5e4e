/-!
# The command line

What a command line may say: one of a few commands, with its operand and its options.
-/

namespace RepoSurvey.Command

/-- An option with a value. -/
structure OptionRule where
  name : String
  /-- What the value is for. -/
  help : String := ""
  isRequired : Bool := false
  /-- Whether the value is a path, which is not empty. -/
  isPath : Bool := false
  /-- The value that stands in for one that is left out. -/
  fallback : Option String := none
  deriving DecidableEq, Repr

namespace OptionRule

/-- The option and its value as they are told. -/
def shown (rule : OptionRule) : String :=
  "--" ++ rule.name ++ " <" ++ rule.name.map Char.toUpper ++ ">"

def helpText (rule : OptionRule) : String :=
  rule.help ++ rule.fallback.elim "" fun fallback => " [default: " ++ fallback ++ "]"

end OptionRule

/-- A path that a command works on. -/
structure OperandRule where
  name : String
  help : String
  deriving DecidableEq, Repr

def OperandRule.shown (rule : OperandRule) : String := "<" ++ rule.name.map Char.toUpper ++ ">"

structure CommandRule where
  name : String
  about : String
  operand : Option OperandRule := none
  options : List OptionRule := []
  deriving DecidableEq, Repr

namespace CommandRule

def programName : String := "source-atlas"

def version : String := programName ++ " 0.1.0"

def programAbout : String :=
  "Parse every file of a source tree or GitHub repository into a structural JSON map"

def config : OptionRule :=
  { name := "config", help := "Path to the YAML config file", isPath := true }

def surveyDirectory : CommandRule :=
  { name := "analyze", about := "Analyze a local directory"
    operand := some { name := "root", help := "Root directory to walk" }
    options := [config,
      { name := "output", help := "Artifact file name, written inside the configured output_dir"
        fallback := some "asts.json" }] }

def surveyRepository : CommandRule :=
  { name := "analyze-repo", about := "Analyze a GitHub repository"
    options := [{ name := "owner", isRequired := true }, { name := "repo", isRequired := true }, config] }

def publish : CommandRule :=
  { name := "publish", about := "Publish a generated React component as a CodeSandbox preview"
    options :=
      [{ name := "file", help := "File holding the component's source (becomes src/App.js)"
         isRequired := true, isPath := true }, config] }

def all : List CommandRule := [surveyDirectory, surveyRepository, publish]

/-- The command that explains the others. -/
def helpName : String := "help"

def helpAbout : String := "Print this message or the help of the given subcommand(s)"

def find? (name : String) : Option CommandRule := all.find? (·.name == name)

def option? (rule : CommandRule) (name : String) : Option OptionRule :=
  rule.options.find? (·.name == name)

/-- How the command is called. -/
def usage (rule : CommandRule) : String :=
  let required := rule.options.filter (·.isRequired) |>.map (·.shown)
  let operand := rule.operand.map (·.shown) |>.toList
  " ".intercalate ([programName, rule.name, "[OPTIONS]"] ++ required ++ operand)

end CommandRule

/-! ## Explanations -/

/-- Lines with two columns, the second of which is aligned. -/
def columns (rows : List (String × String)) : String :=
  let width := rows.foldl (fun width row => max width row.1.length) 0
  String.join (rows.map fun (left, right) =>
    "  " ++ left ++ "".pushn ' ' (width - left.length) ++ "  " ++ right ++ "\n")

def helpRow : String × String := ("-h, --help", "Print help")

def explain (about usage : String) (sections : List (String × List (String × String))) : String :=
  let written := sections.map fun (title, rows) => "\n" ++ title ++ ":\n" ++ columns rows
  about ++ "\n\nUsage: " ++ usage ++ "\n" ++ String.join written

def explainProgram : String :=
  let commands := CommandRule.all.map fun rule => (rule.name, rule.about)
  explain CommandRule.programAbout (CommandRule.programName ++ " <COMMAND>")
    [("Commands", commands ++ [(CommandRule.helpName, CommandRule.helpAbout)]),
      ("Options", [helpRow, ("-V, --version", "Print version")])]

def explainHelp : String :=
  explain CommandRule.helpAbout (CommandRule.programName ++ " help [COMMAND]...")
    [("Arguments", [("[COMMAND]...", "Print help for the subcommand(s)")])]

def CommandRule.explain (rule : CommandRule) : String :=
  let operand := rule.operand.map fun operand => ("Arguments", [(operand.shown, operand.help)])
  let options := rule.options.map fun option => ("    " ++ option.shown, option.helpText)
  Command.explain rule.about rule.usage (operand.toList ++ [("Options", options ++ [helpRow])])

/-! ## Refusals -/

/-- Why a command line is not followed. -/
inductive UsageError
  | unknownCommand (name : String)
  | unexpectedArgument (argument : String)
  | unexpectedValue (value option : String)
  | missingValue (shown : String)
  | repeatedOption (shown : String)
  | missingArguments (shown : List String)
  /-- No command is given. -/
  | noCommand
  /-- An explanation is asked for and given. -/
  | explained (text : String)
  | version
  deriving DecidableEq, Repr

namespace UsageError

/-- Whether the command line only asks for a text. -/
def isAnswer : UsageError → Bool
  | explained _ => true
  | version => true
  | _ => false

/-- What is told in the first place. -/
def summary : UsageError → String
  | unknownCommand name => "error: unrecognized subcommand '" ++ name ++ "'"
  | unexpectedArgument argument => "error: unexpected argument '" ++ argument ++ "' found"
  | unexpectedValue value option =>
      "error: unexpected value '" ++ value ++ "' for '" ++ option ++
        "' found; no more were expected"
  | missingValue shown =>
      "error: a value is required for '" ++ shown ++ "' but none was supplied"
  | repeatedOption shown =>
      "error: the argument '" ++ shown ++ "' cannot be used multiple times"
  | missingArguments _ => "error: the following required arguments were not provided:"
  | noCommand => explainProgram
  | explained text => text
  | version => CommandRule.version ++ "\n"

/-- All that is told. -/
def message (error : UsageError) : String :=
  let advice := "\n\nFor more information, try '--help'.\n"
  match error with
  | missingArguments shown =>
      error.summary ++ String.join (shown.map ("\n  " ++ ·)) ++ advice
  | noCommand => error.summary
  | explained _ => error.summary
  | version => error.summary
  | _ => error.summary ++ advice

end UsageError

end RepoSurvey.Command
