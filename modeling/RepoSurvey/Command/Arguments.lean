import RepoSurvey.Command.Usage
import RepoSurvey.Text.Trim

/-!
# Reading a command line

The first argument names a command, the others belong to it.  An option takes its value from the same
argument behind an equals sign, or else from the next argument.  Behind two dashes there are no options.
-/

namespace RepoSurvey

/-- What the program is told to do. -/
inductive Command
  | surveyDirectory (root : String) (config : Option String) (output : String)
  | surveyRepository (owner name : String) (config : Option String)
  | publish (file : String) (config : Option String)
  deriving DecidableEq, Repr

namespace Command

/-- What has been read of a command's arguments. -/
structure Given where
  operand : Option String := none
  options : List (String × String) := []
  /-- An option whose value must follow. -/
  waiting : Option OptionRule := none
  /-- Whether no more options can follow. -/
  isTrailing : Bool := false
  deriving Repr

namespace Given

/-- Takes the value of an option. -/
def take (given : Given) (rule : OptionRule) (value : String) : Except UsageError Given :=
  if (given.options.lookup rule.name).isSome then .error (.repeatedOption rule.shown)
  else if rule.isPath && value.isEmpty then .error (.missingValue rule.shown)
  else .ok { given with options := (rule.name, value) :: given.options }

/-- What becomes of an option whose value was taken from the argument before this one. The value only
counts when the next argument has been understood, so `pending` is kept until then. -/
structure Reading where
  given : Given := {}
  pending : Option (OptionRule × String) := none

namespace Reading

/-- Lets the value count that was taken last. -/
def settle (reading : Reading) : Except UsageError Given :=
  match reading.pending, reading.given.waiting with
  | some (rule, value), _ => reading.given.take rule value
  | none, some rule => .error (.missingValue rule.shown)
  | none, none => .ok reading.given

end Reading

/-- Takes a value that belongs to no option. -/
def takeOperand (command : CommandRule) (reading : Reading) (argument : String) :
    Except UsageError Reading :=
  match command.operand, reading.given.operand with
  | some rule, none => do
      let given ← reading.settle
      if argument.isEmpty then throw (.missingValue rule.shown)
      return { given := { given with operand := some argument } }
  | _, _ => .error (.unexpectedArgument argument)

/-- The name of a long option and the value in the same argument. -/
def splitValue (characters : List Char) : String × Option String :=
  let name := String.ofList (characters.takeWhile (· != '='))
  match characters.dropWhile (· != '=') with
  | _ :: value => (name, some (String.ofList value))
  | [] => (name, none)

/-- Takes an option that starts with two dashes. -/
def takeLong (command : CommandRule) (reading : Reading) (characters : List Char) :
    Except UsageError Reading :=
  let (name, value) := splitValue characters
  match command.option? name, value with
  | some rule, some value => do return { given := ← (← reading.settle).take rule value }
  | some rule, none => do
      return { given := { (← reading.settle) with waiting := some rule } }
  | none, some value =>
      if name == "help" then .error (.unexpectedValue value "--help")
      else .error (.unexpectedArgument ("--" ++ name))
  | none, none =>
      if name == "help" then do
        let _ ← reading.settle
        throw (.explained command.explain)
      else .error (.unexpectedArgument ("--" ++ name))

/-- Takes the next argument. -/
def step (command : CommandRule) (reading : Reading) (argument : String) :
    Except UsageError Reading :=
  let given := reading.given
  if given.isTrailing then takeOperand command reading argument
  else match argument.toList with
    | ['-', '-'] => .ok { reading with given := { given with isTrailing := true } }
    | '-' :: '-' :: long => takeLong command reading long
    | '-' :: letter :: _ =>
        if letter == 'h' then do
          let _ ← reading.settle
          throw (.explained command.explain)
        else .error (.unexpectedArgument ("-" ++ letter.toString))
    | _ =>
        match reading.pending, given.waiting with
        | none, some rule =>
            .ok { given := { given with waiting := none }, pending := some (rule, argument) }
        | _, _ => takeOperand command reading argument

/-- The value of an option. -/
def value? (given : Given) (rule : OptionRule) : Option String :=
  (given.options.lookup rule.name).or rule.fallback

/-- What a command lacks. -/
def missing (command : CommandRule) (given : Given) : List String :=
  let options := (command.options.filter fun rule =>
    rule.isRequired && (given.value? rule).isNone).map (·.shown)
  let operand := match command.operand, given.operand with
    | some rule, none => [rule.shown]
    | _, _ => []
  options ++ operand

/-- Reads the arguments of a command. -/
def read (command : CommandRule) (arguments : List String) : Except UsageError Given := do
  let reading ← arguments.foldlM (step command) {}
  let given ← reading.settle
  let missing := given.missing command
  if missing.isEmpty then return given else throw (.missingArguments missing)

def option? (given : Given) (command : CommandRule) (name : String) : Option String :=
  (command.option? name).bind given.value?

def option (given : Given) (command : CommandRule) (name : String) : String :=
  (given.option? command name).getD ""

end Given

/-- What the program is told to do by a command and its arguments. -/
def ofRule (rule : CommandRule) (arguments : List String) : Except UsageError Command := do
  let given ← Given.read rule arguments
  let config := given.option? rule "config"
  if rule == .surveyDirectory then
    return surveyDirectory (given.operand.getD "") config (given.option rule "output")
  else if rule == .surveyRepository then
    return surveyRepository (given.option rule "owner") (given.option rule "repo") config
  else return publish (given.option rule "file") config

/-- Explains a command, or the program if none is named. -/
def readHelp : List String → UsageError
  | [] => .explained explainProgram
  | [name] =>
      if name == CommandRule.helpName then .explained explainHelp
      else match CommandRule.find? name with
        | some rule => .explained rule.explain
        | none => .unknownCommand name
  | name :: next :: _ =>
      if name == CommandRule.helpName || (CommandRule.find? name).isSome then .unknownCommand next
      else .unknownCommand name

/-- Reads what stands in the place of the command. -/
def readWithoutCommand (argument : String) : UsageError :=
  match argument.toList with
  | '-' :: '-' :: long =>
      match Given.splitValue long with
      | ("help", none) => .explained explainProgram
      | ("version", none) => .version
      | ("help", some value) => .unexpectedValue value "--help"
      | ("version", some value) => .unexpectedValue value "--version"
      | (name, _) => .unexpectedArgument ("--" ++ name)
  | '-' :: letter :: _ =>
      if letter == 'h' then .explained explainProgram
      else if letter == 'V' then .version
      else .unexpectedArgument ("-" ++ letter.toString)
  | _ => .unknownCommand argument

/-- Reads a command line. -/
def read : List String → Except UsageError Command
  | [] => .error .noCommand
  | "--" :: [] => .error .noCommand
  | "--" :: name :: _ =>
      if name == CommandRule.helpName || (CommandRule.find? name).isSome then
        .error (.unexpectedArgument name)
      else .error (.unknownCommand name)
  | name :: arguments =>
      if name == CommandRule.helpName then .error (readHelp arguments)
      else match CommandRule.find? name with
        | some rule => ofRule rule arguments
        | none => .error (readWithoutCommand name)

end Command

end RepoSurvey
