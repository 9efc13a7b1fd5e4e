import RepoSurvey.Files.Operations
import RepoSurvey.Text.Trim

/-!
# Variables of the environment

A file can hold further variables, one on a line.  Variables that are there already keep their values.
Values may be quoted and may name other variables.  A line that cannot be read ends the reading; what was
read before it counts.
-/

namespace RepoSurvey

abbrev Environment := List (String × String)

namespace Environment

def get? (environment : Environment) (name : String) : Option String := environment.lookup name

/-! ## Lines -/

/-- Where a line stands that may go on behind its end. -/
inductive LineState
  | plain
  /-- Behind white space, where a comment may start. -/
  | blank
  | escape
  | doubleQuoted
  | doubleQuotedEscape
  | singleQuoted
  | singleQuotedEscape
  deriving BEq, DecidableEq, Repr

namespace LineState

/-- The state behind the start of a word. -/
def ofStart : Char → LineState
  | '\\' => escape
  | '"' => doubleQuoted
  | '\'' => singleQuoted
  | _ => plain

def step (state : LineState) (character : Char) : LineState :=
  match state with
  | blank => ofStart character
  | plain =>
      if isWhiteSpace character && character != '\n' && character != '\r' then blank
      else ofStart character
  | escape => plain
  | doubleQuoted =>
      if character == '\\' then doubleQuotedEscape
      else if character == '"' then plain
      else doubleQuoted
  | doubleQuotedEscape => doubleQuoted
  | singleQuoted =>
      if character == '\\' then singleQuotedEscape
      else if character == '\'' then plain
      else singleQuoted
  | singleQuotedEscape => singleQuoted

/-- Whether a line may end in this state. -/
def canEnd : LineState → Bool
  | plain => true
  | _ => false

end LineState

/-- A line of a file: what was read of it, in reverse order. -/
structure Line where
  state : LineState := .plain
  /-- Whether the line has turned into a comment. -/
  isComment : Bool := false
  read : List Char := []

/-- Takes a line break off the end of a line. The line is in reverse order. -/
def withoutBreak : List Char → List Char
  | '\n' :: '\r' :: rest => rest
  | '\n' :: rest => rest
  | line => line

/-- Splits a file into its lines. A line break in quotes ends no line. The end of the file must not come
in quotes; `none` stands for a line that it ends in the middle of. -/
def lines (line : Line) : List Char → List (Option (List Char))
  | [] =>
      if line.isComment then [some line.read.reverse]
      else if line.state.canEnd then
        if line.read.isEmpty then [] else [some line.read.reverse]
      else [none]
  | character :: rest =>
      if line.isComment then
        if character == '\n' then some line.read.reverse :: lines {} rest else lines line rest
      else if character == '#' && (line.state == .blank || line.read.all isWhiteSpace) then
        lines { line with isComment := true } rest
      else
        let state := line.state.step character
        let read := character :: line.read
        if character == '\n' && state.canEnd then
          some (withoutBreak read).reverse :: lines {} rest
        else lines { state, read } rest

/-! ## Values -/

/-- How the name of another variable is written in a value. -/
inductive NameForm
  | bare
  | braced
  deriving BEq, DecidableEq, Repr

/-- A value that is being read. All is in reverse order. -/
structure ValueProgress where
  written : List Char := []
  isSingleQuoted : Bool := false
  isDoubleQuoted : Bool := false
  isEscaped : Bool := false
  /-- Nothing but a comment may follow. -/
  isOver : Bool := false
  isComment : Bool := false
  /-- The name of another variable that is being read. -/
  name : Option (NameForm × List Char) := none

namespace ValueProgress

def push (progress : ValueProgress) (character : Char) : ValueProgress :=
  { progress with written := character :: progress.written }

/-- Puts the value of the variable in place whose name has been read. -/
def substitute (values : String → String) (progress : ValueProgress) : ValueProgress :=
  match progress.name with
  | none => progress
  | some (_, name) =>
      let value := values (String.ofList name.reverse)
      { progress with written := value.toList.reverse ++ progress.written, name := none }

def stepEscaped (progress : ValueProgress) (character : Char) : Option ValueProgress :=
  let progress := { progress with isEscaped := false }
  if ['\\', '\'', '"', '$', ' '].contains character then some (progress.push character)
  else if character == 'n' then some (progress.push '\n')
  else none

/-- Goes on with the name of another variable. A bare name consists of ASCII letters and digits. -/
def stepName (values : String → String) (progress : ValueProgress) (form : NameForm)
    (name : List Char) (character : Char) : ValueProgress :=
  let longer := { progress with name := some (form, character :: name) }
  match form with
  | .bare =>
      if character.isAlphanum then longer
      else if character == '\x7b' && name.isEmpty then { progress with name := some (.braced, []) }
      else if character == '$' then
        { progress.substitute values with name := some (.bare, []) }
      else (progress.substitute values).push character
  | .braced => if character == '\x7d' then progress.substitute values else longer

/-- Reads a character; `none` if it cannot stand there. -/
def step (values : String → String) (progress : ValueProgress) (character : Char) :
    Option ValueProgress :=
  let isBlank := character == ' ' || character == '\t'
  if progress.isComment then some progress
  else if progress.isOver then
    if isBlank then some progress
    else if character == '#' then some { progress with isComment := true }
    else none
  else if progress.isEscaped then progress.stepEscaped character
  else if progress.isSingleQuoted then
    if character == '\'' then some { progress with isSingleQuoted := false }
    else some (progress.push character)
  else match progress.name with
    | some (form, name) => some (progress.stepName values form name character)
    | none =>
        if character == '$' then some { progress with name := some (.bare, []) }
        else if character == '\\' then some { progress with isEscaped := true }
        else if progress.isDoubleQuoted then
          if character == '"' then some { progress with isDoubleQuoted := false }
          else some (progress.push character)
        else if character == '\'' then some { progress with isSingleQuoted := true }
        else if character == '"' then some { progress with isDoubleQuoted := true }
        else if isBlank then some { progress with isOver := true }
        else some (progress.push character)

/-- The value, if it may end here. -/
def finish (values : String → String) (progress : ValueProgress) : Option String :=
  let isOpen := progress.isSingleQuoted || progress.isDoubleQuoted ||
    (progress.name.map (·.1) == some .braced)
  if isOpen then none else some (String.ofList (progress.substitute values).written.reverse)

end ValueProgress

/-- Reads the value of a variable. -/
def readValue (values : String → String) (characters : List Char) : Option String := do
  let progress ← characters.foldlM (ValueProgress.step values) {}
  progress.finish values

/-! ## Variables -/

/-- Reads a name; `none` if no name stands here. -/
def readName (characters : List Char) : Option (String × List Char) :=
  let isPart (character : Char) : Bool :=
    character.isAlphanum || character == '_' || character == '.'
  match characters with
  | first :: _ =>
      if first.isAlpha || first == '_' then
        some (String.ofList (characters.takeWhile isPart), characters.dropWhile isPart)
      else none
  | [] => none

def skipBlank (characters : List Char) : List Char := characters.dropWhile isWhiteSpace

/-- What a line says: nothing, or the value of a variable as it is written. -/
inductive Statement
  | nothing
  | variable (name : String) (value : List Char)

/-- Reads a line; `none` if it cannot be read. -/
def readLine (line : List Char) : Option Statement :=
  let isEmpty (characters : List Char) : Bool :=
    characters.isEmpty || characters.head? == some '#'
  let line := skipBlank (dropEndWhile isWhiteSpace line)
  if isEmpty line then some .nothing
  else do
    let (name, rest) ← readName line
    let rest := skipBlank rest
    let (name, rest) ←
      if name == "export" && rest.head? != some '=' then do
        let (name, rest) ← readName rest
        pure (name, skipBlank rest)
      else pure (name, rest)
    match rest with
    | '=' :: value =>
        let value := skipBlank value
        return .variable name (if isEmpty value then [] else value)
    | _ => none

/-- Takes up the variables of a file. `read` are the variables that were read before. -/
def takeUp (environment : Environment) (read : List (String × String)) :
    List (Option (List Char)) → Environment
  | [] => environment
  | none :: _ => environment
  | some line :: rest =>
      match readLine line with
      | none => environment
      | some .nothing => takeUp environment read rest
      | some (.variable name value) =>
          let values (name : String) : String :=
            (environment.get? name).getD ((read.lookup name).getD "")
          match readValue values value with
          | none => environment
          | some value =>
              let environment :=
                if (environment.get? name).isSome then environment else environment ++ [(name, value)]
              takeUp environment ((name, value) :: read) rest

/-- Takes up the variables of a file with a text. -/
def takeUpText (environment : Environment) (text : String) : Environment :=
  let characters := text.toList
  let characters := if characters.head? == some '\ufeff' then characters.drop 1 else characters
  takeUp environment [] (lines {} characters)

/-! ## Files -/

/-- The lines in some bytes, with their breaks. -/
def splitLines : List UInt8 → List (List UInt8)
  | [] => []
  | byte :: rest =>
      match splitLines rest with
      | [] => [[byte]]
      | first :: others =>
          if byte == 10 then [byte] :: first :: others else (byte :: first) :: others

/-- The lines before the first one that is no text. -/
def readableText (bytes : ByteArray) : String :=
  let texts := (splitLines bytes.toList).map fun line => String.fromUTF8? ⟨line.toArray⟩
  String.join ((texts.takeWhile Option.isSome).filterMap id)

/-- Takes up the variables of a file. The file is looked for in some directories, and the first that is
there counts. -/
def load {m : Type → Type} [Monad m] (files : FileOperations m) (environment : Environment) :
    List String → m Environment
  | [] => return environment
  | directory :: others => do
      match ← (files.read (Path.join directory ".env")).run with
      | .ok bytes => return environment.takeUpText (readableText bytes)
      | .error error =>
          if error == .notFound || error == .isDirectory then load files environment others
          else return environment

end Environment

end RepoSurvey
