/-!
# Paths

Paths are texts; slashes separate the components.  Empty components and single dots inside a path
mean nothing.
-/

namespace RepoSurvey

/-- The parts of a text between the occurrences of a character. -/
def splitAt (separator : Char) : List Char → List (List Char)
  | [] => [[]]
  | character :: rest =>
      match splitAt separator rest with
      | [] => [[character]]
      | first :: others =>
          if character == separator then [] :: first :: others
          else (character :: first) :: others

namespace Path

/-- The components of a path: names and double dots. -/
def components (path : String) : List String :=
  ((splitAt '/' path.toList).map String.ofList).filter fun part => part != "" && part != "."

/-- The parts of a path between slashes, dots included. -/
def plainNames (path : String) : List String :=
  ((splitAt '/' path.toList).map String.ofList).filter (· != "")

def endsInSlash (path : String) : Bool := path.toList.getLast? == some '/'

/-- The names to follow along a path. A slash at the end asks for a directory. -/
def names (path : String) : List String :=
  if endsInSlash path then plainNames path ++ ["."] else plainNames path

def isAbsolute (path : String) : Bool := path.toList.head? == some '/'

/-- The last component, unless the path ends by going up. -/
def fileName? (path : String) : Option String :=
  match (components path).getLast? with
  | some ".." => none
  | last => last

/-- What comes after the last dot of a name, if something comes before that dot. -/
def extensionOfName? (name : String) : Option String :=
  match name.toList.reverse.span (· != '.') with
  | (_, []) => none
  | (_, [_]) => none
  | (reversed, _) => some (String.ofList reversed.reverse)

def extension? (path : String) : Option String := (fileName? path).bind extensionOfName?

/-- A path below another one. An absolute path replaces the one it is put below. -/
def join (base path : String) : String :=
  if isAbsolute path then path
  else if base == "" || endsInSlash base then base ++ path
  else base ++ "/" ++ path

/-- The components that remain when a single dot is kept at the start of a relative path. -/
def properNames (path : String) : List String :=
  match plainNames path with
  | "." :: rest => if isAbsolute path then rest.filter (· != ".") else "." :: rest.filter (· != ".")
  | all => all.filter (· != ".")

/-- The path with these components. -/
def ofNames (absolute : Bool) (names : List String) : String :=
  (if absolute then "/" else "") ++ "/".intercalate names

/-- The directories above a path, the nearest first. The last one of a relative path is empty. -/
def parents (path : String) : List String :=
  let names := properNames path
  (List.range names.length).reverse.map fun count => ofNames (isAbsolute path) (names.take count)

end Path

end RepoSurvey
