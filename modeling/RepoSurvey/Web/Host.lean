import RepoSurvey.Configuration
import RepoSurvey.Web.Exchange
import RepoSurvey.Web.Shape

/-!
# The host of repositories

What the host is asked about a repository, and what its answers mean.
-/

namespace RepoSurvey

open Web (WebError Shape)

inductive HostError
  | web (error : WebError)
  /-- The host refused what was asked for. -/
  | refused (address : String) (status : Nat)
  deriving DecidableEq, Repr

def HostError.message : HostError → String
  | web error => error.message
  | refused address status => "GET " ++ address ++ " returned " ++ Web.statusText status

namespace HostSettings

/-- The address of something about a repository. -/
def repositoryAddress (settings : HostSettings) (owner name : String) : String :=
  trimEnd (· == '/') settings.address ++ "/repos/" ++ owner ++ "/" ++ name

/-- The address of the listing of all files. -/
def listingAddress (settings : HostSettings) (owner name : String) : String :=
  settings.repositoryAddress owner name ++ "/git/trees/HEAD?recursive=1"

def contentAddress (settings : HostSettings) (owner name hash : String) : String :=
  settings.repositoryAddress owner name ++ "/git/blobs/" ++ hash

/-- The headers of a request for something in a form. -/
def headers (settings : HostSettings) (form : String) : List (String × String) :=
  [("x-github-api-version", "2022-11-28"), ("user-agent", "source-atlas/0.1.0"),
    ("accept", form)] ++
    (settings.secret.map fun secret => ("authorization", Web.bearer secret)).toList

/-- Asks for something and takes its content. -/
def ask {m : Type → Type} [Monad m] (settings : HostSettings) (web : Web m)
    (address form : String) : ExceptT HostError m ByteArray := do
  let reply ← ExceptT.adapt HostError.web (web.ask .get address (settings.headers form))
  if reply.isSuccess then return reply.content else throw (.refused address reply.status)

/-- Asks for a document and takes what is wanted of it. -/
def askDocument {m : Type → Type} [Monad m] {α : Type} (settings : HostSettings) (web : Web m)
    (address : String) (shape : Shape α) : ExceptT HostError m α := do
  let content ← settings.ask web address "application/vnd.github+json"
  match shape.readBytes content with
  | some value => return value
  | none => throw (.web .undecodable)

end HostSettings

/-- What the host tells about a repository. -/
structure RepositoryAnswer where
  name : String := ""
  description : Option String := none
  homepage : Option String := none
  page : Option String := none

namespace RepositoryAnswer

def fields : List (Shape.Field RepositoryAnswer) :=
  [{ name := "name", read := Shape.text.into fun name answer => { answer with name } },
    { name := "description", isOptional := true
      read := Shape.text.orNull.into fun description answer => { answer with description } },
    { name := "homepage", isOptional := true
      read := Shape.text.orNull.into fun homepage answer => { answer with homepage } },
    { name := "html_url", isOptional := true
      read := Shape.text.orNull.into fun page answer => { answer with page } }]

def shape : Shape RepositoryAnswer := .assembled fields {}

/-- What a survey keeps of the answer. Without a homepage the page at the host stands for the demo. -/
def metadata (answer : RepositoryAnswer) : RepositoryMetadata :=
  let homepage := answer.homepage.filter fun address => !(trim address).isEmpty
  { name := answer.name
    description := answer.description
    demoLink := homepage.orElse fun _ => answer.page }

end RepositoryAnswer

/-- An entry of the listing of a repository. -/
structure ListingEntry where
  file : RemoteFile := { path := "", hash := "" }
  kind : String := ""

namespace ListingEntry

def fields : List (Shape.Field ListingEntry) :=
  [{ name := "path"
     read := Shape.text.into fun path entry => { entry with file := { entry.file with path } } },
    { name := "type", read := Shape.text.into fun kind entry => { entry with kind } },
    { name := "sha"
      read := Shape.text.into fun hash entry => { entry with file := { entry.file with hash } } },
    { name := "size", isOptional := true
      read := Shape.natural.orNull.into fun size entry =>
        { entry with file := { entry.file with size } } }]

def shape : Shape ListingEntry := .assembled fields {}

/-- A listing may also tell whether it is complete. -/
def listFields : List (Shape.Field (List ListingEntry)) :=
  [{ name := "tree", read := (Shape.list shape).into fun entries _ => entries },
    { name := "truncated", isOptional := true, hasDefault := true
      read := Shape.bool.into fun _ entries => entries }]

/-- The entries of a listing. -/
def listShape : Shape (List ListingEntry) := .assembled listFields []

/-- The files among the entries. -/
def files (entries : List ListingEntry) : List RemoteFile :=
  (entries.filter (·.kind == "blob")).map (·.file)

end ListingEntry

namespace HostSettings

variable {m : Type → Type} [Monad m]

def metadata (settings : HostSettings) (web : Web m) (owner name : String) :
    ExceptT HostError m RepositoryMetadata := do
  let answer ← settings.askDocument web (settings.repositoryAddress owner name)
    RepositoryAnswer.shape
  return answer.metadata

def listFiles (settings : HostSettings) (web : Web m) (owner name : String) :
    ExceptT HostError m (List RemoteFile) := do
  let entries ← settings.askDocument web (settings.listingAddress owner name)
    ListingEntry.listShape
  return ListingEntry.files entries

def fetch (settings : HostSettings) (web : Web m) (owner name : String) (file : RemoteFile) :
    ExceptT HostError m ByteArray :=
  settings.ask web (settings.contentAddress owner name file.hash) "application/vnd.github.raw+json"

/-- The host, asked about one repository. -/
def repository (settings : HostSettings) (web : Web m) (owner name : String) : RepositoryHost m :=
  let told {α : Type} (result : ExceptT HostError m α) : m (Except String α) := do
    return (← result.run).mapError HostError.message
  { metadata := told (settings.metadata web owner name)
    listFiles := told (settings.listFiles web owner name)
    fetch := fun file => told (settings.fetch web owner name file) }

end HostSettings

end RepoSurvey
