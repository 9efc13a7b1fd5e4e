import RepoSurvey.Graph.Render
import RepoSurvey.Representation

/-!
# Records

What is recorded about one file: what became of its content, a summary if there is one, and its size.
-/

namespace RepoSurvey

/-- Why a file has no representation. -/
inductive FileError
  | parse (error : ParseError)
  | read (reason : String)
  | fetch (reason : String)
  | worker (reason : String)
  deriving DecidableEq, Repr

def FileError.display : FileError → String
  | parse error => error.display
  | read reason => "failed to read file: " ++ reason
  | fetch reason => "failed to fetch file: " ++ reason
  | worker reason => "processing task failed: " ++ reason

/-- What a file is for, in a few sentences, or why that is not known. -/
inductive Summary
  | generated (text : String)
  | fallback (text : String)
  deriving DecidableEq, Repr

namespace Summary

def text : Summary → String
  | generated text | fallback text => text

def isFallback : Summary → Bool
  | generated _ => false
  | fallback _ => true

/-- The summary from the answer of a completion service. -/
def ofAnswer : Except String String → Summary
  | .ok text => generated (trim text)
  | .error reason => fallback ("Summary unavailable: " ++ reason)

end Summary

inductive FileOutcome
  | parsed (representation : Representation)
  | failed (error : FileError)
  | skipped (reason : String)

structure FileRecord where
  path : String
  category : Category
  outcome : FileOutcome
  summary : Option Summary := none
  sourceSize : Nat
  sourceCode : Option String := none

namespace FileRecord

def isSkipped (record : FileRecord) : Bool :=
  match record.outcome with
  | .skipped _ => true
  | _ => false

def error? (record : FileRecord) : Option FileError :=
  match record.outcome with
  | .failed error => some error
  | _ => none

def representation? (record : FileRecord) : Option Representation :=
  match record.outcome with
  | .parsed representation => some representation
  | _ => none

open RepoSurvey.Graph in
/-- What an outcome adds to the object of a record. -/
def outcomeEntries : FileOutcome → Build (List (String × Value))
  | .parsed representation => return [(representation.key, ← representation.object)]
  | .failed error => return [("error", .string error.display)]
  | .skipped reason => return [("skipped", .bool true), ("reason", .string reason)]

open RepoSurvey.Graph in
/-- The graph of a record. -/
def object (record : FileRecord) : Build Value := do
  let node ← Build.newObject
  let insertAll (entries : List (String × Value)) : Build Unit :=
    entries.forM fun entry => Build.insert node entry.1 entry.2
  insertAll [("file", .string record.path), ("type", .string record.category.name)]
  insertAll (← outcomeEntries record.outcome)
  insertAll (record.summary.toList.map fun summary => ("summary", .string summary.text))
  insertAll [("sourceSize", .natural record.sourceSize)]
  insertAll (record.sourceCode.toList.map fun code => ("sourceCode", .string code))
  return .container node

end FileRecord

/-- What is known of a repository as a whole. -/
structure RepositoryMetadata where
  name : String
  description : Option String := none
  demoLink : Option String := none
  deriving DecidableEq, Repr

open RepoSurvey.Graph in
def RepositoryMetadata.object (metadata : RepositoryMetadata) : Build Value := do
  let text (value : Option String) : Value := .ofOption (value.map .string)
  return .container (← Build.object
    [("name", .string metadata.name), ("description", text metadata.description),
      ("demoLink", text metadata.demoLink)])

/-- The result of a survey: a record of each file, in the order in which the files were found. -/
structure Aggregate where
  metadata : Option RepositoryMetadata := none
  files : List FileRecord

namespace Aggregate

open RepoSurvey.Graph in
/-- The graph of a whole survey. -/
def object (aggregate : Aggregate) : Build Value := do
  let metadata ← match aggregate.metadata with
    | some metadata => metadata.object
    | none => pure .null
  let files ← Build.newArray
  aggregate.files.forM fun record => do Build.push files (← record.object)
  return .container (← Build.object [("metadata", metadata), ("files", .container files)])

/-- The document of a survey, in one line. -/
def text (aggregate : Aggregate) : String :=
  let (root, store) := Graph.build aggregate.object
  Graph.compactText store root

/-- The first record of a path. -/
def record? (aggregate : Aggregate) (path : String) : Option FileRecord :=
  aggregate.files.find? (·.path == path)

end Aggregate

end RepoSurvey
