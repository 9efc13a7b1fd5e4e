import RepoSurvey.Configuration
import RepoSurvey.Json.Text
import RepoSurvey.Web.Exchange
import RepoSurvey.Web.Shape

/-!
# The sandbox service

The service that shows an application: it is sent the files of the application and answers with the name
under which it can be seen.
-/

namespace RepoSurvey

open Web (WebError Shape)

inductive SandboxError
  | web (error : WebError)
  | refused (status : Nat) (reason : String)
  /-- There is nothing to be shown. -/
  | noCode
  deriving DecidableEq, Repr

def SandboxError.message : SandboxError → String
  | web error => error.message
  | refused status reason => "sandbox API returned " ++ Web.statusText status ++ ": " ++ reason
  | noCode => "refusing to publish empty application code"

/-- An application that can be seen. -/
structure Sandbox where
  name : String
  deriving BEq, DecidableEq, Repr

namespace Sandbox

def previewAddress (sandbox : Sandbox) : String := "https://" ++ sandbox.name ++ ".csb.app"

def editorAddress (sandbox : Sandbox) : String := "https://codesandbox.io/s/" ++ sandbox.name

/-- The page that the application is put into. -/
def page : String :=
  "<!DOCTYPE html>\n<html lang=\"en\">\n  <head>\n    <meta charset=\"utf-8\" />\n" ++
  "    <meta name=\"viewport\" content=\"width=device-width, initial-scale=1\" />\n" ++
  "    <script src=\"https://cdn.tailwindcss.com\"></script>\n" ++
  "    <title>Preview</title>\n  </head>\n  <body>\n    <div id=\"root\"></div>\n" ++
  "  </body>\n</html>\n"

/-- The script that puts the application into the page. -/
def script : String :=
  "import React from \"react\";\nimport \x7b createRoot \x7d from \"react-dom/client\";\n" ++
  "import App from \"./App\";\n\n" ++
  "createRoot(document.getElementById(\"root\")).render(<App />);\n"

open Json (Value) in
/-- What the application is made of. -/
def package : Value :=
  .ofMembers
    [("name", .text "generated-app"), ("version", .text "1.0.0"), ("main", .text "src/index.js"),
      ("dependencies", .ofMembers
        [("react", .text "^18.2.0"), ("react-dom", .text "^18.2.0"),
          ("react-icons", .text "^5.0.0"), ("react-scripts", .text "5.0.1")])]

open Json (Value) in
/-- The files of the application with some code. -/
def files (code : String) : Value :=
  let file (content : Value) : Value := .ofMembers [("content", content)]
  .ofMembers
    [("package.json", file package), ("public/index.html", file (.text page)),
      ("src/index.js", file (.text script)), ("src/App.js", file (.text code))]

def answerShape : Shape Sandbox :=
  .assembled [{ name := "sandbox_id", read := Shape.text.into fun name _ => ⟨name⟩ }] ⟨""⟩

end Sandbox

namespace SandboxSettings

def publishAddress (settings : SandboxSettings) : String :=
  trimEnd (· == '/') settings.address ++ "/api/v1/sandboxes/define?json=1"

variable {m : Type → Type} [Monad m]

/-- Publishes an application with some code. -/
def publish (settings : SandboxSettings) (web : Web m) (code : String) :
    ExceptT SandboxError m Sandbox := do
  if (trim code).isEmpty then throw .noCode
  let body := (Json.Value.ofMembers [("files", Sandbox.files code)]).compact
  let headers := [("accept", "*/*"), ("content-type", "application/json")]
  let reply ← ExceptT.adapt SandboxError.web (web.ask .post settings.publishAddress headers body)
  if !reply.isSuccess then throw (.refused reply.status reply.text)
  match Sandbox.answerShape.readBytes reply.content with
  | some sandbox => return sandbox
  | none => throw (.web .undecodable)

end SandboxSettings

/-- Why a file could not be published. -/
inductive PublishError
  | unreadable (path : String) (error : SystemError)
  | refused (error : SandboxError)
  deriving DecidableEq, Repr

def PublishError.message : PublishError → String
  | unreadable path error => "Failed to read " ++ path ++ ": " ++ error.display
  | refused error => "Publish failed: " ++ error.message

/-- Publishes the application in a file. -/
def SandboxSettings.publishFile {m : Type → Type} [Monad m] (settings : SandboxSettings)
    (files : FileOperations m) (web : Web m) (path : String) : ExceptT PublishError m Sandbox := do
  let code ← ExceptT.adapt (PublishError.unreadable path) (files.readText path)
  ExceptT.adapt PublishError.refused (settings.publish web code)

end RepoSurvey
