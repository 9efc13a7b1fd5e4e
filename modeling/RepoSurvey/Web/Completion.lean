import RepoSurvey.Configuration
import RepoSurvey.Json.Text
import RepoSurvey.Web.Exchange
import RepoSurvey.Web.Shape

/-!
# The completion service

The service that writes summaries: it is sent a prompt and answers with a text.
-/

namespace RepoSurvey

open Web (WebError Shape)

inductive CompletionError
  | web (error : WebError)
  | refused (status : Nat) (reason : String)
  /-- The answer holds no text. -/
  | noText
  deriving DecidableEq, Repr

def CompletionError.message : CompletionError → String
  | web error => error.message
  | refused status reason =>
      "completion API returned " ++ Web.statusText status ++ ": " ++ reason
  | noText => "completion API returned no choices"

namespace SummarySettings

/-- What the service is told about its task. -/
def task : String :=
  "You are a senior engineer writing one-paragraph descriptions of source files for a code map."

def completionAddress (settings : SummarySettings) : String :=
  trimEnd (· == '/') settings.address ++ "/chat/completions"

/-- The document that asks for a completion. -/
def question (settings : SummarySettings) (prompt : String) : String :=
  let message (role content : String) : String :=
    "\x7b\"role\":" ++ Json.quote role ++ ",\"content\":" ++ Json.quote content ++ "\x7d"
  "\x7b\"model\":" ++ Json.quote settings.model ++ ",\"messages\":[" ++ message "system" task ++
    "," ++ message "user" prompt ++ "],\"temperature\":0.2\x7d"

def headers (secret : String) : List (String × String) :=
  [("accept", "*/*"), ("authorization", Web.bearer secret), ("content-type", "application/json")]

/-- The texts of the answers that are offered. -/
def choicesShape : Shape (List (Option String)) :=
  let content : Shape (Option String) := .assembled
    [{ name := "content", isOptional := true
       read := Shape.text.orNull.into fun content _ => content }] none
  let choice : Shape (Option String) := .assembled
    [{ name := "message", read := content.into fun content _ => content }] none
  .assembled [{ name := "choices", read := (Shape.list choice).into fun choices _ => choices }] []

variable {m : Type → Type} [Monad m]

/-- Asks for a completion. Only the first of the answers counts. -/
def complete (settings : SummarySettings) (web : Web m) (secret prompt : String) :
    ExceptT CompletionError m String := do
  let reply ← ExceptT.adapt CompletionError.web
    (web.ask .post settings.completionAddress (headers secret) (settings.question prompt))
  if !reply.isSuccess then throw (.refused reply.status reply.text)
  match choicesShape.readBytes reply.content with
  | none => throw (.web .undecodable)
  | some choices =>
      match choices.head?.join with
      | some text => return text
      | none => throw .noText

/-- Why no summarizer can be made. -/
def noSecret : String := "completion API key missing (set OPENAI_API_KEY)"

/-- The summarizer that asks the service when `awaitTurn` lets it; there is none without a secret. -/
def summarizer (settings : SummarySettings) (web : Web m) (awaitTurn : m Unit) :
    Except String (Summarizer m) :=
  match settings.secret with
  | none => .error noSecret
  | some secret =>
      .ok
        { promptLimit := settings.promptLimit
          awaitTurn
          complete := fun prompt => do
            return (← (settings.complete web secret prompt).run).mapError CompletionError.message }

end SummarySettings

end RepoSurvey
