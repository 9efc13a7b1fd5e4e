import RepoSurvey.Text.Decoding
import RepoSurvey.Web.Address

/-!
# Requests and replies

A request is sent to an address and answered with a reply, or not at all.
-/

namespace RepoSurvey

namespace Web

inductive Method
  | get
  | post
  deriving BEq, DecidableEq, Repr

def Method.name : Method → String
  | get => "GET"
  | post => "POST"

structure Request where
  method : Method
  address : Address
  headers : List (String × String) := []
  body : String := ""
  deriving BEq, DecidableEq, Repr

/-- A reply as it came. -/
structure Reply where
  status : Nat
  body : ByteArray

end Web

open Web in
/-- Where requests are sent to. Nothing comes back if the connection breaks. -/
structure Web (m : Type → Type) where
  send : Request → m (Option Reply)

namespace Web

/-! ## Replies -/

/-- What the numbers of replies mean. -/
def statusReasons : List (Nat × String) :=
  [(100, "Continue"), (101, "Switching Protocols"), (102, "Processing"), (103, "Early Hints"),
    (200, "OK"), (201, "Created"), (202, "Accepted"), (203, "Non Authoritative Information"),
    (204, "No Content"), (205, "Reset Content"), (206, "Partial Content"), (207, "Multi-Status"),
    (208, "Already Reported"), (226, "IM Used"), (300, "Multiple Choices"),
    (301, "Moved Permanently"), (302, "Found"), (303, "See Other"), (304, "Not Modified"),
    (305, "Use Proxy"), (307, "Temporary Redirect"), (308, "Permanent Redirect"),
    (400, "Bad Request"), (401, "Unauthorized"), (402, "Payment Required"), (403, "Forbidden"),
    (404, "Not Found"), (405, "Method Not Allowed"), (406, "Not Acceptable"),
    (407, "Proxy Authentication Required"), (408, "Request Timeout"), (409, "Conflict"),
    (410, "Gone"), (411, "Length Required"), (412, "Precondition Failed"),
    (413, "Payload Too Large"), (414, "URI Too Long"), (415, "Unsupported Media Type"),
    (416, "Range Not Satisfiable"), (417, "Expectation Failed"), (418, "I'm a teapot"),
    (421, "Misdirected Request"), (422, "Unprocessable Entity"), (423, "Locked"),
    (424, "Failed Dependency"), (425, "Too Early"), (426, "Upgrade Required"),
    (428, "Precondition Required"), (429, "Too Many Requests"),
    (431, "Request Header Fields Too Large"), (451, "Unavailable For Legal Reasons"),
    (500, "Internal Server Error"), (501, "Not Implemented"), (502, "Bad Gateway"),
    (503, "Service Unavailable"), (504, "Gateway Timeout"), (505, "HTTP Version Not Supported"),
    (506, "Variant Also Negotiates"), (507, "Insufficient Storage"), (508, "Loop Detected"),
    (510, "Not Extended"), (511, "Network Authentication Required")]

def statusText (status : Nat) : String :=
  toString status ++ " " ++ (statusReasons.lookup status).getD "<unknown status code>"

namespace Reply

def isSuccess (reply : Reply) : Bool := 200 ≤ reply.status && reply.status < 300

/-- The content of a reply. Some replies have none, whatever follows them. -/
def content (reply : Reply) : ByteArray :=
  if reply.status == 204 || reply.status == 304 then .empty else reply.body

/-- The content of a reply as a text. -/
def text (reply : Reply) : String := decodeMarkedText reply.content

end Reply

/-! ## Errors -/

inductive WebError
  /-- The address or a header cannot be sent. -/
  | unsendable
  /-- Addresses of this kind are not asked. -/
  | unreachable (address : String)
  | unanswered (address : Address)
  /-- The content of the reply is not what was asked for. -/
  | undecodable
  deriving DecidableEq, Repr

def WebError.message : WebError → String
  | unsendable => "builder error"
  | unreachable address => "builder error for url (" ++ address ++ ")"
  | unanswered address => "error sending request for url (" ++ address.text ++ ")"
  | undecodable => "error decoding response body"

/-! ## Requests -/

/-- Whether a header can have this value. -/
def isHeaderValue (value : String) : Bool :=
  value.toList.all fun character => character == '\t' || (' ' ≤ character && character != '\x7f')

/-- The value of a header as it is sent, without blanks at its ends. -/
def headerValue (value : String) : String :=
  let isBlank (character : Char) : Bool := character == ' ' || character == '\t'
  trimEnd isBlank (trimStart isBlank value)

/-- The value of the header that shows a secret. -/
def bearer (secret : String) : String := "Bearer " ++ secret

/-- The request to the address that a text names. An address may be of any length. -/
def Request.make (method : Method) (address : String) (headers : List (String × String))
    (body : String := "") : Except WebError Request :=
  match Address.read address with
  | .error .malformed => .error .unsendable
  | .error (.withoutHost text) => .error (.unreachable text)
  | .ok address =>
      if !headers.all fun header => isHeaderValue header.2 then .error .unsendable
      else if address.scheme != "http" && address.scheme != "https" then
        .error (.unreachable address.text)
      else
        let headers := headers.map fun (name, value) => (name, headerValue value)
        .ok { method, address, headers, body }

/-- Sends a request to the address that a text names. -/
def ask {m : Type → Type} [Monad m] (web : Web m) (method : Method) (address : String)
    (headers : List (String × String)) (body : String := "") : ExceptT WebError m Reply := do
  let request ← ExceptT.mk (pure (Request.make method address headers body))
  match ← ExceptT.lift (web.send request) with
  | some reply => return reply
  | none => throw (.unanswered request.address)

end Web

end RepoSurvey
