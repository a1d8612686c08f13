import CodeWiki.Completion.Error
import CodeWiki.Credential
import CodeWiki.Json.Printer

/-!
The exchange with a backend: the request for a completion, and the completion read from the
response. A credential enters a request in one header and nowhere else.
-/
namespace CodeWiki

structure HttpRequest where
  url : Text
  headers : List (Text × Text)
  body : Text
  timeoutSecs : Nat
deriving DecidableEq, Repr

/-- What becomes of a request: a response, whose body may be unreadable, or no response. -/
inductive HttpResult where
  | response (status : Nat) (body : Option Text)
  | failed (reason : Text)
deriving DecidableEq, Repr

structure Client where
  groqModel : Text
  geminiModel : Text
  /-- A number of single precision. -/
  temperature : Floating
  timeoutSecs : Nat
deriving DecidableEq, Repr

/-- One question: what the model is to be, and what it is to answer. -/
structure Prompt where
  system : Text
  user : Text
deriving DecidableEq, Repr

namespace Client

def groqUrl : Text := "https://api.groq.com/openai/v1/chat/completions"

def geminiBase : Text := "https://generativelanguage.googleapis.com/v1beta"

def geminiUrl (model : Text) : Text := geminiBase ++ "/models/" ++ model ++ ":generateContent"

/-- The header that says that the body is JSON. -/
def jsonHeader : Text × Text := ("content-type", "application/json")

def groqMessage (role content : Text) : Json :=
  .ofFields [("role", .text role), ("content", .text content)]

def groqBody (client : Client) (prompt : Prompt) : Json := .ofFields [
  ("model", .text client.groqModel),
  ("messages", .array [groqMessage "system" prompt.system, groqMessage "user" prompt.user]),
  ("temperature", .ofSingle client.temperature)]

def geminiParts (t : Text) : Text × Json := ("parts", .array [.ofFields [("text", .text t)]])

def geminiBody (client : Client) (prompt : Prompt) : Json := .ofFields [
  ("systemInstruction", .ofFields [geminiParts prompt.system]),
  ("contents", .array [.ofFields [("role", .text "user"), geminiParts prompt.user]]),
  ("generationConfig", .ofFields [("temperature", .ofSingle client.temperature)])]

/-- The request that asks the backend of a credential. -/
def request (client : Client) (key : Credential) (prompt : Prompt) : HttpRequest :=
  match key.backend with
  | .groq => {
      url := groqUrl
      headers := [("authorization", "Bearer " ++ key.secret), jsonHeader]
      body := (client.groqBody prompt).compact
      timeoutSecs := client.timeoutSecs }
  | .gemini => {
      url := geminiUrl client.geminiModel
      headers := [jsonHeader, ("x-goog-api-key", key.secret)]
      body := (client.geminiBody prompt).compact
      timeoutSecs := client.timeoutSecs }

/-- The content of one choice; a message without content counts as empty. -/
def groqChoice? (choice : Json) : Option Text := do
  match ← Json.record? [("message", .required)] choice with
  | [some message] =>
    match ← Json.record? [("content", .nullable)] message with
    | [content] => (← Json.option? Json.text? content).getD []
    | _ => none
  | _ => none

def groqChoices? (body : Json) : Option (List Text) := do
  match ← Json.record? [("choices", .required)] body with
  | [some (.array choices)] => choices.mapM groqChoice?
  | _ => none

def geminiPart? (part : Json) : Option (Option Text) := do
  match ← Json.record? [("text", .defaulted)] part with
  | [text] => Json.option? Json.text? text
  | _ => none

def geminiContent? (content : Json) : Option Text := do
  match ← Json.record? [("role", .defaulted), ("parts", .defaulted)] content with
  | [role, parts] =>
    let _ ← Json.option? Json.text? role
    match parts with
    | none => some []
    | some (.array parts) => some ((← parts.mapM geminiPart?).filterMap id).flatten
    | _ => none
  | _ => none

/-- The text of one candidate; a candidate without content counts as empty. -/
def geminiCandidate? (candidate : Json) : Option Text := do
  match ← Json.record? [("content", .nullable)] candidate with
  | [content] => (← Json.option? geminiContent? content).getD []
  | _ => none

def geminiCandidates? (body : Json) : Option (List Text) := do
  match ← Json.record? [("candidates", .defaulted)] body with
  | [none] => some []
  | [some (.array candidates)] => candidates.mapM geminiCandidate?
  | _ => none

/-- The texts that a backend offers in the body of its response. -/
def offers? : Backend → Json → Option (List Text)
  | .groq => groqChoices?
  | .gemini => geminiCandidates?

def offersName : Backend → Text
  | .groq => "choices"
  | .gemini => "candidates"

/-- Reported of a body that cannot be read or is not what was expected. -/
def undecodable : CompletionError := .invalidResponse "error decoding response body"

/-- The first offer in the body of a successful response. -/
def readOffer (backend : Backend) (body : Option Text) : Except CompletionError Text :=
  match (body.bind Json.read?).bind (offers? backend) with
  | none => .error undecodable
  | some [] => .error (.invalidResponse ("No " ++ offersName backend ++ " in response"))
  | some (first :: _) => .ok first

/-- The completion that a result stands for. A status from 200 to 299 is a success; a body that
cannot be read counts as empty elsewhere. -/
def read (backend : Backend) : HttpResult → Except CompletionError Text
  | .failed reason => .error (.network reason)
  | .response status body =>
    if 200 ≤ status && status < 300 then readOffer backend body
    else .error (.ofStatus status (body.getD []))

end Client
end CodeWiki
