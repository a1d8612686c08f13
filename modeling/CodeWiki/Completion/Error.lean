import CodeWiki.Json.Reader
import CodeWiki.Json.Record
import CodeWiki.Text.LetterCase

/-!
What can go wrong when a language model is asked, and which of it is worth another attempt.
-/
namespace CodeWiki

inductive CompletionError where
  | rateLimited (retryAfterMs : Option Nat)
  | authentication (body : Text)
  | http (status : Nat) (body : Text)
  | network (reason : Text)
  | invalidResponse (reason : Text)
deriving DecidableEq, Repr

namespace CompletionError

def message : CompletionError → Text
  | rateLimited none => "Rate limit exceeded (429)"
  | rateLimited (some ms) => "Rate limit exceeded (429), retry after " ++ Text.ofNat ms ++ "ms"
  | authentication body => "Authentication failed: " ++ body
  | http status body => "HTTP " ++ Text.ofNat status ++ ": " ++ body
  | network reason => "Network error: " ++ reason
  | invalidResponse reason => "Invalid response: " ++ reason

/-- The error for a client that cannot be set up. -/
def unavailable (reason : Text) : CompletionError :=
  network ("failed to build HTTP client: " ++ reason)

/-- Whether a text speaks of throttling, in letters of either case. -/
def speaksOfThrottling (t : Text) : Bool :=
  let t := Text.toLower t
  Text.hasPart "rate limit" t || Text.hasPart "429" t

/-- Whether the error is a matter of throttling. Services do not agree on status codes, so the text
of the error counts as well. -/
def isRateLimited : CompletionError → Bool
  | rateLimited _ => true
  | e => speaksOfThrottling e.message

/-- The greatest number of milliseconds that can be given. -/
def maxMilliseconds : Nat := UInt64.size - 1

/-- A number of seconds in whole milliseconds: the product with 1000, rounded to a double and cut
off, within the range of what can be given. -/
def milliseconds (secs : Floating) : Nat :=
  match FloatFormat.double.mul secs (FloatFormat.double.ofNat 1000) with
  | .infinite false => maxMilliseconds
  | x => min x.floor maxMilliseconds

/-- The waiting time that the body of a response asks for, in the member `retry_after` of the member
`error`. -/
def retryAfterMs? (body : Text) : Option Nat := do
  let json ← Json.read? body
  if !Json.isUsable Json.maxDepth json then none
  else
    let error ← json.member? "error"
    let secs ← error.member? "retry_after"
    some (milliseconds (← secs.float?))

/-- The error that a response other than a success stands for. -/
def ofStatus (status : Nat) (body : Text) : CompletionError :=
  if status = 429 then .rateLimited (retryAfterMs? body)
  else if status = 401 || status = 403 then .authentication body
  else .http status body

end CompletionError
end CodeWiki
