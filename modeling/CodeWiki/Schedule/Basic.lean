import CodeWiki.Completion.Client
import CodeWiki.SourceModule.Brief

/-!
Tasks: one question to a language model each, with the rule by which a task is tried again. A task
whose call is throttled is tried again after a wait, as often as the settings allow; anything else
settles it. A task that fails leaves a text that says so, and no task affects another.
-/
namespace CodeWiki

structure ScheduleSettings where
  /-- The number of attempts of a task, the first one included. -/
  maxAttempts : Nat := 3
  /-- The wait of a throttled task in seconds, a number of double precision. -/
  backoffSecs : Floating := FloatFormat.double.ofNat 90
  /-- The number of calls at a time where no credential limits it. -/
  defaultParallelism : Nat := 5
  requestTimeoutSecs : Nat := 120
  /-- A number of single precision. -/
  temperature : Floating := FloatFormat.single.round false 2 10
deriving DecidableEq, Repr

namespace ScheduleSettings

def maxBackoffSecs : Nat := 86400

def nanosPerSecond : Nat := 1000000000

def nanosPerMilli : Nat := 1000000

/-- The wait in nanoseconds: the nearest whole number of them, at most one day; no wait for a
negative number or none. -/
def backoffNanos (settings : ScheduleSettings) : Nat :=
  match settings.backoffSecs with
  | .infinite false => maxBackoffSecs * nanosPerSecond
  | x => min (x.scaledRound nanosPerSecond) (maxBackoffSecs * nanosPerSecond)

def backoffMs (settings : ScheduleSettings) : Nat :=
  (settings.backoffNanos + (nanosPerMilli - 1)) / nanosPerMilli

/-- The number of attempts; there is always one. -/
def attempts (settings : ScheduleSettings) : Nat := max settings.maxAttempts 1

end ScheduleSettings

inductive Subject where
  | overview
  | module (name : Text)
deriving DecidableEq, Repr

/-- The text in place of a summary that could not be had. -/
def Subject.errorMarker : Subject → Text → Text
  | overview, message => "Error generating overview: " ++ message
  | module name, message => "Error generating module " ++ name ++ ": " ++ message

structure Task where
  subject : Subject
  prompt : Prompt
  key : Credential
deriving DecidableEq, Repr

/-- What a call comes to: a text, an error, or a crash with what the runtime reports of it. -/
inductive Reply where
  | text (t : Text)
  | failure (e : CompletionError)
  | crash (report : Text)
deriving DecidableEq, Repr

def Reply.isRateLimited : Reply → Bool
  | failure e => e.isRateLimited
  | _ => false

inductive Verdict where
  | succeeded
  | failed
deriving DecidableEq, Repr

/-- The text of a task, the attempts it took, and where it ended. -/
structure Outcome where
  text : Text
  attempts : Nat
  verdict : Verdict
deriving DecidableEq, Repr

namespace Outcome

/-- What is said of a task whose call crashed. -/
def abortedMessage (report : Text) : Text := "task aborted: " ++ report

/-- The outcome that a reply settles when it is not tried again. -/
def ofReply (subject : Subject) (attempt : Nat) : Reply → Outcome
  | .text t => ⟨t, attempt, .succeeded⟩
  | .failure e => ⟨subject.errorMarker e.message, attempt, .failed⟩
  | .crash report => ⟨subject.errorMarker (abortedMessage report), 0, .failed⟩

/-- What follows the reply to an attempt: the outcome, or nothing if there is another attempt. -/
def after? (attempts : Nat) (subject : Subject) (attempt : Nat) (reply : Reply) : Option Outcome :=
  if reply.isRateLimited && attempt < attempts then none else some (ofReply subject attempt reply)

end Outcome
end CodeWiki
