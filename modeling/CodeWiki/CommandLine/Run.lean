import CodeWiki.Checkout.Git
import CodeWiki.CommandLine.Grammar
import CodeWiki.Generation
import CodeWiki.Schedule.Transport
import CodeWiki.Settings.File

/-!
A run of the program: settings and credentials are read, a document is generated, and it is printed
or written to a file.
-/
namespace CodeWiki.CommandLine

inductive RunError where
  | generation (e : GenerationError)
  | unwritable (path reason : Text)
deriving DecidableEq, Repr

namespace RunError

def message : RunError → Text
  | generation e => e.message
  | unwritable path _ => "Failed to write " ++ path

def causes : RunError → List Text
  | generation e => e.causes
  | unwritable _ reason => [reason]

def chain (e : RunError) : Text := Text.join ": " (e.message :: e.causes)

end RunError

structure Surroundings (σ : Type) where
  /-- What reading a file comes to. -/
  contentOf : Text → Except Text Bytes
  /-- Why a file cannot be written, if it cannot. -/
  writeFailure : Text → Option Text
  environment : Text → Option Text
  time : Text
  git : Git.Program
  /-- The path that repositories are cloned to. -/
  directory : Text
  /-- Why requests cannot be made at all, if they cannot. -/
  clientFailure : Option Text := none
  scratch : Scratch.Surroundings := {}
  transport : Schedule.Transport σ

structure Run (σ : Type) where
  outcome : Except RunError Unit
  printed : Text := []
  /-- What is reported besides. -/
  reported : Text := []
  /-- The file that is written, with its content. -/
  written : Option (Text × Text) := none
  /-- The generation, if it comes to that. -/
  generation : Option (Generation σ) := none

def startNotice (reference : Text) : Text := "Generating wiki for " ++ reference ++ "...\n"

/-- Reported when the document has been written. -/
def writtenNotice (d : Document) (path : Text) : Text :=
  "Wiki with " ++ Text.ofNat d.sections.length ++ " sections written to " ++ path ++ ['\n']

/-- Whether requests can be made. -/
def checkClient {σ : Type} (around : Surroundings σ) : Except CompletionError Unit :=
  match around.clientFailure with
  | some reason => .error (.unavailable reason)
  | none => .ok ()

def readSettings {σ : Type} (around : Surroundings σ) (request : Request) :
    Except GenerationError Settings :=
  match request.config with
  | some path => (Settings.ofFile path (around.contentOf path)).mapError .settings
  | none => .ok {}

def prepare {σ : Type} (around : Surroundings σ) (request : Request) :
    Except GenerationError (Settings × Account × KeyPool) := do
  let settings ← readSettings around request
  let account ← (Account.ofEnvironment around.environment).mapError .settings
  let pool ← account.pool.mapError .settings
  (checkClient around).mapError .client
  return (settings, account, pool)

/-- Delivers a document: to the file that the request names, or else printed. -/
def deliver {σ : Type} (around : Surroundings σ) (request : Request) (d : Document) (run : Run σ) :
    Run σ :=
  match request.output with
  | none => { run with printed := d.indented ++ ['\n'] }
  | some path =>
    match around.writeFailure path with
    | some reason => { run with outcome := .error (.unwritable path reason) }
    | none => { run with
        written := some (path, d.indented)
        reported := run.reported ++ writtenNotice d path }

def run {σ : Type} (around : Surroundings σ) (request : Request) (memory : σ) : Run σ :=
  match prepare around request with
  | .error e => { outcome := .error (.generation e) }
  | .ok (settings, account, pool) =>
    let world : World σ := {
      time := around.time
      fetcher := Git.fetcher around.git around.directory settings.checkout
      scratch := around.scratch
      provider := around.transport.provider (account.client settings.schedule) }
    let store :=
      if request.noCache then none
      else some (Store.empty settings.retention.lifetimeSecs settings.retention.capacity)
    let generation := Generation.generate settings pool world store 0 request.reference memory
    let run : Run σ := {
      outcome := .ok ()
      reported := startNotice request.reference
      generation := some generation }
    match generation.result with
    | .error e => { run with outcome := .error (.generation e) }
    | .ok d => deliver around request d run

end CodeWiki.CommandLine
