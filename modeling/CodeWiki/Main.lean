import CodeWiki.CommandLine.Run

/-!
The program. It reads and writes files and looks at its environment; it neither starts other
programs nor opens connections, so that clones and requests fail as they do where these are missing.
-/
namespace CodeWiki.CommandLine

/-- The content of a file, or the reason why there is none. -/
def readContent (path : Text) : IO (Except Text Bytes) := do
  try
    let content ← IO.FS.readBinFile (String.ofList path)
    return .ok content.toList
  catch e => return .error e.toString.toList

def accountVariables : List String :=
  ["GROQ_API_KEYS", "GROQ_API_KEY", "GOOGLE_API_KEY", "GROQ_MODEL", "GEMINI_MODEL"]

def readVariables : IO (List (Text × Text)) := do
  let values ← accountVariables.mapM fun name => do
    return (← IO.getEnv name).map fun value => (name.toList, value.toList)
  return values.filterMap id

def usage : String :=
  "Usage: repo-wiki generate [--config <CONFIG>] [--output <OUTPUT>] [--no-cache] <REPO>"

/-- Runs a request and returns the exit code. -/
def runRequest (request : Request) : IO UInt32 := do
  let config ← match request.config with
    | some path => readContent path
    | none => pure (.ok [])
  let known ← readVariables
  let around : Surroundings Unit := {
    contentOf := fun _ => config
    writeFailure := fun _ => none
    environment := fun name => known.lookup name
    time := []
    git := { run := fun _ => .notFound, tree := fun _ => none }
    directory := []
    transport := { send := fun _ memory => (.failed "error sending request", memory) } }
  let run := run around request ()
  IO.print (String.ofList run.printed)
  IO.eprint (String.ofList run.reported)
  match run.written with
  | some (path, content) => IO.FS.writeFile (String.ofList path) (String.ofList content)
  | none => pure ()
  match run.outcome with
  | .ok () => return 0
  | .error e =>
    IO.eprintln (String.ofList ("[ERROR] Wiki generation failed: " ++ e.chain))
    return 1

/-- Carries out a command line and returns the exit code. -/
def carryOut (args : List Text) : IO UInt32 := do
  match parse args with
  | .ok request => runRequest request
  | .error refusal =>
    let stream ← if refusal.exitCode = 0 then IO.getStdout else IO.getStderr
    stream.putStrLn usage
    return refusal.exitCode.toUInt32

end CodeWiki.CommandLine

/-- Carries out the arguments of the program. -/
def main (args : List String) : IO UInt32 :=
  CodeWiki.CommandLine.carryOut (args.map String.toList)
