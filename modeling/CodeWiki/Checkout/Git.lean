import CodeWiki.Checkout.Basic

/-!
Fetching with the program `git`: how it is called, and what its end is taken to mean.
-/
namespace CodeWiki

inductive ProcessEnd where
  /-- There is no such program. -/
  | notFound
  /-- The program could not be started or waited for, for the given reason. -/
  | notStarted (reason : Text)
  /-- The program was stopped when its time was over. -/
  | timedOut
  /-- The program ended by itself, in success or not, with what it wrote. -/
  | exited (success : Bool) (output errors : Bytes)
deriving DecidableEq, Repr

namespace Git

def cloneArguments (url destination : Text) : List Text :=
  ["clone", "--depth", "1", url, destination]

def revisionArguments (directory : Text) : List Text :=
  ["-C", directory, "rev-parse", "--short", "HEAD"]

/-- The message of a failed run: what it wrote about errors or, if that is blank, anything else. -/
def failureMessage (output errors : Bytes) : Text :=
  let errors := Text.trim (Utf8.decodeLossy errors)
  if errors.isEmpty then Text.trim (Utf8.decodeLossy output) else errors

def cloneResult (settings : CheckoutSettings) : ProcessEnd → Except CheckoutError Unit
  | .notFound => .error .toolUnavailable
  | .notStarted reason => .error (.io reason)
  | .timedOut => .error (.timeout settings.cloneTimeoutSecs)
  | .exited true _ _ => .ok ()
  | .exited false output errors => .error (.cloneFailed (failureMessage output errors))

/-- The revision of a checkout, if the program could tell. -/
def revision? : ProcessEnd → Option Text
  | .exited true output _ =>
    let revision := Text.trim (Utf8.decodeLossy output)
    if revision.isEmpty then none else some revision
  | _ => none

/-- The program as it is found: how it ends when it is called, and what a clone of a URL leaves. -/
structure Program where
  run : List Text → ProcessEnd
  tree : Text → Option FileTree

/-- Fetches with the program, into the given directory. -/
def fetcher (program : Program) (directory : Text) (settings : CheckoutSettings) : Fetcher :=
  fun url =>
    { tree := (cloneResult settings (program.run (cloneArguments url directory))).map fun _ =>
        program.tree url
      revision := revision? (program.run (revisionArguments directory)) }

end Git
end CodeWiki
