import CodeWiki.Checkout.Basic
import CodeWiki.Document.Json
import CodeWiki.Schedule.Run
import CodeWiki.Section.Reply
import CodeWiki.Settings.Environment

/-!
Generation of a wiki: the reference is looked up among the retained documents; if it is not there,
the repository is fetched, divided into modules and described to the language models, and their
replies become the sections of a document. Only a document whose tasks have all succeeded is
retained. A task that failed shows in its section and does no other harm.
-/
namespace CodeWiki

inductive GenerationError where
  | checkout (e : CheckoutError)
  | settings (e : SettingsError)
  | client (e : CompletionError)
deriving DecidableEq, Repr

namespace GenerationError

def message : GenerationError → Text
  | checkout e => "Failed to fetch repository: " ++ e.message
  | settings e => e.message
  | client e => "Failed to initialise provider client: " ++ e.message

def causes : GenerationError → List Text
  | checkout e => e.message :: e.causes
  | settings e => e.causes
  | client e => [e.message]

end GenerationError

/-- What a generation needs of the world outside. -/
structure World (σ : Type) where
  time : Text
  fetcher : Fetcher
  scratch : Scratch.Surroundings
  provider : Schedule.Provider σ

structure Generation (σ : Type) where
  result : Except GenerationError Document
  /-- The retained documents, if documents are retained at all. -/
  store : Option (Store Document)
  /-- The URL that was cloned, if it came to that. -/
  cloned : Option Text
  /-- The calls, in the order in which they were made. -/
  calls : List Schedule.CallRecord
  /-- What is left at the path of the scratch directory. -/
  scratch : Occupant
  provider : σ

namespace Generation

/-- The tasks for a snapshot: the repository first, then the modules in order. -/
def tasks (settings : Settings) (pool : KeyPool) (origin : Origin) (files : Snapshot) : List Task :=
  let modules := SourceModule.ofSnapshot settings.grouping files
  let briefs := Brief.ofModules settings.grouping settings.excerpt modules
  let overview := OverviewBrief.ofSnapshot settings.grouping origin.slug origin.reference files
    (briefs.map Brief.module)
  Task.ofWiki pool overview briefs

def sections (tasks : List Task) (outcomes : List Outcome) : List WikiSection :=
  let replies := (tasks.zip outcomes).filterMap fun (task, outcome) =>
    match task.subject with
    | .overview => none
    | .module name => some (name, outcome.text)
  WikiSection.assemble ((outcomes.head?.map Outcome.text).getD []) replies

/-- A retained document as it is handed out for another reference to the same repository. -/
def retarget (reference : Text) (d : Document) : Document :=
  { d with origin := { d.origin with reference } }

/-- The generation for a snapshot that has just been fetched. -/
def ofSnapshot {σ : Type} (settings : Settings) (pool : KeyPool) (world : World σ)
    (store : Option (Store Document)) (now : Nat) (url : Text) (fetched : Checkout.Fetched)
    (origin : Origin) (files : Snapshot) (memory : σ) : Generation σ :=
  let tasks := tasks settings pool origin files
  let run := Schedule.run settings.schedule pool.size world.provider tasks memory
  let document := { origin, files, sections := sections tasks run.outcomes }
  let complete := run.outcomes.all (·.verdict = .succeeded)
  { result := .ok document
    store := if complete then store.map (·.insert now url document) else store
    cloned := fetched.cloned
    calls := run.calls
    scratch := fetched.scratch
    provider := run.provider }

/-- Generates the document of a reference at the time `now`. -/
def generate {σ : Type} (settings : Settings) (pool : KeyPool) (world : World σ)
    (store : Option (Store Document)) (now : Nat) (reference : Text) (memory : σ) : Generation σ :=
  match Reference.cloneUrl? reference with
  | none => {
      result := .error (.checkout (.invalidReference reference))
      store, cloned := none, calls := [], scratch := .nothing, provider := memory }
  | some url =>
    let lookup := store.map (·.get now url)
    let store := lookup.map Prod.snd
    match lookup.bind Prod.fst with
    | some document => {
        result := .ok (retarget reference document)
        store, cloned := none, calls := [], scratch := .nothing, provider := memory }
    | none =>
      let fetched :=
        Checkout.fetch settings.checkout world.time world.fetcher world.scratch reference
      match fetched.outcome with
      | .error e => {
          result := .error (.checkout e)
          store, cloned := fetched.cloned, calls := [], scratch := fetched.scratch
          provider := memory }
      | .ok (files, origin) =>
        ofSnapshot settings pool world store now url fetched origin files memory

end Generation
end CodeWiki
