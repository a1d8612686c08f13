import CodeWiki.Generation
import CodeWiki.Schedule.Interleaving

/-! Generations side by side. They share nothing but the store of retained documents, which each of
them looks up in one step and writes in one step; in between, the steps of others may come, and the
tasks of each generation go on in any order. `Generation.generate` takes all steps of one generation
at once. -/
namespace CodeWiki.Generation.Interleaving

/-- How far the generation for a reference has come. -/
inductive Phase where
  | asked
  /-- Nothing was retained for the reference, and its repository is being fetched. -/
  | fetching (url : Text)
  /-- The tasks for what was fetched are under way. Their times are on a clock of their own. -/
  | describing (url : Text) (origin : Origin) (files : Snapshot)
    (work : Schedule.Interleaving.State)
  | answered (result : Except GenerationError Document)

structure Request where
  reference : Text
  phase : Phase

inductive Happening where
  | asked (reference : Text)
  /-- The reference has no clone URL. -/
  | refused
  /-- A retained document is handed out. -/
  | served (url : Text) (document : Document)
  /-- Nothing is retained. -/
  | missed (url : Text)
  /-- There is no scratch directory to clone to. -/
  | blocked
  /-- A clone of the URL comes to its end, well or not. -/
  | cloned (url : Text)
  | worked (event : Schedule.Interleaving.Event)
  /-- The tasks have come to these outcomes, and the document to the user. -/
  | finished (url : Text) (outcomes : List Outcome) (document : Document)

/-- Something that happens to the request with the given number. -/
structure Event where
  time : Nat
  request : Nat
  what : Happening

structure State where
  now : Nat := 0
  store : Store Document
  requests : List Request := []

/-- The document with these outcomes of the tasks. -/
def describe (settings : Settings) (pool : KeyPool) (origin : Origin) (files : Snapshot)
    (outcomes : List Outcome) : Document where
  origin
  sections := sections (tasks settings pool origin files) outcomes
  files

/-- The store after a generation: the document is retained if all tasks have succeeded. -/
def retain (store : Store Document) (now : Nat) (url : Text) (outcomes : List Outcome)
    (document : Document) : Store Document :=
  if outcomes.all (·.verdict = .succeeded) then store.insert now url document else store

/-- What follows a clone: the tasks begin, all waiting, or the generation has failed. -/
def Phase.afterClone (settings : Settings) (pool : KeyPool) (url : Text) :
    Except CheckoutError (Snapshot × Origin) → Phase
  | .error e => answered (.error (.checkout e))
  | .ok (files, origin) =>
    describing url origin files (.start pool.size (tasks settings pool origin files))

/-- One step of some request. Time never goes back, and what a clone or a task comes to is open. -/
inductive Step (settings : Settings) (pool : KeyPool) : State → Event → State → Prop where
  | ask {s time} (reference : Text) : s.now ≤ time →
      Step settings pool s ⟨time, s.requests.length, .asked reference⟩
        ⟨time, s.store, s.requests ++ [⟨reference, .asked⟩]⟩
  | refuse {s time i reference} : s.now ≤ time → s.requests[i]? = some ⟨reference, .asked⟩ →
      Reference.cloneUrl? reference = none →
      Step settings pool s ⟨time, i, .refused⟩ ⟨time, s.store,
        s.requests.set i ⟨reference, .answered (.error (.checkout (.invalidReference reference)))⟩⟩
  | serve {s time i reference url document store} : s.now ≤ time →
      s.requests[i]? = some ⟨reference, .asked⟩ → Reference.cloneUrl? reference = some url →
      s.store.get time url = (some document, store) →
      Step settings pool s ⟨time, i, .served url document⟩ ⟨time, store,
        s.requests.set i ⟨reference, .answered (.ok (retarget reference document))⟩⟩
  | miss {s time i reference url store} : s.now ≤ time →
      s.requests[i]? = some ⟨reference, .asked⟩ → Reference.cloneUrl? reference = some url →
      s.store.get time url = (none, store) →
      Step settings pool s ⟨time, i, .missed url⟩ ⟨time, store,
        s.requests.set i ⟨reference, .fetching url⟩⟩
  | block {s time i reference url} (reason : Text) : s.now ≤ time →
      s.requests[i]? = some ⟨reference, .fetching url⟩ →
      Step settings pool s ⟨time, i, .blocked⟩ ⟨time, s.store,
        s.requests.set i ⟨reference, .answered (.error (.checkout (.io reason)))⟩⟩
  | clone {s time i reference url} (checkout : Checkout) (clock : Text) : s.now ≤ time →
      s.requests[i]? = some ⟨reference, .fetching url⟩ →
      Step settings pool s ⟨time, i, .cloned url⟩ ⟨time, s.store, s.requests.set i ⟨reference,
        .afterClone settings pool url
          (Checkout.read settings.checkout clock reference url checkout)⟩⟩
  | work {s time i reference url origin files work event work'} : s.now ≤ time →
      s.requests[i]? = some ⟨reference, .describing url origin files work⟩ →
      Schedule.Interleaving.Step settings.schedule (tasks settings pool origin files)
        work event work' →
      Step settings pool s ⟨time, i, .worked event⟩ ⟨time, s.store,
        s.requests.set i ⟨reference, .describing url origin files work'⟩⟩
  | finish {s time i reference url origin files work outcomes document} : s.now ≤ time →
      s.requests[i]? = some ⟨reference, .describing url origin files work⟩ →
      work.Returns outcomes → document = describe settings pool origin files outcomes →
      Step settings pool s ⟨time, i, .finished url outcomes document⟩
        ⟨time, retain s.store time url outcomes document,
          s.requests.set i ⟨reference, .answered (.ok document)⟩⟩

/-- Steps one after another, with what happens in them. -/
inductive Run (settings : Settings) (pool : KeyPool) (s : State) : List Event → State → Prop where
  | nil : Run settings pool s [] s
  | snoc {trace t event u} : Run settings pool s trace t → Step settings pool t event u →
      Run settings pool s (trace ++ [event]) u

/-- What happens to one request. -/
def happenings (i : Nat) (trace : List Event) : List Happening :=
  (trace.filter (·.request = i)).map Event.what

end CodeWiki.Generation.Interleaving
