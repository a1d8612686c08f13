import CodeWiki.Generation
import CodeWiki.Proofs.Checkout

/-! The ways that a generation can go, each with the facts that lead to it. -/
namespace CodeWiki.Generation

variable {σ : Type} {settings : Settings} {world : World σ} {store : Option (Store Document)}
  {now : Nat} {reference url : Text} {files : Snapshot} {origin : Origin}

theorem generate_of_unknown (settings : Settings) (pool : KeyPool) (world : World σ)
    (store : Option (Store Document)) (now : Nat) (memory : σ)
    (unknown : Reference.cloneUrl? reference = none) :
    generate settings pool world store now reference memory =
      { result := .error (.checkout (.invalidReference reference))
        store, cloned := none, calls := [], scratch := .nothing, provider := memory } := by
  simp only [generate, unknown]

theorem generate_of_retained {retained kept : Store Document} {document : Document}
    (settings : Settings) (pool : KeyPool) (world : World σ) (memory : σ)
    (known : Reference.cloneUrl? reference = some url)
    (found : retained.get now url = (some document, kept)) :
    generate settings pool world (some retained) now reference memory =
      { result := .ok (retarget reference document)
        store := some kept, cloned := none, calls := [], scratch := .nothing
        provider := memory } := by
  simp only [generate, known, Option.map_some, found, Option.bind_some]

/-- The scratch directory is given up whether or not the repository could be read. -/
def fetched (settings : Settings) (world : World σ) (reference url : Text) : Checkout.Fetched where
  outcome := Checkout.read settings.checkout world.time reference url (world.fetcher url)
  cloned := some url
  scratch := (Scratch.removeWithRetries world.scratch world.scratch.before).left

theorem generate_of_refused {reason : Text} (pool : KeyPool) (memory : σ)
    (known : Reference.cloneUrl? reference = some url)
    (missed : (store.bind fun s => (s.get now url).1) = none)
    (refused : world.scratch.refusal = some reason) :
    generate settings pool world store now reference memory =
      { result := .error (.checkout (.io reason))
        store := store.map fun s => (s.get now url).2
        cloned := none, calls := [], scratch := .nothing, provider := memory } := by
  have nothing : (store.map (·.get now url)).bind Prod.fst = none := by
    rwa [Option.bind_map]
  simp only [generate, known, nothing, Checkout.fetch_of_refused _ _ _ known refused,
    Option.map_map]
  rfl

theorem generate_of_unread {e : CheckoutError} (pool : KeyPool) (memory : σ)
    (known : Reference.cloneUrl? reference = some url)
    (missed : (store.bind fun s => (s.get now url).1) = none)
    (admitted : world.scratch.refusal = none)
    (unread : Checkout.read settings.checkout world.time reference url (world.fetcher url) =
      .error e) :
    generate settings pool world store now reference memory =
      { result := .error (.checkout e)
        store := store.map fun s => (s.get now url).2
        cloned := some url, calls := []
        scratch := (fetched settings world reference url).scratch, provider := memory } := by
  have nothing : (store.map (·.get now url)).bind Prod.fst = none := by
    rwa [Option.bind_map]
  simp only [generate, known, nothing, Checkout.fetch_of_admitted _ _ _ known admitted, unread,
    Option.map_map]
  rfl

theorem generate_of_read (pool : KeyPool) (memory : σ)
    (known : Reference.cloneUrl? reference = some url)
    (missed : (store.bind fun s => (s.get now url).1) = none)
    (admitted : world.scratch.refusal = none)
    (read : Checkout.read settings.checkout world.time reference url (world.fetcher url) =
      .ok (files, origin)) :
    generate settings pool world store now reference memory =
      ofSnapshot settings pool world (store.map fun s => (s.get now url).2) now url
        (fetched settings world reference url) origin files memory := by
  have nothing : (store.map (·.get now url)).bind Prod.fst = none := by
    rwa [Option.bind_map]
  simp only [generate, known, nothing, Checkout.fetch_of_admitted _ _ _ known admitted, read,
    Option.map_map]
  rw [fetched, read]
  rfl

/-- Where nothing is retained for the URL, there is an error and the store is left as it is found,
or a repository has been read. -/
theorem generate_cases (settings : Settings) (pool : KeyPool) (memory : σ)
    (known : Reference.cloneUrl? reference = some url)
    (missed : (store.bind fun s => (s.get now url).1) = none) :
    (∃ e left, generate settings pool world store now reference memory =
      { result := .error e
        store := store.map fun s => (s.get now url).2
        cloned := if world.scratch.refusal.isSome then none else some url
        calls := [], scratch := left, provider := memory }) ∨
    ∃ files origin, world.scratch.refusal = none ∧
      generate settings pool world store now reference memory =
        ofSnapshot settings pool world (store.map fun s => (s.get now url).2) now url
          (fetched settings world reference url) origin files memory := by
  cases room : world.scratch.refusal with
  | some reason =>
    rw [generate_of_refused pool memory known missed room]
    exact Or.inl ⟨_, _, rfl⟩
  | none =>
    cases read : Checkout.read settings.checkout world.time reference url (world.fetcher url) with
    | error e =>
      rw [generate_of_unread pool memory known missed room read]
      exact Or.inl ⟨_, _, rfl⟩
    | ok found =>
      exact Or.inr ⟨_, _, rfl, generate_of_read pool memory known missed room read⟩

theorem store_ofSnapshot {pool : KeyPool} {fetched : Checkout.Fetched} {memory : σ}
    (succeeded : (Schedule.run settings.schedule pool.size world.provider
      (tasks settings pool origin files) memory).outcomes.all (·.verdict = .succeeded) = true) :
    (ofSnapshot settings pool world store now url fetched origin files memory).store =
      store.map (·.insert now url ⟨origin, sections (tasks settings pool origin files)
        (Schedule.run settings.schedule pool.size world.provider
          (tasks settings pool origin files) memory).outcomes, files⟩) :=
  if_pos succeeded

end CodeWiki.Generation
