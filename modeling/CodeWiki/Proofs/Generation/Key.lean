import CodeWiki.Proofs.Generation.Paths
import CodeWiki.Proofs.Retention

/-! The clone URL of a reference is all that a generation takes from it to find a repository: that
URL is cloned, and documents are looked for and put in under it. -/
namespace CodeWiki.Generation

variable {reference url : Text}

/-- A generation for the reference works on the repository of the URL. -/
structure Uses (reference url : Text) : Prop where
  known : Reference.cloneUrl? reference = some url
  /-- A document retained under the URL is the answer. -/
  served : ∀ {σ : Type} (settings : Settings) (pool : KeyPool) (world : World σ) (memory : σ)
    {now : Nat} {store kept : Store Document} {document : Document},
    store.get now url = (some document, kept) →
    (generate settings pool world (some store) now reference memory).result =
      .ok (retarget reference document)
  /-- Without such a document the URL is cloned, if there is a directory to clone it to. -/
  cloned : ∀ {σ : Type} (settings : Settings) (pool : KeyPool) (world : World σ) (memory : σ)
    {now : Nat} {store : Option (Store Document)},
    (store.bind fun s => (s.get now url).1) = none →
    (generate settings pool world store now reference memory).cloned =
      if world.scratch.refusal.isSome then none else some url
  /-- No document is put in under another URL. -/
  kept : ∀ {σ : Type} (settings : Settings) (pool : KeyPool) (world : World σ) (memory : σ)
    (now : Nat) {store after : Store Document},
    (generate settings pool world (some store) now reference memory).store = some after →
    ∀ entry ∈ after.entries, entry ∈ store.entries ∨ entry.key = url

theorem mem_store_ofSnapshot {σ : Type} {settings : Settings} {pool : KeyPool} {world : World σ}
    {now : Nat} {fetched : Checkout.Fetched} {origin : Origin} {files : Snapshot} {memory : σ}
    {store after : Store Document} {entry : Retained Document}
    (left : (ofSnapshot settings pool world (some store) now url fetched origin files
      memory).store = some after)
    (member : entry ∈ after.entries) : entry ∈ store.entries ∨ entry.key = url := by
  unfold ofSnapshot at left
  dsimp only at left
  split at left
  · cases left
    rcases Store.mem_insert member with rfl | old
    · exact Or.inr rfl
    · exact Or.inl old
  · cases left
    exact Or.inl member

theorem uses_of_cloneUrl? (known : Reference.cloneUrl? reference = some url) :
    Uses reference url where
  known := known
  served := by
    intro σ settings pool world memory now store kept document found
    rw [generate_of_retained settings pool world memory known found]
  cloned := by
    intro σ settings pool world memory now store missed
    rcases generate_cases settings pool memory known missed with
      ⟨e, left, failed⟩ | ⟨files, origin, room, done⟩
    · rw [failed]
    · rw [done, room]
      rfl
  kept := by
    intro σ settings pool world memory now store after left entry member
    have fewer := Store.entries_get_sublist store now url
    cases found : (store.get now url).1 with
    | some document =>
      rw [generate_of_retained settings pool world memory known (Prod.ext found rfl)] at left
      cases left
      exact Or.inl (fewer.subset member)
    | none =>
      have missed : ((some store).bind fun s => (s.get now url).1) = none := found
      rcases generate_cases settings pool memory known missed with
        ⟨e, _, failed⟩ | ⟨files, origin, -, done⟩
      · rw [failed] at left
        cases left
        exact Or.inl (fewer.subset member)
      · rw [done] at left
        rcases mem_store_ofSnapshot left member with old | new
        · exact Or.inl (fewer.subset old)
        · exact Or.inr new

theorem Uses.unique {other : Text} (uses : Uses reference url) (uses' : Uses reference other) :
    url = other := by
  have known := uses.known
  rw [uses'.known] at known
  exact (Option.some.inj known).symm

end CodeWiki.Generation
