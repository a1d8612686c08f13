import CodeWiki.Proofs.Checkout
import CodeWiki.Proofs.Generation.Paths
import CodeWiki.Proofs.Schedule.EveryOrder
import CodeWiki.Proofs.Section.Identifier
import CodeWiki.Proofs.SourceModule.Partition

/-! A document describes the snapshot it was made from: the overview first, then one section for
each module. The modules keep their places on the way through the briefs, the tasks and the
outcomes, since none of them is empty and since each task has one outcome. -/
namespace CodeWiki.Generation

open Schedule.Interleaving (Complete)

theorem replies_of_briefs (pool : KeyPool) (briefs : List Brief) (outcomes : List Outcome) :
    ((Task.ofBriefs pool briefs).zip outcomes).filterMap (fun (task, outcome) =>
      match task.subject with
      | .overview => none
      | .module name => some (name, outcome.text)) =
      (briefs.zip outcomes).map fun (brief, outcome) => (brief.module, outcome.text) := by
  unfold Task.ofBriefs
  generalize 0 = first
  induction briefs generalizing outcomes first with
  | nil => rfl
  | cons brief rest ih =>
    cases outcomes with
    | nil => rfl
    | cons outcome outcomes =>
      simp only [List.zipIdx_cons, List.map_cons, List.zip_cons_cons, List.filterMap_cons, ih]

theorem sections_ofWiki (pool : KeyPool) (overview : OverviewBrief) (briefs : List Brief)
    (first : Outcome) (outcomes : List Outcome) :
    sections (Task.ofWiki pool overview briefs) (first :: outcomes) =
      WikiSection.assemble first.text
        ((briefs.zip outcomes).map fun (brief, outcome) => (brief.module, outcome.text)) := by
  rw [← replies_of_briefs pool]
  rfl

theorem briefs_of_inhabited (settings : GroupingSettings) (excerpts : ExcerptSettings)
    {modules : List SourceModule} (inhabited : ∀ m ∈ modules, m.files.entries ≠ []) :
    Brief.ofModules settings excerpts modules = modules.map (Brief.ofModule settings excerpts) := by
  have all : modules.filter (fun m => m.files.size != 0) = modules := by
    rw [List.filter_eq_self]
    intro m member
    simpa [Snapshot.size] using inhabited m member
  rw [Brief.ofModules, all]

theorem getElem?_replies {settings : GroupingSettings} {excerpts : ExcerptSettings}
    {modules : List SourceModule} {outcomes : List Outcome} {i : Nat} {m : SourceModule}
    {outcome : Outcome} (here : modules[i]? = some m) (there : outcomes[i]? = some outcome) :
    (((modules.map (Brief.ofModule settings excerpts)).zip outcomes).map
      fun (brief, outcome) => (brief.module, outcome.text))[i]? = some (m.name, outcome.text) := by
  have brief : (modules.map (Brief.ofModule settings excerpts))[i]? =
      some (Brief.ofModule settings excerpts m) := by
    rw [List.getElem?_map, here, Option.map_some]
  have pair : ((modules.map (Brief.ofModule settings excerpts)).zip outcomes)[i]? =
      some (Brief.ofModule settings excerpts m, outcome) :=
    List.getElem?_zip_eq_some.mpr ⟨brief, there⟩
  rw [List.getElem?_map, pair, Option.map_some]
  rfl

/-- The document has the files of the snapshot, the overview, and a section for each module with
what the outcome of its task says. -/
structure Describes (files : Snapshot) (modules : List SourceModule) (outcomes : List Outcome)
    (document : Document) : Prop where
  kept : document.files = files
  counted : document.origin.fileCount = files.size
  length : document.sections.length = 1 + modules.length
  overview : ∃ outcome, outcomes[0]? = some outcome ∧
    document.sections[0]? = some (.ofOverview outcome.text)
  described : ∀ (i : Nat) (m : SourceModule), modules[i]? = some m →
    ∃ outcome s, outcomes[i + 1]? = some outcome ∧ document.sections[i + 1]? = some s ∧
      s.withoutIds = (WikiSection.ofReply m.name outcome.text).withoutIds
  represented : ∀ path content, files.get? path = some content →
    ∃ (i : Nat) (m : SourceModule) (s : WikiSection), document.sections[i + 1]? = some s ∧
      modules[i]? = some m ∧ m.files.get? path = some content ∧
      ∀ (j : Nat) (m' : SourceModule), modules[j]? = some m' → path ∈ m'.files.paths → j = i

variable {settings : Settings} {pool : KeyPool} {origin : Origin} {files : Snapshot}
  {outcomes : List Outcome}

/-- No module is without a task. -/
theorem tasks_eq (settings : Settings) (pool : KeyPool) (origin : Origin) (files : Snapshot) :
    ∃ overview, tasks settings pool origin files = Task.ofWiki pool overview
      ((SourceModule.ofSnapshot settings.grouping files).map
        (Brief.ofModule settings.grouping settings.excerpt)) := by
  have all := briefs_of_inhabited settings.grouping settings.excerpt
    (SourceModule.partitions_modules settings.grouping files).inhabited
  rw [← all]
  exact ⟨_, rfl⟩

theorem describes_of_length (count : origin.fileCount = files.size)
    (length : outcomes.length = (tasks settings pool origin files).length) :
    Describes files (SourceModule.ofSnapshot settings.grouping files) outcomes
      ⟨origin, sections (tasks settings pool origin files) outcomes, files⟩ := by
  have partitions := SourceModule.partitions_modules settings.grouping files
  obtain ⟨overview, same⟩ := tasks_eq settings pool origin files
  rw [same] at length ⊢
  generalize SourceModule.ofSnapshot settings.grouping files = modules at *
  cases outcomes with
  | nil => simp [Task.ofWiki] at length
  | cons first rest =>
    have aligned : rest.length = modules.length := by
      simpa [Schedule.Interleaving.length_ofWiki] using length
    have given : ∀ (i : Nat) (m : SourceModule), modules[i]? = some m →
        ∃ outcome, rest[i]? = some outcome := by
      intro i m here
      obtain ⟨bound, -⟩ := List.getElem?_eq_some_iff.mp here
      exact ⟨_, List.getElem?_eq_getElem (aligned ▸ bound)⟩
    rw [sections_ofWiki]
    refine ⟨rfl, count, ?_, ⟨first, rfl, WikiSection.assemble_overview _ _⟩, ?_, ?_⟩
    · rw [WikiSection.length_assemble]
      simp [aligned, Nat.add_comm]
    · intro i m here
      obtain ⟨outcome, there⟩ := given i m here
      obtain ⟨s, placed, same⟩ := WikiSection.assemble_module (getElem?_replies here there)
      exact ⟨outcome, s, there, placed, same⟩
    · intro path content found
      obtain ⟨i, m, here, inside, only⟩ := partitions.exists_unique found
      obtain ⟨outcome, there⟩ := given i m here
      obtain ⟨s, placed, -⟩ := WikiSection.assemble_module (getElem?_replies here there)
      exact ⟨i, m, s, placed, here, inside, only⟩

theorem fetched_of_ok {checkout : CheckoutSettings} {time reference : Text} {fetcher : Fetcher}
    {around : Scratch.Surroundings}
    (fetched : (Checkout.fetch checkout time fetcher around reference).outcome =
      .ok (files, origin)) :
    ∃ url, Reference.cloneUrl? reference = some url ∧ around.refusal = none ∧
      Checkout.read checkout time reference url (fetcher url) = .ok (files, origin) := by
  cases known : Reference.cloneUrl? reference with
  | none =>
    rw [Checkout.fetch_of_unknown _ _ _ _ known] at fetched
    cases fetched
  | some url =>
    cases room : around.refusal with
    | some reason =>
      rw [Checkout.fetch_of_refused _ _ _ known room] at fetched
      cases fetched
    | none =>
      rw [Checkout.fetch_of_admitted _ _ _ known room] at fetched
      exact ⟨url, rfl, rfl, fetched⟩

theorem generate_of_uncached {σ : Type} {world : World σ} {store : Option (Store Document)}
    {now : Nat} {reference url : Text} (pool : KeyPool) (memory : σ)
    (known : Reference.cloneUrl? reference = some url)
    (uncached : ∀ retained, store = some retained → (retained.get now url).1 = none)
    (admitted : world.scratch.refusal = none)
    (read : Checkout.read settings.checkout world.time reference url (world.fetcher url) =
      .ok (files, origin)) :
    (generate settings pool world store now reference memory).result =
      .ok ⟨origin, sections (tasks settings pool origin files)
        (Schedule.run settings.schedule pool.size world.provider
          (tasks settings pool origin files) memory).outcomes, files⟩ := by
  have missed : (store.bind fun retained => (retained.get now url).1) = none := by
    cases store with
    | none => rfl
    | some retained => exact uncached retained rfl
  rw [generate_of_read pool memory known missed admitted read]
  rfl

theorem Describes.ofComplete {trace : List Schedule.Interleaving.Event}
    {final : Schedule.Interleaving.State}
    (complete : Complete settings.schedule pool.size (tasks settings pool origin files) trace final)
    (returns : final.Returns outcomes) (count : origin.fileCount = files.size) :
    Describes files (SourceModule.ofSnapshot settings.grouping files) outcomes
      ⟨origin, sections (tasks settings pool origin files) outcomes, files⟩ := by
  apply describes_of_length count
  rw [Schedule.Interleaving.Returns.length returns, complete.run.aligned]

/-- Whatever becomes of the tasks, a repository that is fetched because nothing is retained for it
comes out as a document that describes it. Any other order of the tasks would lead to such a
document too. -/
theorem generate_describes {σ : Type} (settings : Settings) (pool : KeyPool) (world : World σ)
    (store : Option (Store Document)) (now : Nat) (reference : Text) (memory : σ)
    {files : Snapshot} {origin : Origin}
    (fetched : (Checkout.fetch settings.checkout world.time world.fetcher world.scratch
      reference).outcome = .ok (files, origin))
    (uncached : ∀ url retained, Reference.cloneUrl? reference = some url → store = some retained →
      (retained.get now url).1 = none) :
    ∃ run document, run = Schedule.run settings.schedule pool.size world.provider
        (tasks settings pool origin files) memory ∧
      (generate settings pool world store now reference memory).result = .ok document ∧
      Describes files (SourceModule.ofSnapshot settings.grouping files) run.outcomes document ∧
      (∃ replies trace final, Schedule.Realizes settings.schedule pool.size world.provider
        (tasks settings pool origin files) memory run replies trace final) ∧
      ∀ trace final, Complete settings.schedule pool.size (tasks settings pool origin files) trace
          final →
        ∃ outcomes, final.Returns outcomes ∧
          Describes files (SourceModule.ofSnapshot settings.grouping files) outcomes
            { document with sections := sections (tasks settings pool origin files) outcomes } := by
  obtain ⟨url, known, admitted, read⟩ := fetched_of_ok fetched
  have count : origin.fileCount = files.size := by rw [Checkout.origin_of_read read]
  have result := generate_of_uncached pool memory known
    (fun retained => uncached url retained known) admitted read
  obtain ⟨replies, trace, final, realizes⟩ := Schedule.run_realizes settings.schedule
    pool.nonempty world.provider (tasks settings pool origin files) memory
  refine ⟨_, _, rfl, result, .ofComplete realizes.complete realizes.returns count,
    ⟨replies, trace, final, realizes⟩, ?_⟩
  intro trace final complete
  obtain ⟨outcomes, returns⟩ := complete.returns pool.nonempty
  exact ⟨outcomes, returns, .ofComplete complete returns count⟩

/-- A module whose call crashes has a section all the same. -/
theorem crashed_module_has_section : ∃ document,
    (generate {} ⟨[⟨"gsk_one"⟩], Nat.zero_lt_one⟩
      ⟨"now", fun _ => .single, {}, ⟨fun _ memory => (⟨.crash "boom", 5⟩, memory)⟩⟩ none 0 "o/r"
      ()).result = .ok document ∧
    document.files = Snapshot.ofList [("a.py", "x")] ∧ document.origin.fileCount = 1 ∧
    document.sections.length = 2 := by
  have known : Reference.cloneUrl? "o/r" = some "https://github.com/o/r.git" := by decide
  have fetched : (Checkout.fetch {} "now" (fun _ => .single) {} "o/r").outcome =
      .ok (Snapshot.ofList [("a.py", "x")],
        ⟨"o/r", Reference.slug "https://github.com/o/r.git", none, "now", 1⟩) := by
    rw [Checkout.fetch_of_admitted _ _ _ known rfl]
    exact Checkout.read_single _ _ _
  obtain ⟨run, document, -, result, describes, -, -⟩ := generate_describes {}
    ⟨[⟨"gsk_one"⟩], Nat.zero_lt_one⟩
    ⟨"now", fun _ => .single, {}, ⟨fun _ memory => (⟨.crash "boom", 5⟩, memory)⟩⟩ none 0 "o/r" ()
    fetched (by intro url retained _ given; cases given)
  have single : (SourceModule.ofSnapshot {} (Snapshot.ofList [("a.py", "x")])).length = 1 := by
    decide
  refine ⟨document, result, describes.kept, ?_, ?_⟩
  · rw [describes.counted]
    decide
  · rw [describes.length]
    exact congrArg (1 + ·) single

end CodeWiki.Generation
