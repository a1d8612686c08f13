import CodeWiki.Generation.Interleaving
import CodeWiki.Proofs.Generation
import CodeWiki.Proofs.Reference
import CodeWiki.Proofs.Retention
import CodeWiki.Proofs.Schedule.Agreement
import Mathlib.Data.List.Nodup

/-! References to one repository. All that a generation does depends on the clone URL; the reference
and the time only show in the origin of the document. So what is retained under the URL is what any
other reference with that URL would have brought about. What the runtime reports of a crash may
differ from one generation to the next; it shows in the section of the crashed task and nowhere
else, and never in what is retained. -/
namespace CodeWiki

/-- The same document for another reference and at another time. -/
def Document.reissue (reference time : Text) (document : Document) : Document :=
  { document with origin := document.origin.reissue reference time }

namespace Generation

open Interleaving (describe)
open Schedule.Interleaving (Call Complete Follows SameButReports repliesTo)

variable {σ τ : Type} {settings : Settings} {pool : KeyPool} {origin : Origin} {files : Snapshot}
  {reference reference' url : Text} {f f' : Prompt → Credential → Nat → Reply} {world : World σ}
  {world' : World τ} {memory : σ} {memory' : τ} {store store' : Option (Store Document)}
  {now now' : Nat}

/-- The raw reference stands in for an empty short name only. -/
theorem overview_of_named {slug : Text} (named : slug ≠ []) (settings : GroupingSettings)
    (reference reference' : Text) (files : Snapshot) (modules : List Text) :
    OverviewBrief.ofSnapshot settings slug reference files modules =
      OverviewBrief.ofSnapshot settings slug reference' files modules := by
  have occupied : slug.isEmpty = false := List.isEmpty_eq_false_iff.mpr named
  unfold OverviewBrief.ofSnapshot
  rw [occupied]
  rfl

theorem tasks_reissue (settings : Settings) (pool : KeyPool) (files : Snapshot)
    (named : origin.slug ≠ []) (reference time : Text) :
    tasks settings pool (origin.reissue reference time) files =
      tasks settings pool origin files :=
  congrArg (Task.ofWiki pool · _) (overview_of_named named _ _ _ _ _)

theorem subject_ofWiki (pool : KeyPool) (overview : OverviewBrief) (briefs : List Brief) :
    (Task.ofWiki pool overview briefs).map Task.subject =
      .overview :: briefs.map fun brief => .module brief.module := by
  have modules : (Task.ofBriefs pool briefs).map Task.subject =
      (briefs.zipIdx.map Prod.fst).map fun brief => .module brief.module := by
    rw [Task.ofBriefs, List.map_map, List.map_map]
    rfl
  rw [List.zipIdx_map_fst] at modules
  rw [Task.ofWiki, List.map_cons, modules]
  rfl

/-- No two tasks are for the same subject. -/
theorem nodup_tasks (settings : Settings) (pool : KeyPool) (origin : Origin) (files : Snapshot) :
    (tasks settings pool origin files).Nodup := by
  obtain ⟨overview, same⟩ := tasks_eq settings pool origin files
  have distinct := (SourceModule.partitions_modules settings.grouping files).distinct
  rw [same]
  apply List.Nodup.of_map Task.subject
  rw [subject_ofWiki, List.map_map, List.nodup_cons]
  constructor
  · simp
  · have modules := distinct.map (f := Subject.module) fun a b same => by injection same
    rwa [List.map_map] at modules

/-- The same result for another reference and at another time, but for what is reported of
crashes. -/
inductive AlikeResults (settings : Settings) (pool : KeyPool) (reference' time' : Text) :
    Except GenerationError Document → Except GenerationError Document → Prop where
  | failed {e} : AlikeResults settings pool reference' time' (.error e) (.error e)
  | described {origin files outcomes outcomes'} :
      SameButReports (tasks settings pool origin files) outcomes outcomes' →
      AlikeResults settings pool reference' time'
        (.ok (describe settings pool origin files outcomes))
        (.ok ((describe settings pool origin files outcomes').reissue reference' time'))

/-- A generation for one reference beside a generation for another with the same clone URL, with
replies `f` and `f'`. -/
structure Alike (settings : Settings) (pool : KeyPool) (url reference' time' : Text)
    (refusal : Option Text) (f f' : Prompt → Credential → Nat → Reply) (g : Generation σ)
    (g' : Generation τ) : Prop where
  cloned : g.cloned = if refusal.isSome then none else some url
  cloned' : g'.cloned = if refusal.isSome then none else some url
  calls : (g.calls.map Schedule.CallRecord.task).Perm (g'.calls.map Schedule.CallRecord.task)
  result : AlikeResults settings pool reference' time' g.result g'.result
  equal : f = f' → g'.result = g.result.map (Document.reissue reference' time')
  /-- What is retained has come of no crash. -/
  retained : ∀ (after : Store Document) (entry : Retained Document), g.store = some after →
    entry ∈ after.entries → entry.key = url →
    g.result = .ok entry.value ∧ g'.result = .ok (entry.value.reissue reference' time')

/-- What has been read for one reference is as good for another: the files and the tasks are the
same, and in any two orders of them the tasks come to the same calls and the same document, but for
what is reported of crashes. -/
structure Transfers (settings : Settings) (pool : KeyPool) (checkout : Checkout)
    (url reference' time' : Text) (files : Snapshot) (origin : Origin) : Prop where
  read : Checkout.read settings.checkout time' reference' url checkout =
    .ok (files, origin.reissue reference' time')
  sameTasks : tasks settings pool (origin.reissue reference' time') files =
    tasks settings pool origin files
  documents : ∀ outcomes : List Outcome,
    describe settings pool (origin.reissue reference' time') files outcomes =
      (describe settings pool origin files outcomes).reissue reference' time'
  orders : ∀ (f f' : Prompt → Credential → Nat → Reply)
    (trace trace' : List Schedule.Interleaving.Event)
    (final final' : Schedule.Interleaving.State) (outcomes outcomes' : List Outcome),
    (∀ prompt key n, (f prompt key n).SameButReport (f' prompt key n)) →
    Complete settings.schedule pool.size (tasks settings pool origin files) trace final →
    Follows (repliesTo f (tasks settings pool origin files)) trace → final.Returns outcomes →
    Complete settings.schedule pool.size
      (tasks settings pool (origin.reissue reference' time') files) trace' final' →
    Follows (repliesTo f' (tasks settings pool (origin.reissue reference' time') files)) trace' →
    final'.Returns outcomes' →
    ((Schedule.Interleaving.calls trace).map Call.question).Perm
      ((Schedule.Interleaving.calls trace').map Call.question) ∧
    SameButReports (tasks settings pool origin files) outcomes outcomes' ∧
    (f = f' → outcomes = outcomes')

theorem transfers_of_read {checkout : Checkout} {time : Text} (settings : Settings) (pool : KeyPool)
    (reference' time' : Text) (known : Reference.cloneUrl? reference = some url)
    (read : Checkout.read settings.checkout time reference url checkout = .ok (files, origin)) :
    Transfers settings pool checkout url reference' time' files origin := by
  have named : origin.slug ≠ [] := by
    rw [Checkout.origin_of_read read]
    exact Reference.slug_ne_nil known
  have same := tasks_reissue settings pool files named reference' time'
  refine ⟨?_, same, fun outcomes => ?_, ?_⟩
  · rw [Checkout.read_again settings.checkout time reference, read]
    rfl
  · rw [describe, same]
    rfl
  · intro f f' trace trace' final final' outcomes outcomes' alike complete follows returns complete'
      follows' returns'
    rw [same] at complete' follows'
    exact complete.agree (nodup_tasks settings pool origin files) alike follows returns complete'
      follows' returns'

/-- The store after a generation that has found nothing holds the URL only if all tasks have
succeeded. -/
theorem retained_ofSnapshot {pool : KeyPool} {fetched : Checkout.Fetched} {after : Store Document}
    {entry : Retained Document} (missed : (store.bind fun s => (s.get now url).1) = none)
    (kept : (ofSnapshot settings pool world (store.map fun s => (s.get now url).2) now url fetched
      origin files memory).store = some after)
    (member : entry ∈ after.entries) (key : entry.key = url) :
    (Schedule.run settings.schedule pool.size world.provider (tasks settings pool origin files)
      memory).outcomes.all (·.verdict = .succeeded) = true ∧
    entry.value = describe settings pool origin files (Schedule.run settings.schedule pool.size
      world.provider (tasks settings pool origin files) memory).outcomes := by
  obtain ⟨before, rfl⟩ : ∃ before, store = some before := by
    cases store with
    | none => simp [ofSnapshot] at kept
    | some before => exact ⟨before, rfl⟩
  have gone := Store.key_ne_of_missed missed
  simp only [ofSnapshot, Option.map_some] at kept
  split at kept
  · rename_i succeeded
    obtain rfl := Option.some.inj kept
    rcases Store.mem_insert member with rfl | old
    · exact ⟨succeeded, rfl⟩
    · exact absurd key (gone entry old)
  · obtain rfl := Option.some.inj kept
    exact absurd key (gone entry member)

/-- Two generations that come to one error, and leave nothing of the URL. -/
theorem alike_of_failed {refusal : Option Text} {e : GenerationError} {cloned : Option Text}
    {kept kept' : Option (Store Document)} {left left' : Occupant} (settings : Settings)
    (pool : KeyPool) (reference' time' : Text)
    (own : cloned = if refusal.isSome then none else some url)
    (gone : ∀ (after : Store Document) (entry : Retained Document), kept = some after →
      entry ∈ after.entries → entry.key ≠ url) :
    Alike settings pool url reference' time' refusal f f'
      ⟨.error e, kept, cloned, [], left, memory⟩ ⟨.error e, kept', cloned, [], left', memory'⟩ where
  cloned := own
  cloned' := own
  calls := List.Perm.refl _
  result := .failed
  equal _ := rfl
  retained after entry left member key := absurd key (gone after entry left member)

/-- Two generations for what has been read for one reference, and is read again for the other. -/
theorem alike_of_read (settings : Settings) (pool : KeyPool)
    (known : Reference.cloneUrl? reference = some url)
    (alike : ∀ prompt key n, (f prompt key n).SameButReport (f' prompt key n))
    (replies : world.provider.RepliesBy f memory) (replies' : world'.provider.RepliesBy f' memory')
    (missed : (store.bind fun s => (s.get now url).1) = none)
    (read : Checkout.read settings.checkout world.time reference url (world.fetcher url) =
      .ok (files, origin)) :
    Alike settings pool url reference' world'.time none f f'
      (ofSnapshot settings pool world (store.map fun s => (s.get now url).2) now url
        (fetched settings world reference url) origin files memory)
      (ofSnapshot settings pool world' (store'.map fun s => (s.get now' url).2) now' url
        (fetched settings world' reference' url) (origin.reissue reference' world'.time) files
        memory') := by
  obtain ⟨-, same, documents, -⟩ :=
    transfers_of_read settings pool reference' world'.time known read
  have slots : 0 < pool.size := pool.nonempty
  obtain ⟨calls, outcomes, equal⟩ := Schedule.run_agrees settings.schedule slots
    (nodup_tasks settings pool origin files) alike replies replies'
  have result' : (ofSnapshot settings pool world' (store'.map fun s => (s.get now' url).2) now' url
      (fetched settings world' reference' url) (origin.reissue reference' world'.time) files
      memory').result = .ok ((describe settings pool origin files
        (Schedule.run settings.schedule pool.size world'.provider
          (tasks settings pool origin files) memory').outcomes).reissue reference'
            world'.time) := by
    rw [← documents, ← same]
    rfl
  refine ⟨rfl, rfl, ?_, ?_, ?_, ?_⟩
  · rw [ofSnapshot, ofSnapshot, same]
    exact calls
  · rw [result']
    exact .described outcomes
  · intro replied
    rw [result', ← equal replied]
    rfl
  · intro after entry kept member key
    obtain ⟨succeeded, value⟩ := retained_ofSnapshot missed kept member key
    have undisturbed := outcomes.eq_of_succeeded succeeded
    refine ⟨congrArg Except.ok value.symm, ?_⟩
    rw [result', value, undisturbed]

theorem alike_of_same_url (settings : Settings) (pool : KeyPool)
    (known : Reference.cloneUrl? reference = some url)
    (known' : Reference.cloneUrl? reference' = some url)
    (alike : ∀ prompt key n, (f prompt key n).SameButReport (f' prompt key n))
    (fetcher : world.fetcher url = world'.fetcher url)
    (refusal : world.scratch.refusal = world'.scratch.refusal)
    (replies : world.provider.RepliesBy f memory) (replies' : world'.provider.RepliesBy f' memory')
    (missed : (store.bind fun s => (s.get now url).1) = none)
    (missed' : (store'.bind fun s => (s.get now' url).1) = none) :
    Alike settings pool url reference' world'.time world.scratch.refusal f f'
      (generate settings pool world store now reference memory)
      (generate settings pool world' store' now' reference' memory') := by
  have gone : ∀ (after : Store Document) (entry : Retained Document),
      (store.map fun s => (s.get now url).2) = some after → entry ∈ after.entries →
      entry.key ≠ url := by
    intro after entry left member
    obtain ⟨before, rfl, rfl⟩ := Option.map_eq_some_iff.mp left
    exact Store.key_ne_of_missed missed entry member
  cases room : world.scratch.refusal with
  | some reason =>
    rw [generate_of_refused pool memory known missed room,
      generate_of_refused pool memory' known' missed' (refusal.symm.trans room)]
    exact alike_of_failed settings pool reference' world'.time rfl gone
  | none =>
    have room' := refusal.symm.trans room
    have again := Checkout.read_again settings.checkout world.time reference world'.time
      reference' url (world.fetcher url)
    cases read : Checkout.read settings.checkout world.time reference url (world.fetcher url) with
    | error e =>
      rw [read, fetcher] at again
      rw [generate_of_unread pool memory known missed room read,
        generate_of_unread pool memory' known' missed' room' again]
      exact alike_of_failed settings pool reference' world'.time rfl gone
    | ok result =>
      obtain ⟨files, origin⟩ := result
      rw [read, fetcher] at again
      rw [generate_of_read pool memory known missed room read,
        generate_of_read pool memory' known' missed' room' again]
      exact alike_of_read settings pool known alike replies replies' missed read

/-- A reference to a repository could be any other one with its clone URL: the same URL is cloned,
the tasks are the same, in every order of them they come to the same document, and so does a
generation, but for the reference and the time. What is served from the store is that document as
well. Only what the runtime reports of a crash need not be the same; where it is not, the texts of
crashed tasks differ by it. -/
theorem same_url_same_wiki (settings : Settings) (pool : KeyPool) {reference reference' url : Text}
    (known : Reference.cloneUrl? reference = some url)
    (known' : Reference.cloneUrl? reference' = some url) :
    (Reference.slug url ≠ [] ∧ ∀ (raw raw' : Text) (files : Snapshot) (modules : List Text),
      OverviewBrief.ofSnapshot settings.grouping (Reference.slug url) raw files modules =
        OverviewBrief.ofSnapshot settings.grouping (Reference.slug url) raw' files modules) ∧
    (∀ (checkout : Checkout) (time time' : Text) (files : Snapshot) (origin : Origin),
      Checkout.read settings.checkout time reference url checkout = .ok (files, origin) →
      Transfers settings pool checkout url reference' time' files origin) ∧
    ∀ (σ τ : Type) (world : World σ) (world' : World τ) (memory : σ) (memory' : τ)
      (store store' : Option (Store Document)) (now now' : Nat)
      (f f' : Prompt → Credential → Nat → Reply),
      (∀ prompt key n, (f prompt key n).SameButReport (f' prompt key n)) →
      world.fetcher url = world'.fetcher url →
      world.scratch.refusal = world'.scratch.refusal →
      world.provider.RepliesBy f memory → world'.provider.RepliesBy f' memory' →
      (store.bind fun s => (s.get now url).1) = none →
      (store'.bind fun s => (s.get now' url).1) = none →
      Alike settings pool url reference' world'.time world.scratch.refusal f f'
        (generate settings pool world store now reference memory)
        (generate settings pool world' store' now' reference' memory') ∧
      ∀ (retained kept : Store Document) (later : Nat) (document : Document),
        retained.get later url = (some document, kept) →
        (generate settings pool world store now reference memory).result = .ok document →
        generate settings pool world' (some retained) later reference' memory' =
          ⟨.ok (retarget reference' document), some kept, none, [], .nothing, memory'⟩ ∧
        ((f = f' ∨ ∃ after entry,
            (generate settings pool world store now reference memory).store = some after ∧
            entry ∈ after.entries ∧ entry.key = url) →
          (generate settings pool world' store' now' reference' memory').result =
            .ok ((retarget reference' document).reissue reference' world'.time)) := by
  have named := Reference.slug_ne_nil known
  refine ⟨⟨named, overview_of_named named settings.grouping⟩, ?_, ?_⟩
  · intro checkout time time' files origin read
    exact transfers_of_read settings pool reference' time' known read
  · intro σ τ world world' memory memory' store store' now now' f f' reported fetcher refusal
      replies replies' missed missed'
    have alike := alike_of_same_url settings pool known known' reported fetcher refusal replies
      replies' missed missed'
    refine ⟨alike, ?_⟩
    intro retained kept later document found made
    refine ⟨generate_of_retained settings pool world' memory' known' found, ?_⟩
    rintro (replied | ⟨after, entry, left, member, key⟩)
    · rw [alike.equal replied, made]
      rfl
    · obtain ⟨result, result'⟩ := alike.retained after entry left member key
      obtain rfl : document = entry.value := Except.ok.inj (made.symm.trans result)
      rw [result']
      rfl

/-- A provider that throttles the first attempt of each task. It remembers the tasks it has been
asked. -/
def throttlingOnce (latencyMs : Nat) : Schedule.Provider (List Task) where
  call task asked :=
    (⟨if asked.count task = 0 then .failure (.rateLimited none) else .text "Fine.", latencyMs⟩,
      task :: asked)

theorem throttlingOnce_repliesBy (latencyMs : Nat) :
    (throttlingOnce latencyMs).RepliesBy
      (fun _ _ n => if n = 1 then .failure (.rateLimited none) else .text "Fine.") [] := by
  have remembers : ∀ asked memory,
      ((throttlingOnce latencyMs).answerAll memory asked).2 = asked.reverse ++ memory := by
    intro asked
    induction asked with
    | nil => intro memory; rfl
    | cons task asked ih =>
      intro memory
      rw [List.reverse_cons, List.append_assoc]
      exact ih (task :: memory)
  intro asked task
  rw [remembers, List.append_nil]
  simp only [throttlingOnce, List.count_reverse, Nat.add_eq_right]

/-- Two spellings, two providers: one wiki. -/
theorem two_spellings_one_wiki : ∃ document,
    (generate {} ⟨[⟨"gsk_one"⟩], Nat.zero_lt_one⟩
      ⟨"now", fun _ => .single, {}, throttlingOnce 5⟩ none 0 "o/r" []).result = .ok document ∧
    (generate {} ⟨[⟨"gsk_one"⟩], Nat.zero_lt_one⟩
      ⟨"later", fun _ => .single, {}, throttlingOnce 0⟩ none 7
        "https://github.com/o/r/" []).result =
        .ok (document.reissue "https://github.com/o/r/" "later") := by
  have known : Reference.cloneUrl? "o/r" = some "https://github.com/o/r.git" := by decide
  have known' : Reference.cloneUrl? "https://github.com/o/r/" =
      some "https://github.com/o/r.git" := by decide +kernel
  let pool : KeyPool := ⟨[⟨"gsk_one"⟩], Nat.zero_lt_one⟩
  let world : World (List Task) := ⟨"now", fun _ => .single, {}, throttlingOnce 5⟩
  let world' : World (List Task) := ⟨"later", fun _ => .single, {}, throttlingOnce 0⟩
  obtain ⟨-, -, alike⟩ := same_url_same_wiki {} pool known known'
  obtain ⟨alike, -⟩ := alike _ _ world world' [] [] none none 0 7 _ _ (fun _ _ _ => .same) rfl rfl
    (throttlingOnce_repliesBy 5) (throttlingOnce_repliesBy 0) rfl rfl
  have result : ∃ document, (generate {} pool world none 0 "o/r" []).result = .ok document := by
    rw [generate_of_read pool [] known rfl rfl
      (Checkout.read_single "now" "o/r" "https://github.com/o/r.git")]
    exact ⟨_, rfl⟩
  obtain ⟨document, made⟩ := result
  refine ⟨document, made, ?_⟩
  rw [alike.equal rfl, made]
  rfl

end Generation
end CodeWiki
