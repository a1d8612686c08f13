import CodeWiki.Proofs.Generation.Paths
import CodeWiki.Proofs.Generation.Retained
import CodeWiki.Proofs.Schedule.Refinement

/-! A generation that nothing comes in between. `Generation.generate` is a run of one request that
begins and ends while all others stand still, with the same clone, the same calls and the same
store. -/
namespace CodeWiki.Generation.Interleaving

open Schedule (nanos)

variable {σ : Type} {settings : Settings} {pool : KeyPool} {s t u : State} {trace : List Event}
  {now : Nat} {store : Store Document} {reference url : Text} {phase : Phase} {origin : Origin}
  {files : Snapshot}

def Happening.cloned? : Happening → Option Text
  | cloned url => some url
  | _ => none

def Happening.worked? : Happening → Option Schedule.Interleaving.Event
  | worked event => some event
  | _ => none

def clones (past : List Happening) : List Text := past.filterMap Happening.cloned?

def calls (past : List Happening) : List Schedule.Interleaving.Call :=
  Schedule.Interleaving.calls (past.filterMap Happening.worked?)

/-- The state with one more request. -/
def State.beside (s : State) (now : Nat) (store : Store Document) (reference : Text)
    (phase : Phase) : State :=
  ⟨now, store, s.requests ++ [⟨reference, phase⟩]⟩

theorem State.getElem?_beside (s : State) (now : Nat) (store : Store Document) (reference : Text)
    (phase : Phase) :
    (s.beside now store reference phase).requests[s.requests.length]? =
      some ⟨reference, phase⟩ := by
  simp [beside]

theorem State.set_beside (s : State) (now now' : Nat) (store store' : Store Document)
    (reference : Text) (phase phase' : Phase) :
    ⟨now', store', (s.beside now store reference phase).requests.set s.requests.length
      ⟨reference, phase'⟩⟩ = s.beside now' store' reference phase' := by
  simp [beside]

/-- What happens to the next request, all at one time. -/
def State.events (s : State) (now : Nat) (past : List Happening) : List Event :=
  past.map (⟨now, s.requests.length, ·⟩)

/-- One generation with its steps one after another, and what it comes to. -/
structure Realizes (settings : Settings) (pool : KeyPool) (s : State) (now : Nat) (reference : Text)
    (g : Generation σ) (past : List Happening) (t : State) : Prop where
  run : Run settings pool s (s.events now past) t
  time : t.now = now
  store : g.store = some t.store
  requests : t.requests = s.requests ++ [⟨reference, .answered g.result⟩]
  clones : clones past = g.cloned.toList
  calls : g.calls.map (fun c => (nanos c.atMs, c.task)) =
    (calls past).map fun c => (c.time, c.question)

/-- The next thing that happens to the last request. -/
theorem Run.next {past : List Happening} {what : Happening} {store' : Store Document}
    {phase' : Phase}
    (run : Run settings pool s (s.events now past) (s.beside now store reference phase))
    (step : Step settings pool (s.beside now store reference phase)
      ⟨now, s.requests.length, what⟩
      ⟨now, store', (s.beside now store reference phase).requests.set s.requests.length
        ⟨reference, phase'⟩⟩) :
    Run settings pool s (s.events now (past ++ [what])) (s.beside now store' reference phase') := by
  rw [State.set_beside] at step
  simpa only [State.events, List.map_append, List.map_cons, List.map_nil] using run.snoc step

theorem Run.asked (settings : Settings) (pool : KeyPool) (reference : Text) (later : s.now ≤ now) :
    Run settings pool s (s.events now [.asked reference])
      (s.beside now s.store reference .asked) :=
  Run.nil.snoc (.ask reference later)

theorem Run.missed {kept : Store Document} (settings : Settings) (pool : KeyPool)
    (later : s.now ≤ now) (known : Reference.cloneUrl? reference = some url)
    (missed : s.store.get now url = (none, kept)) :
    Run settings pool s (s.events now [.asked reference, .missed url])
      (s.beside now kept reference (.fetching url)) :=
  (Run.asked settings pool reference later).next
    (.miss (Nat.le_refl now) (s.getElem?_beside _ _ _ _) known missed)

theorem Run.opened {kept : Store Document}
    (fetching : Run settings pool s (s.events now [.asked reference, .missed url])
      (s.beside now kept reference (.fetching url))) (checkout : Checkout) (clock : Text) :
    Run settings pool s (s.events now (opening reference url))
      (s.beside now kept reference (.afterClone settings pool url
        (Checkout.read settings.checkout clock reference url checkout))) :=
  fetching.next (.clone checkout clock (Nat.le_refl now) (s.getElem?_beside _ _ _ _))

/-- The tasks go on while the requests stand still. -/
theorem Run.working {past : List Happening} {begun final : Schedule.Interleaving.State}
    {work : List Schedule.Interleaving.Event}
    (run : Run settings pool s (s.events now past)
      (s.beside now store reference (.describing url origin files begun)))
    (tasks : Schedule.Interleaving.Run settings.schedule (tasks settings pool origin files) begun
      work final) :
    Run settings pool s (s.events now (past ++ work.map .worked))
      (s.beside now store reference (.describing url origin files final)) := by
  induction tasks with
  | nil => simpa only [List.map_nil, List.append_nil] using run
  | snoc _ moved ih =>
    rw [List.map_append, ← List.append_assoc]
    exact ih.next (.work (Nat.le_refl now) (s.getElem?_beside _ _ _ _) moved)

theorem Run.finished {past : List Happening} {final : Schedule.Interleaving.State}
    {outcomes : List Outcome}
    (run : Run settings pool s (s.events now past)
      (s.beside now store reference (.describing url origin files final)))
    (returns : final.Returns outcomes) :
    Run settings pool s (s.events now (past ++
        [.finished url outcomes (describe settings pool origin files outcomes)]))
      (s.beside now
        (retain store now url outcomes (describe settings pool origin files outcomes)) reference
        (.answered (.ok (describe settings pool origin files outcomes)))) :=
  run.next (.finish (Nat.le_refl now) (s.getElem?_beside _ _ _ _) returns rfl)

theorem filterMap_cloned?_worked (work : List Schedule.Interleaving.Event) :
    (work.map Happening.worked).filterMap Happening.cloned? = [] := by
  rw [List.filterMap_eq_nil_iff]
  intro what member
  obtain ⟨event, -, rfl⟩ := List.mem_map.mp member
  rfl

theorem filterMap_worked?_worked (work : List Schedule.Interleaving.Event) :
    (work.map Happening.worked).filterMap Happening.worked? = work := by
  rw [List.filterMap_map]
  exact List.filterMap_some

section Finished

variable (reference url : Text) (work : List Schedule.Interleaving.Event) (outcomes : List Outcome)
  (document : Document)

theorem clones_finished :
    clones (opening reference url ++ work.map .worked ++ [.finished url outcomes document]) =
      [url] := by
  simp only [clones, List.filterMap_append, filterMap_cloned?_worked]
  rfl

theorem calls_finished :
    calls (opening reference url ++ work.map .worked ++ [.finished url outcomes document]) =
      Schedule.Interleaving.calls work := by
  have worked : (opening reference url ++ work.map Happening.worked ++
      [Happening.finished url outcomes document]).filterMap Happening.worked? = work := by
    rw [List.filterMap_append, List.filterMap_append, filterMap_worked?_worked]
    exact List.append_nil work
  rw [calls, worked]

end Finished

/-- Where nothing is retained the repository is cloned, and described if that goes well. -/
theorem exists_realizes_of_missed (settings : Settings) (pool : KeyPool) (world : World σ)
    (memory : σ) {kept : Store Document} (later : s.now ≤ now)
    (known : Reference.cloneUrl? reference = some url)
    (found : s.store.get now url = (none, kept)) :
    ∃ past t, Realizes settings pool s now reference
      (generate settings pool world (some s.store) now reference memory) past t := by
  have missed : ((some s.store).bind fun s => (s.get now url).1) = none := by
    rw [Option.bind_some, found]
  have left : ((some s.store).map fun s => (s.get now url).2) = some kept := by
    rw [Option.map_some, found]
  have fetching := Run.missed settings pool later known found
  cases room : world.scratch.refusal with
  | some reason =>
    have blocked := fetching.next (.block reason (Nat.le_refl now) (s.getElem?_beside _ _ _ _))
    rw [generate_of_refused pool memory known missed room, left]
    exact ⟨_, _, blocked, rfl, rfl, rfl, rfl, rfl⟩
  | none =>
    have opened := fetching.opened (world.fetcher url) world.time
    cases read : Checkout.read settings.checkout world.time reference url (world.fetcher url) with
    | error e =>
      rw [read] at opened
      rw [generate_of_unread pool memory known missed room read, left]
      exact ⟨_, _, opened, rfl, rfl, rfl, rfl, rfl⟩
    | ok result =>
      obtain ⟨files, origin⟩ := result
      rw [read] at opened
      rw [generate_of_read pool memory known missed room read, left]
      obtain ⟨replies, work, final, realizes⟩ := Schedule.run_realizes settings.schedule
        pool.nonempty world.provider (tasks settings pool origin files) memory
      have finished := (Run.working opened realizes.complete.run).finished realizes.returns
      refine ⟨_, _, finished, rfl, ?_, rfl, ?_, ?_⟩
      · exact (apply_ite some _ _ _).symm
      · exact clones_finished _ _ _ _ _
      · rw [calls_finished]
        exact realizes.calls

/-- Whatever a generation finds retained, and whatever its clone and its calls come to, its steps
can be taken one after another from where the others stand. -/
theorem exists_realizes (settings : Settings) (pool : KeyPool) (world : World σ) (reference : Text)
    (memory : σ) (later : s.now ≤ now) :
    ∃ past t, Realizes settings pool s now reference
      (generate settings pool world (some s.store) now reference memory) past t := by
  have asked := Run.asked settings pool reference later
  cases known : Reference.cloneUrl? reference with
  | none =>
    have refused := asked.next (.refuse (Nat.le_refl now) (s.getElem?_beside _ _ _ _) known)
    rw [generate_of_unknown settings pool world _ now memory known]
    exact ⟨_, _, refused, rfl, rfl, rfl, rfl, rfl⟩
  | some url =>
    rcases found : s.store.get now url with ⟨_ | document, kept⟩
    · exact exists_realizes_of_missed settings pool world memory later known found
    · have served := asked.next
        (.serve (Nat.le_refl now) (s.getElem?_beside _ _ _ _) known found)
      rw [generate_of_retained settings pool world memory known found]
      exact ⟨_, _, served, rfl, rfl, rfl, rfl, rfl⟩

/-- However generations overlap, only documents whose tasks have all succeeded are retained, under
the URL that was cloned for them, and what is answered has just been made or is such a document with
the reference asked for. Every generation by itself is such a run. -/
theorem retained_documents_sound (settings : Settings) (pool : KeyPool) (lifetime capacity : Nat) :
    (∀ trace s, Run settings pool { store := .empty lifetime capacity } trace s →
      Sound settings pool { store := .empty lifetime capacity } trace s) ∧
    ∀ (σ : Type) (world : World σ) (s : State) (now : Nat) (reference : Text) (memory : σ),
      s.now ≤ now → ∃ past t, Realizes settings pool s now reference
        (generate settings pool world (some s.store) now reference memory) past t := by
  constructor
  · intro trace s run
    exact run.sound
  · intro σ world s now reference memory later
    exact exists_realizes settings pool world reference memory later

/-- The same repository, asked for in two ways. -/
theorem second_spelling_served : ∃ trace s document,
    Run {} ⟨[⟨"gsk_one"⟩], Nat.zero_lt_one⟩ { store := .empty 3600 32 } trace s ∧
    s.requests = [⟨"o/r", .answered (.ok document)⟩,
      ⟨"https://github.com/o/r/", .answered (.ok (retarget "https://github.com/o/r/" document))⟩] ∧
    Sound {} ⟨[⟨"gsk_one"⟩], Nat.zero_lt_one⟩ { store := .empty 3600 32 } trace s := by
  let pool : KeyPool := ⟨[⟨"gsk_one"⟩], Nat.zero_lt_one⟩
  let world : World Unit := {
    time := "now", fetcher := fun _ => .single, scratch := {}
    provider := ⟨fun _ memory => (⟨.text "Fine.", 5⟩, memory)⟩ }
  have known : Reference.cloneUrl? "o/r" = some "https://github.com/o/r.git" := by decide
  have known' : Reference.cloneUrl? "https://github.com/o/r/" =
      some "https://github.com/o/r.git" := by decide +kernel
  have succeeded : (Schedule.run {} pool.size world.provider (tasks {} pool ⟨"o/r",
      Reference.slug "https://github.com/o/r.git", none, "now", 1⟩
      (Snapshot.ofList [("a.py", "x")])) ()).outcomes.all (·.verdict = .succeeded) = true := by
    decide +kernel
  obtain ⟨sound, realized⟩ := retained_documents_sound {} pool 3600 32
  obtain ⟨past, s, first⟩ := realized Unit world { store := .empty 3600 32 } 0 "o/r" ()
    (Nat.le_refl 0)
  obtain ⟨past', t, second⟩ := realized Unit world s 1 "https://github.com/o/r/" ()
    (first.time ▸ Nat.zero_le 1)
  rw [generate_of_read pool () known rfl rfl
    (Checkout.read_single "now" "o/r" "https://github.com/o/r.git")] at first
  obtain ⟨document, stored, requests⟩ : ∃ document,
      s.store = (Store.empty 3600 32).insert 0 "https://github.com/o/r.git" document ∧
      s.requests = [⟨"o/r", .answered (.ok document)⟩] :=
    ⟨_, Option.some.inj (first.store.symm.trans (store_ofSnapshot succeeded)), first.requests⟩
  have found : s.store.get 1 "https://github.com/o/r.git" = (some document, s.store) := by
    rw [stored]
    exact Store.get_insert _ _ _ (by decide) (by decide)
  rw [generate_of_retained {} pool world () known' found] at second
  refine ⟨_, t, document, first.run.append second.run, ?_, ?_⟩
  · rw [second.requests, requests]
    rfl
  · exact sound _ _ (first.run.append second.run)

end CodeWiki.Generation.Interleaving
