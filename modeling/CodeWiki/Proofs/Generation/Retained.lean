import CodeWiki.Proofs.Checkout
import CodeWiki.Proofs.Generation.History
import CodeWiki.Proofs.Retention
import CodeWiki.Proofs.Schedule.Progress

/-! Where retained documents come from. The store changes only by dropping entries, or by the last
step of a request whose tasks have all succeeded; so every entry, and every document that is served,
goes back to such a request. -/
namespace CodeWiki.Generation.Interleaving

open Schedule.Interleaving (Complete stuck_of_returns)

variable {settings : Settings} {pool : KeyPool} {s t : State} {trace : List Event} {event : Event}
  {reference url : Text} {past : List Happening} {phase : Phase} {outcomes : List Outcome}
  {document : Document} {lifetime capacity : Nat}

/-- A request for the reference has brought the document about: the URL was cloned and read, and the
tasks, in one order of them, came to these outcomes. -/
inductive Produced (settings : Settings) (pool : KeyPool) (reference url : Text) :
    List Happening → List Outcome → Document → Prop where
  | intro {checkout clock files origin work final outcomes} :
      Reference.cloneUrl? reference = some url →
      Checkout.read settings.checkout clock reference url checkout = .ok (files, origin) →
      Complete settings.schedule pool.size (tasks settings pool origin files) work final →
      final.Returns outcomes →
      Produced settings pool reference url
        (opening reference url ++ work.map .worked ++
          [.finished url outcomes (describe settings pool origin files outcomes)])
        outcomes (describe settings pool origin files outcomes)

theorem not_finished_of_opening {work : List Schedule.Interleaving.Event} {other : Text} :
    Happening.finished url outcomes document ∉ opening reference other ++ work.map .worked := by
  simp [opening]

theorem Produced.outcomes_unique {other : Text} {outcomes' : List Outcome} {document' : Document}
    (produced : Produced settings pool reference url past outcomes document)
    (finished : .finished other outcomes' document' ∈ past) : outcomes = outcomes' := by
  cases produced with
  | intro =>
    rcases List.mem_append.mp finished with earlier | last
    · exact absurd earlier not_finished_of_opening
    · cases List.mem_singleton.mp last
      rfl

/-- A request that has finished has answered with what it has produced. -/
theorem History.produced (history : History settings pool reference past phase)
    (finished : .finished url outcomes document ∈ past) :
    phase = .answered (.ok document) ∧
      Produced settings pool reference url past outcomes document := by
  cases history with
  | asked | refused _ | served _ | missed _ | blocked _ => simp at finished
  | failed _ _ => simp [opening] at finished
  | working _ _ _ => exact absurd finished not_finished_of_opening
  | finished known read run returns same =>
    rcases List.mem_append.mp finished with earlier | last
    · exact absurd earlier not_finished_of_opening
    · cases List.mem_singleton.mp last
      subst same
      exact ⟨rfl, .intro known read ⟨run, stuck_of_returns returns⟩ returns⟩

/-- Every answer but an error is a document that was served, or one that was produced. -/
theorem History.answered
    (history : History settings pool reference past (.answered (.ok document))) :
    (∃ url original, Reference.cloneUrl? reference = some url ∧
      past = [.asked reference, .served url original] ∧ document = retarget reference original) ∨
    ∃ url outcomes, Produced settings pool reference url past outcomes document := by
  cases history with
  | served known => exact Or.inl ⟨_, _, known, rfl, rfl⟩
  | finished known read run returns same =>
    subst same
    exact Or.inr ⟨_, _, .intro known read ⟨run, stuck_of_returns returns⟩ returns⟩

theorem History.reference_of_answered
    (history : History settings pool reference past (.answered (.ok document))) :
    document.origin.reference = reference := by
  cases history with
  | served _ => rfl
  | finished _ read _ _ same =>
    subst same
    rw [describe, Checkout.origin_of_read read]

/-- The event puts the document under the URL into the store. -/
def Stores (event : Event) (url : Text) (document : Document) : Prop :=
  ∃ outcomes, event.what = .finished url outcomes document ∧ ∀ o ∈ outcomes, o.verdict = .succeeded

theorem Step.store (step : Step settings pool s event t) :
    t.store.entries.Sublist s.store.entries ∨ ∃ url document, Stores event url document ∧
      t.store = s.store.insert event.time url document := by
  cases step with
  | ask | refuse | block | clone | work => exact Or.inl (List.Sublist.refl _)
  | @serve time _ _ url _ _ _ _ _ found =>
    have fewer := Store.entries_get_sublist s.store time url
    rw [found] at fewer
    exact Or.inl fewer
  | @miss time _ _ url _ _ _ _ found =>
    have fewer := Store.entries_get_sublist s.store time url
    rw [found] at fewer
    exact Or.inl fewer
  | @finish _ _ _ _ _ _ _ outcomes _ _ _ _ _ =>
    by_cases complete : outcomes.all (·.verdict = .succeeded) = true
    · exact Or.inr ⟨_, _, ⟨_, rfl, by simpa using complete⟩, if_pos complete⟩
    · left
      simp only [retain, if_neg complete]
      exact List.Sublist.refl _

theorem Run.kept (run : Run settings pool { store := .empty lifetime capacity } trace s) :
    ∀ entry ∈ s.store.entries,
      ∃ e ∈ trace, e.time = entry.storedAt ∧ Stores e entry.key entry.value := by
  induction run with
  | nil => intro entry member; cases member
  | snoc run step ih =>
    intro entry member
    rcases step.store with fewer | ⟨url, document, stores, inserted⟩
    · obtain ⟨e, earlier, stored⟩ := ih entry (fewer.subset member)
      exact ⟨e, List.mem_append_left _ earlier, stored⟩
    · rw [inserted] at member
      rcases Store.mem_insert member with rfl | old
      · exact ⟨_, List.mem_append_right _ List.mem_cons_self, rfl, stores⟩
      · obtain ⟨e, earlier, stored⟩ := ih entry old
        exact ⟨e, List.mem_append_left _ earlier, stored⟩

theorem Run.served (run : Run settings pool { store := .empty lifetime capacity } trace s) :
    ∀ e ∈ trace, ∀ url document, e.what = .served url document →
      ∃ earlier, [earlier, e].Sublist trace ∧ Stores earlier url document := by
  induction run with
  | nil => intro e member; cases member
  | snoc run step ih =>
    intro e member url document what
    rcases List.mem_append.mp member with old | last
    · obtain ⟨earlier, pair, stores⟩ := ih e old url document what
      exact ⟨earlier, pair.trans (List.sublist_append_left _ _), stores⟩
    · obtain rfl := List.mem_singleton.mp last
      cases step with
      | ask | refuse | miss | block | clone | work | finish => cases what
      | serve _ _ _ found =>
        cases what
        -- The entry that is found was put in by the run so far.
        obtain ⟨entry, inside, rfl, rfl⟩ := Store.entry_of_get (congrArg Prod.fst found)
        obtain ⟨earlier, before, -, stores⟩ := run.kept entry inside
        exact ⟨earlier, (List.singleton_sublist.mpr before).append (List.Sublist.refl [_]), stores⟩

/-- A run takes the step from `u` to `v` on its way from `start` to `s`. -/
def Takes (settings : Settings) (pool : KeyPool) (start : State) (trace : List Event) (s u : State)
    (event : Event) (v : State) : Prop :=
  ∃ before after, trace = before ++ event :: after ∧ Run settings pool start before u ∧
    Step settings pool u event v ∧ Run settings pool v after s

/-- What an event of a run has stored, its request has produced and answered with. -/
theorem Accounts.stores (accounts : Accounts settings pool trace s) (member : event ∈ trace)
    (stores : Stores event url document) :
    ∃ reference outcomes,
      s.requests[event.request]? = some ⟨reference, .answered (.ok document)⟩ ∧
      Produced settings pool reference url (happenings event.request trace) outcomes document ∧
      ∀ o ∈ outcomes, o.verdict = .succeeded := by
  obtain ⟨outcomes, what, succeeded⟩ := stores
  have here := List.getElem?_eq_getElem (accounts.known event member)
  have finished := mem_happenings member
  rw [what] at finished
  obtain ⟨phase, produced⟩ := (accounts.history _ _ here).produced finished
  refine ⟨_, outcomes, ?_, produced, succeeded⟩
  rw [here, ← phase]

/-- The store and the answers of a run that began with an empty store. -/
structure Sound (settings : Settings) (pool : KeyPool) (start : State) (trace : List Event)
    (s : State) : Prop where
  /-- A retained document is the answer to a request whose tasks have all succeeded. -/
  entries : ∀ entry ∈ s.store.entries, ∃ (i : Nat) (reference : Text) (outcomes : List Outcome),
    s.requests[i]? = some ⟨reference, .answered (.ok entry.value)⟩ ∧
    Produced settings pool reference entry.key (happenings i trace) outcomes entry.value ∧
    ∀ o ∈ outcomes, o.verdict = .succeeded
  /-- Entries are dropped, or one is put in by such a request. -/
  steps : ∀ u event v, Takes settings pool start trace s u event v →
    v.store.entries.Sublist u.store.entries ∨
    ∃ (reference url : Text) (outcomes : List Outcome) (document : Document),
      v.store = u.store.insert event.time url document ∧
      s.requests[event.request]? = some ⟨reference, .answered (.ok document)⟩ ∧
      Produced settings pool reference url (happenings event.request trace) outcomes document ∧
      ∀ o ∈ outcomes, o.verdict = .succeeded
  /-- A request that ends in an error, or a task of which has failed, puts nothing in. -/
  withheld : ∀ i, ((∃ reference e, s.requests[i]? = some ⟨reference, .answered (.error e)⟩) ∨
      ∃ url outcomes document, .finished url outcomes document ∈ happenings i trace ∧
        ∃ o ∈ outcomes, o.verdict = .failed) →
    ∀ u event v, Takes settings pool start trace s u event v → event.request = i →
      v.store.entries.Sublist u.store.entries
  /-- An answer names the reference it was asked for. It was stored earlier under the URL of the
  reference, and nothing was cloned and nobody called, or the request has produced it. -/
  answers : ∀ (i : Nat) (reference : Text) (document : Document),
    s.requests[i]? = some ⟨reference, .answered (.ok document)⟩ →
    document.origin.reference = reference ∧
    ((∃ (url : Text) (original : Document) (earlier hit : Event),
        Reference.cloneUrl? reference = some url ∧ [earlier, hit].Sublist trace ∧
        Stores earlier url original ∧ hit.request = i ∧
        happenings i trace = [.asked reference, .served url original] ∧
        document = { original with origin := { original.origin with reference } }) ∨
      ∃ url outcomes, Produced settings pool reference url (happenings i trace) outcomes document)

theorem Run.sound (run : Run settings pool { store := .empty lifetime capacity } trace s) :
    Sound settings pool { store := .empty lifetime capacity } trace s := by
  have accounts := run.accounts
  have steps : ∀ u event v,
      Takes settings pool { store := .empty lifetime capacity } trace s u event v →
      v.store.entries.Sublist u.store.entries ∨
      ∃ (reference url : Text) (outcomes : List Outcome) (document : Document),
        v.store = u.store.insert event.time url document ∧
        s.requests[event.request]? = some ⟨reference, .answered (.ok document)⟩ ∧
        Produced settings pool reference url (happenings event.request trace) outcomes document ∧
        ∀ o ∈ outcomes, o.verdict = .succeeded := by
    rintro u event v ⟨before, after, whole, -, step, -⟩
    rcases step.store with fewer | ⟨url, document, stores, inserted⟩
    · exact Or.inl fewer
    · have member : event ∈ trace := by
        rw [whole]
        exact List.mem_append_right _ List.mem_cons_self
      obtain ⟨reference, outcomes, answered, produced, succeeded⟩ := accounts.stores member stores
      exact Or.inr ⟨reference, url, outcomes, document, inserted, answered, produced, succeeded⟩
  refine ⟨?_, steps, ?_, ?_⟩
  · intro entry member
    obtain ⟨e, happened, -, stores⟩ := run.kept entry member
    obtain ⟨reference, outcomes, answered, produced, succeeded⟩ := accounts.stores happened stores
    exact ⟨e.request, reference, outcomes, answered, produced, succeeded⟩
  · rintro i spoilt u event v takes rfl
    rcases steps u event v takes with fewer | ⟨reference, url, outcomes, document, -, answered,
      produced, succeeded⟩
    · exact fewer
    · -- Such a step would be the last of a request that has done neither.
      exfalso
      rcases spoilt with ⟨reference', e, error⟩ | ⟨url', outcomes', document', finished, o, among,
        failed⟩
      · rw [answered] at error
        cases error
      · obtain rfl := produced.outcomes_unique finished
        rw [succeeded o among] at failed
        cases failed
  · intro i reference document here
    have history := accounts.history i _ here
    refine ⟨history.reference_of_answered, ?_⟩
    rcases history.answered with ⟨url, original, known, past, same⟩ | produced
    · obtain ⟨hit, member, what⟩ : ∃ hit ∈ trace, hit.request = i ∧
          hit.what = .served url original := by
        have heard : Happening.served url original ∈ happenings i trace := by
          rw [past]
          exact List.mem_cons_of_mem _ List.mem_cons_self
        obtain ⟨hit, chosen, what⟩ := List.mem_map.mp heard
        obtain ⟨member, own⟩ := List.mem_filter.mp chosen
        exact ⟨hit, member, by simpa using own, what⟩
      obtain ⟨earlier, pair, stores⟩ := run.served hit member url original what.2
      exact Or.inl ⟨url, original, earlier, hit, known, pair, stores, what.1, past, same⟩
    · exact Or.inr produced

end CodeWiki.Generation.Interleaving
