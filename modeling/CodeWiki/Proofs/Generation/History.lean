import CodeWiki.Generation.Interleaving
import CodeWiki.Proofs.Schedule.Permit

/-! What one request goes through among the others. The steps of other requests leave it alone, so
its own happenings tell how it has come to where it is. -/
namespace CodeWiki.Generation.Interleaving

open Schedule.Interleaving (getElem?_set_cases)

variable {settings : Settings} {pool : KeyPool} {s t u : State} {trace rest : List Event}
  {event : Event}

theorem Run.append (first : Run settings pool s trace t) (second : Run settings pool t rest u) :
    Run settings pool s (trace ++ rest) u := by
  induction second with
  | nil => simpa only [List.append_nil] using first
  | snoc _ step ih => simpa only [List.append_assoc] using ih.snoc step

/-- What happens to a request up to the end of its clone. -/
def opening (reference url : Text) : List Happening :=
  [.asked reference, .missed url, .cloned url]

/-- The happenings that lead a request to a phase, by itself. -/
inductive History (settings : Settings) (pool : KeyPool) (reference : Text) :
    List Happening → Phase → Prop where
  | asked : History settings pool reference [.asked reference] .asked
  | refused : Reference.cloneUrl? reference = none →
      History settings pool reference [.asked reference, .refused]
        (.answered (.error (.checkout (.invalidReference reference))))
  | served {url document} : Reference.cloneUrl? reference = some url →
      History settings pool reference [.asked reference, .served url document]
        (.answered (.ok (retarget reference document)))
  | missed {url} : Reference.cloneUrl? reference = some url →
      History settings pool reference [.asked reference, .missed url] (.fetching url)
  | blocked {url reason} : Reference.cloneUrl? reference = some url →
      History settings pool reference [.asked reference, .missed url, .blocked]
        (.answered (.error (.checkout (.io reason))))
  | failed {url checkout clock e} : Reference.cloneUrl? reference = some url →
      Checkout.read settings.checkout clock reference url checkout = .error e →
      History settings pool reference (opening reference url) (.answered (.error (.checkout e)))
  | working {url checkout clock files origin work now} :
      Reference.cloneUrl? reference = some url →
      Checkout.read settings.checkout clock reference url checkout = .ok (files, origin) →
      Schedule.Interleaving.Run settings.schedule (tasks settings pool origin files)
        (.start pool.size (tasks settings pool origin files)) work now →
      History settings pool reference (opening reference url ++ work.map .worked)
        (.describing url origin files now)
  | finished {url checkout clock files origin work final outcomes document} :
      Reference.cloneUrl? reference = some url →
      Checkout.read settings.checkout clock reference url checkout = .ok (files, origin) →
      Schedule.Interleaving.Run settings.schedule (tasks settings pool origin files)
        (.start pool.size (tasks settings pool origin files)) work final →
      final.Returns outcomes → document = describe settings pool origin files outcomes →
      History settings pool reference
        (opening reference url ++ work.map .worked ++ [.finished url outcomes document])
        (.answered (.ok document))

/-- A step begins a request, or carries on the history of one and leaves all others as they are. -/
theorem Step.cases (step : Step settings pool s event t) :
    (∃ reference, event.request = s.requests.length ∧ event.what = .asked reference ∧
      t.requests = s.requests ++ [⟨reference, .asked⟩]) ∨
    ∃ reference before after, s.requests[event.request]? = some ⟨reference, before⟩ ∧
      t.requests = s.requests.set event.request ⟨reference, after⟩ ∧
      ∀ past, History settings pool reference past before →
        History settings pool reference (past ++ [event.what]) after := by
  cases step with
  | ask reference => exact Or.inl ⟨reference, rfl, rfl, rfl⟩
  | refuse _ here unknown =>
    refine Or.inr ⟨_, _, _, here, rfl, fun past history => ?_⟩
    cases history
    exact .refused unknown
  | serve _ here known found =>
    refine Or.inr ⟨_, _, _, here, rfl, fun past history => ?_⟩
    cases history
    exact .served known
  | miss _ here known found =>
    refine Or.inr ⟨_, _, _, here, rfl, fun past history => ?_⟩
    cases history
    exact .missed known
  | block _ _ here =>
    refine Or.inr ⟨_, _, _, here, rfl, fun past history => ?_⟩
    cases history with
    | missed known => exact .blocked known
  | @clone time i reference url checkout clock _ here =>
    refine Or.inr ⟨_, _, _, here, rfl, fun past history => ?_⟩
    cases history with
    | missed known =>
      cases read : Checkout.read settings.checkout clock reference url checkout with
      | error e => exact .failed known read
      | ok fetched =>
        show History settings pool reference (opening reference url ++ List.map .worked []) _
        exact .working known read .nil
  | work _ here moved =>
    refine Or.inr ⟨_, _, _, here, rfl, fun past history => ?_⟩
    cases history with
    | working known read run =>
      have longer := History.working known read (run.snoc moved)
      simpa only [List.map_append, List.map_cons, List.map_nil, List.append_assoc] using longer
  | finish _ here returns same =>
    refine Or.inr ⟨_, _, _, here, rfl, fun past history => ?_⟩
    cases history with
    | working known read run => exact .finished known read run returns same

theorem happenings_append (i : Nat) (trace rest : List Event) :
    happenings i (trace ++ rest) = happenings i trace ++ happenings i rest := by
  simp only [happenings, List.filter_append, List.map_append]

theorem happenings_own (event : Event) : happenings event.request [event] = [event.what] := by
  simp [happenings]

theorem happenings_other {i : Nat} (other : i ≠ event.request) : happenings i [event] = [] := by
  simp [happenings, Ne.symm other]

theorem mem_happenings (member : event ∈ trace) :
    event.what ∈ happenings event.request trace :=
  List.mem_map.mpr ⟨event, List.mem_filter.mpr ⟨member, by simp⟩, rfl⟩

/-- Every request has a history, and nothing happens to anything else. -/
structure Accounts (settings : Settings) (pool : KeyPool) (trace : List Event) (s : State) :
    Prop where
  known : ∀ e ∈ trace, e.request < s.requests.length
  history : ∀ (i : Nat) (r : Request), s.requests[i]? = some r →
    History settings pool r.reference (happenings i trace) r.phase

theorem Accounts.step (accounts : Accounts settings pool trace s)
    (step : Step settings pool s event t) : Accounts settings pool (trace ++ [event]) t := by
  rcases step.cases with ⟨reference, new, what, requests⟩ |
    ⟨reference, before, after, here, requests, carried⟩
  · constructor
    · intro e member
      rw [requests, List.length_append, List.length_singleton]
      rcases List.mem_append.mp member with earlier | last
      · exact Nat.lt_succ_of_lt (accounts.known e earlier)
      · rw [List.mem_singleton.mp last, new]
        exact Nat.lt_succ_self _
    · intro i r selected
      rw [requests] at selected
      rw [happenings_append]
      by_cases last : i = s.requests.length
      · subst last
        obtain rfl : (⟨reference, .asked⟩ : Request) = r := by simpa using selected
        have unheard : happenings s.requests.length trace = [] := by
          rw [happenings, List.map_eq_nil_iff, List.filter_eq_nil_iff]
          intro e member same
          have bound := accounts.known e member
          simp only [decide_eq_true_eq] at same
          omega
        rw [unheard, ← new, happenings_own, what]
        exact .asked
      · rw [happenings_other (by rwa [new]), List.append_nil]
        apply accounts.history i r
        obtain ⟨bound, -⟩ := List.getElem?_eq_some_iff.mp selected
        rw [List.length_append, List.length_singleton] at bound
        rwa [List.getElem?_append_left (by omega)] at selected
  · obtain ⟨bound, -⟩ := List.getElem?_eq_some_iff.mp here
    constructor
    · intro e member
      rw [requests, List.length_set]
      rcases List.mem_append.mp member with earlier | last
      · exact accounts.known e earlier
      · rwa [List.mem_singleton.mp last]
    · intro i r selected
      rw [requests] at selected
      rw [happenings_append]
      rcases getElem?_set_cases here selected with ⟨rfl, rfl⟩ | ⟨different, unmoved⟩
      · rw [happenings_own]
        exact carried _ (accounts.history _ _ here)
      · rw [happenings_other different, List.append_nil]
        exact accounts.history i r unmoved

theorem Run.accounts {store : Store Document} (run : Run settings pool { store } trace s) :
    Accounts settings pool trace s := by
  induction run with
  | nil =>
    refine ⟨fun e member => absurd member List.not_mem_nil, fun i r selected => ?_⟩
    cases selected
  | snoc _ step ih => exact ih.step step

end CodeWiki.Generation.Interleaving
