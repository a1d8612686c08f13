import CodeWiki.Proofs.Schedule.Progress

/-! What a task comes to is a matter of its own replies. An account of the attempts it has made and
of the replies it has had goes with its phase; no step of another task enters into it. What the
runtime reports of a crash is part of the reply, and of the outcome nothing but the text depends on
it. -/
namespace CodeWiki

/-- Two replies that differ at most in what is reported of a crash. -/
inductive Reply.SameButReport : Reply → Reply → Prop where
  | same {reply} : SameButReport reply reply
  | crash {report report'} : SameButReport (.crash report) (.crash report')

/-- Two outcomes of a task that differ at most in what is reported of a crash. -/
inductive Outcome.SameButReport (subject : Subject) : Outcome → Outcome → Prop where
  | same {outcome} : SameButReport subject outcome outcome
  | aborted {report report'} : SameButReport subject
      ⟨subject.errorMarker (abortedMessage report), 0, .failed⟩
      ⟨subject.errorMarker (abortedMessage report'), 0, .failed⟩

theorem Reply.SameButReport.eq_or_crash {reply reply' : Reply}
    (alike : reply.SameButReport reply') :
    reply' = reply ∨ ∃ report report', reply = .crash report ∧ reply' = .crash report' := by
  cases alike with
  | same => exact Or.inl rfl
  | crash => exact Or.inr ⟨_, _, rfl, rfl⟩

theorem Reply.SameButReport.isRateLimited {reply reply' : Reply}
    (alike : reply.SameButReport reply') : reply'.isRateLimited = reply.isRateLimited := by
  cases alike <;> rfl

theorem Outcome.SameButReport.eq_of_succeeded {subject : Subject} {outcome outcome' : Outcome}
    (alike : outcome.SameButReport subject outcome') (succeeded : outcome.verdict = .succeeded) :
    outcome = outcome' := by
  cases alike with
  | same => rfl
  | aborted => cases succeeded

namespace Schedule.Interleaving

variable {settings : ScheduleSettings} {tasks : List Task} {slots attempts : Nat} {s t : State}
  {trace : List Event} {event : Event} {replies : Nat → Nat → Reply}

/-- The first `n` attempts were throttled. -/
def Throttled (replies : Nat → Reply) (n : Nat) : Prop :=
  ∀ k, 1 ≤ k → k ≤ n → (replies k).isRateLimited = true

/-- The attempt `k` is the first that was not throttled. -/
def FirstAnswered (replies : Nat → Reply) (k : Nat) : Prop :=
  1 ≤ k ∧ Throttled replies (k - 1) ∧ (replies k).isRateLimited = false

/-- The number of calls and the outcome of a task with the given replies to its attempts. -/
inductive Settles (attempts : Nat) (subject : Subject) (replies : Nat → Reply) :
    Nat → Outcome → Prop where
  | text {k t} : FirstAnswered replies k → k ≤ attempts → replies k = .text t →
      Settles attempts subject replies k ⟨t, k, .succeeded⟩
  | failure {k e} : FirstAnswered replies k → k ≤ attempts → replies k = .failure e →
      Settles attempts subject replies k ⟨subject.errorMarker e.message, k, .failed⟩
  | crash {k message} : FirstAnswered replies k → k ≤ attempts → replies k = .crash message →
      Settles attempts subject replies k
        ⟨subject.errorMarker (Outcome.abortedMessage message), 0, .failed⟩
  | exhausted {e} : Throttled replies attempts → replies attempts = .failure e →
      Settles attempts subject replies attempts
        ⟨subject.errorMarker e.message, attempts, .failed⟩

theorem FirstAnswered.unique {replies : Nat → Reply} {k l : Nat} (left : FirstAnswered replies k)
    (right : FirstAnswered replies l) : k = l := by
  obtain ⟨k1, before, answered⟩ := left
  obtain ⟨l1, before', answered'⟩ := right
  rcases Nat.lt_trichotomy k l with less | same | more
  · rw [before' k k1 (by omega)] at answered
    contradiction
  · exact same
  · rw [before l l1 (by omega)] at answered'
    contradiction

theorem FirstAnswered.not_throttled {replies : Nat → Reply} {k n : Nat}
    (first : FirstAnswered replies k) (throttled : Throttled replies n) : n < k := by
  by_cases within : k ≤ n
  · have limited := throttled k first.1 within
    rw [first.2.2] at limited
    contradiction
  · omega

/-- The replies settle both the number of calls and the outcome. -/
theorem Settles.unique {subject : Subject} {replies : Nat → Reply} {k l : Nat} {o o' : Outcome}
    (left : Settles attempts subject replies k o) (right : Settles attempts subject replies l o') :
    k = l ∧ o = o' := by
  cases left with
  | text first within reply | failure first within reply | crash first within reply =>
    cases right with
    | text first' _ reply' | failure first' _ reply' | crash first' _ reply' =>
      obtain rfl := first.unique first'
      rw [reply] at reply'
      cases reply' <;> exact ⟨rfl, rfl⟩
    | exhausted throttled =>
      have := first.not_throttled throttled
      omega
  | exhausted throttled reply =>
    cases right with
    | text first within | failure first within | crash first within =>
      have := first.not_throttled throttled
      omega
    | exhausted _ reply' =>
      rw [reply] at reply'
      cases reply'
      exact ⟨rfl, rfl⟩

theorem Throttled.transfer {replies replies' : Nat → Reply} {n : Nat}
    (throttled : Throttled replies n) (alike : ∀ k, (replies k).SameButReport (replies' k)) :
    Throttled replies' n := by
  intro k positive bound
  rw [(alike k).isRateLimited]
  exact throttled k positive bound

theorem FirstAnswered.transfer {replies replies' : Nat → Reply} {k : Nat}
    (first : FirstAnswered replies k) (alike : ∀ k, (replies k).SameButReport (replies' k)) :
    FirstAnswered replies' k := by
  obtain ⟨positive, before, answered⟩ := first
  refine ⟨positive, before.transfer alike, ?_⟩
  rw [(alike k).isRateLimited, answered]

/-- Nothing but the text of a crashed task depends on what is reported of the crash. -/
theorem Settles.transfer {subject : Subject} {replies replies' : Nat → Reply} {k : Nat}
    {o : Outcome} (settles : Settles attempts subject replies k o)
    (alike : ∀ k, (replies k).SameButReport (replies' k)) :
    ∃ o', Settles attempts subject replies' k o' ∧ o.SameButReport subject o' := by
  have same := (alike k).eq_or_crash
  cases settles with
  | text first within reply =>
    rcases same with same | ⟨_, _, crashed, -⟩
    · exact ⟨_, .text (first.transfer alike) within (same.trans reply), .same⟩
    · cases reply.symm.trans crashed
  | failure first within reply =>
    rcases same with same | ⟨_, _, crashed, -⟩
    · exact ⟨_, .failure (first.transfer alike) within (same.trans reply), .same⟩
    · cases reply.symm.trans crashed
  | crash first within reply =>
    rcases same with same | ⟨_, _, -, reply'⟩
    · exact ⟨_, .crash (first.transfer alike) within (same.trans reply), .same⟩
    · exact ⟨_, .crash (first.transfer alike) within reply', .aborted⟩
  | exhausted throttled reply =>
    rcases same with same | ⟨_, _, crashed, -⟩
    · exact ⟨_, .exhausted (throttled.transfer alike) (same.trans reply), .same⟩
    · cases reply.symm.trans crashed

/-- A reply after which there is no further attempt settles the task. -/
theorem settles_of_after? {subject : Subject} {replies : Nat → Reply} {n : Nat} {outcome : Outcome}
    (positive : 1 ≤ n) (within : n ≤ attempts) (before : Throttled replies (n - 1))
    (last : Outcome.after? attempts subject n (replies n) = some outcome) :
    Settles attempts subject replies n outcome := by
  unfold Outcome.after? at last
  cases limited : (replies n).isRateLimited with
  | false =>
    have first : FirstAnswered replies n := ⟨positive, before, limited⟩
    simp only [limited, Bool.false_and, Bool.false_eq_true, if_false, Option.some.injEq] at last
    subst outcome
    cases reply : replies n with
    | text t => exact .text first within reply
    | failure e => exact .failure first within reply
    | crash message => exact .crash first within reply
  | true =>
    have same : n = attempts := by
      rcases Nat.lt_or_eq_of_le within with less | same
      · simp [limited, less] at last
      · exact same
    subst same
    simp only [Nat.lt_irrefl, decide_false, Bool.and_false, Bool.false_eq_true, if_false,
      Option.some.injEq] at last
    subst outcome
    cases reply : replies n with
    | text t | crash message => simp [reply, Reply.isRateLimited] at limited
    | failure e =>
      refine .exhausted (fun k positive within => ?_) reply
      by_cases last : k = n
      · rw [last, limited]
      · exact before k positive (by omega)

/-- The phase of a task that has made a number of calls. -/
def Phase.Accounts (attempts : Nat) (subject : Subject) (replies : Nat → Reply) (made : Nat) :
    Phase → Prop
  | waiting n => n = made + 1 ∧ n ≤ attempts ∧ Throttled replies made
  | calling n => n = made ∧ 1 ≤ n ∧ n ≤ attempts ∧ Throttled replies (n - 1)
  | sleeping n _ => n = made ∧ n < attempts ∧ Throttled replies n
  | settled outcome => Settles attempts subject replies made outcome

theorem Phase.accounts_afterReply {subject : Subject} {replies : Nat → Reply} {made n : Nat}
    (accounts : (calling n).Accounts settings.attempts subject replies made) (time : Nat) :
    (afterReply settings subject n time (replies n)).Accounts settings.attempts subject replies
      made := by
  obtain ⟨rfl, positive, within, before⟩ := accounts
  unfold afterReply
  split
  · rename_i last
    exact settles_of_after? positive within before last
  · rename_i again
    obtain ⟨limited, left⟩ := after?_eq_none_iff.mp again
    refine ⟨rfl, left, fun k first bound => ?_⟩
    by_cases last : k = n
    · rw [last, limited]
    · exact before k first (by omega)

theorem calls_append (trace rest : List Event) :
    calls (trace ++ rest) = calls trace ++ calls rest :=
  List.filterMap_append

theorem callsOf_append (i : Nat) (trace rest : List Event) :
    callsOf i (trace ++ rest) = callsOf i trace ++ callsOf i rest := by
  simp only [callsOf, calls_append, List.filter_append]

/-- The calls of one task: its own question again and again, attempts counted from one. -/
def CallsMade (trace : List Event) (i : Nat) (question : Task) (made : Nat) : Prop :=
  (callsOf i trace).map (fun c => (c.attempt, c.question)) =
    (List.range' 1 made).map fun n => (n, question)

theorem CallsMade.skip {i made : Nat} {question : Task} (earlier : CallsMade trace i question made)
    (other : callsOf i [event] = []) : CallsMade (trace ++ [event]) i question made := by
  unfold CallsMade
  rw [callsOf_append, other, List.append_nil]
  exact earlier

theorem CallsMade.one_more {i made time : Nat} {question : Task}
    (earlier : CallsMade trace i question made) :
    CallsMade (trace ++ [⟨time, i, made + 1, .started question⟩]) i question (made + 1) := by
  have new : callsOf i [⟨time, i, made + 1, .started question⟩] =
      [⟨time, i, made + 1, question⟩] := by
    simp [callsOf, calls, Event.call?]
  unfold CallsMade at earlier ⊢
  rw [callsOf_append, new, List.map_append, earlier, List.range'_1_concat, List.map_append,
    Nat.add_comm 1 made]
  rfl

/-- The account of every task. -/
def Accounted (settings : ScheduleSettings) (tasks : List Task) (replies : Nat → Nat → Reply)
    (trace : List Event) (s : State) : Prop :=
  ∀ (i : Nat) (question : Task) (p : Phase), tasks[i]? = some question → s.phases[i]? = some p →
    ∃ made, p.Accounts settings.attempts question.subject (replies i) made ∧
      CallsMade trace i question made

theorem accounted_start : Accounted settings tasks replies [] (.start slots tasks) := by
  intro i question p asked phase
  simp only [State.start, List.getElem?_map, asked, Option.map_some, Option.some.injEq] at phase
  subst phase
  refine ⟨0, ⟨rfl, one_le_attempts settings, fun k first last => ?_⟩, rfl⟩
  omega

/-- A step leaves the accounts of the other tasks alone. -/
theorem Accounted.set {i time free : Nat} {holders : List Nat} {p q : Phase} {question : Task}
    (accounted : Accounted settings tasks replies trace s) (asked : tasks[i]? = some question)
    (found : s.phases[i]? = some p) (others : ∀ j, j ≠ i → callsOf j [event] = [])
    (own : ∀ made, p.Accounts settings.attempts question.subject (replies i) made →
      CallsMade trace i question made →
      ∃ made', q.Accounts settings.attempts question.subject (replies i) made' ∧
        CallsMade (trace ++ [event]) i question made') :
    Accounted settings tasks replies (trace ++ [event])
      ⟨time, free, holders, s.phases.set i q⟩ := by
  intro j question' phase asked' selected
  rcases getElem?_set_cases found selected with ⟨rfl, rfl⟩ | ⟨different, unmoved⟩
  · cases asked.symm.trans asked'
    obtain ⟨made, account, calls⟩ := accounted j question p asked found
    exact own made account calls
  · obtain ⟨made, account, calls⟩ := accounted j question' phase asked' unmoved
    exact ⟨made, account, calls.skip (others j different)⟩

theorem Accounted.step (accounted : Accounted settings tasks replies trace s)
    (aligned : s.phases.length = tasks.length) (follows : Follows replies (trace ++ [event]))
    (step : Step settings tasks s event t) :
    Accounted settings tasks replies (trace ++ [event]) t := by
  cases step with
  | @start time i n _ question _ phase asked _ =>
    refine accounted.set asked phase (fun j different => ?_) (fun made account calls => ?_)
    · simp [callsOf, calls, Event.call?, Ne.symm different]
    · obtain ⟨rfl, within, before⟩ := account
      exact ⟨made + 1, ⟨rfl, Nat.succ_pos _, within, before⟩, calls.one_more⟩
  | @finish time i n question reply _ phase asked =>
    refine accounted.set asked phase (fun j _ => rfl) (fun made account calls => ?_)
    have laidDown : reply = replies i n :=
      follows _ (List.mem_append_right _ List.mem_cons_self) reply rfl
    subst reply
    exact ⟨made, Phase.accounts_afterReply account time, calls.skip rfl⟩
  | @wake time i n since _ phase _ =>
    obtain ⟨question, asked⟩ := question_of_phase aligned phase
    refine accounted.set asked phase (fun j _ => rfl) (fun made account calls => ?_)
    obtain ⟨rfl, within, before⟩ := account
    exact ⟨n, ⟨rfl, within, before⟩, calls.skip rfl⟩

theorem Run.accounted (run : Run settings tasks (.start slots tasks) trace s)
    (follows : Follows replies trace) : Accounted settings tasks replies trace s := by
  induction run with
  | nil => exact accounted_start
  | snoc run step ih =>
    have earlier := ih fun e member => follows e (List.mem_append_left _ member)
    exact earlier.step run.aligned follows step

/-- The attempt is behind a task in the given phase. -/
def Phase.Past (attempt : Nat) : Phase → Prop
  | waiting n => attempt < n
  | calling n | sleeping n _ => attempt ≤ n
  | settled _ => True

theorem Phase.past_afterReply (subject : Subject) (n time : Nat) (reply : Reply) {attempt : Nat}
    (past : attempt ≤ n) : (afterReply settings subject n time reply).Past attempt := by
  unfold afterReply
  split
  · trivial
  · exact past

/-- All calls are behind the tasks that have made them. -/
def Behind (trace : List Event) (s : State) : Prop :=
  ∀ c ∈ calls trace, ∀ p, s.phases[c.task]? = some p → p.Past c.attempt

theorem Behind.set {i time free : Nat} {holders : List Nat} {p q : Phase} (behind : Behind trace s)
    (found : s.phases[i]? = some p) (moved : ∀ n, p.Past n → q.Past n) :
    Behind trace ⟨time, free, holders, s.phases.set i q⟩ := by
  intro c member phase selected
  rcases getElem?_set_cases found selected with ⟨same, rfl⟩ | ⟨-, unmoved⟩
  · exact moved c.attempt (behind c member p (same ▸ found))
  · exact behind c member phase unmoved

theorem Run.behind (run : Run settings tasks (.start slots tasks) trace s) : Behind trace s := by
  induction run with
  | nil => intro c member; cases member
  | snoc run step ih =>
    intro c member p phase
    rw [calls_append] at member
    rcases List.mem_append.mp member with old | new
    · cases step with
      | start _ before => exact ih.set before (fun _ => Nat.le_of_lt) c old p phase
      | finish _ _ before =>
        exact ih.set before (fun _ => Phase.past_afterReply _ _ _ _) c old p phase
      | wake _ before => exact ih.set before (fun _ => Nat.lt_succ_of_le) c old p phase
    · cases step with
      | finish | wake => cases new
      | start _ before =>
        obtain rfl := List.mem_singleton.mp new
        rcases getElem?_set_cases before phase with ⟨-, rfl⟩ | ⟨different, -⟩
        · exact Nat.le_refl _
        · exact absurd rfl different

/-- No attempt is made twice. -/
theorem Run.calls_nodup (run : Run settings tasks (.start slots tasks) trace s) :
    ((calls trace).map fun c => (c.task, c.attempt)).Nodup := by
  induction run with
  | nil => exact List.nodup_nil
  | @snoc trace s event t run step ih =>
    rw [calls_append, List.map_append, List.nodup_append]
    refine ⟨ih, ?_, ?_⟩
    · cases step with
      | start => simp [calls, Event.call?]
      | finish | wake => exact List.nodup_nil
    · cases step with
      | finish | wake => intro key _ other empty; cases empty
      | @start time i n _ question _ phase =>
        intro key old other new same
        obtain ⟨c, member, rfl⟩ := List.mem_map.mp old
        obtain rfl : other = (i, n) := by simpa [calls, Event.call?] using new
        obtain ⟨here, again⟩ := Prod.mk.inj same
        have past : c.attempt < n := run.behind c member (.waiting n) (here ▸ phase)
        omega

theorem Run.settles {outcomes : List Outcome} {i : Nat} {question : Task}
    (run : Run settings tasks (.start slots tasks) trace s) (follows : Follows replies trace)
    (returns : s.Returns outcomes) (asked : tasks[i]? = some question) :
    ∃ outcome made, outcomes[i]? = some outcome ∧
      Settles settings.attempts question.subject (replies i) made outcome ∧
      CallsMade trace i question made := by
  obtain ⟨bound, -⟩ := List.getElem?_eq_some_iff.mp asked
  have size : i < outcomes.length := by rwa [Returns.length returns, run.aligned]
  have phase : s.phases[i]? = some (.settled outcomes[i]) := by
    rw [returns, List.getElem?_map, List.getElem?_eq_getElem size]
    rfl
  obtain ⟨made, account, calls⟩ := run.accounted follows i question _ asked phase
  exact ⟨outcomes[i], made, List.getElem?_eq_getElem size, account, calls⟩

end Schedule.Interleaving
end CodeWiki
