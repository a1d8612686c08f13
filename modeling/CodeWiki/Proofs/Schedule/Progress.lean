import CodeWiki.Proofs.Schedule.Permit

/-! Every order of the tasks comes to an end, and only when all of them are settled. Each attempt
takes at most a start, an end and a wake, so the steps that are left bound a run from above; a task
that is not settled always leaves one of them open. -/
namespace CodeWiki.Schedule.Interleaving

variable {settings : ScheduleSettings} {tasks : List Task} {slots attempts : Nat}
  {s t final : State} {trace : List Event} {event : Event}

/-- A bound for the steps that a task still takes. The last attempt needs no wake. -/
def Phase.stepsLeft (attempts : Nat) : Phase → Nat
  | waiting n => 3 * (attempts - n) + 2
  | calling n => 3 * (attempts - n) + 1
  | sleeping n _ => 3 * (attempts - n - 1) + 3
  | settled _ => 0

def State.stepsLeft (attempts : Nat) (s : State) : Nat :=
  (s.phases.map (Phase.stepsLeft attempts)).sum

/-- A task is tried again just if its call was throttled and attempts are left. -/
theorem after?_eq_none_iff {subject : Subject} {n : Nat} {reply : Reply} :
    Outcome.after? attempts subject n reply = none ↔ reply.isRateLimited = true ∧ n < attempts := by
  unfold Outcome.after?
  split
  · rename_i throttled
    exact iff_of_true rfl (by simpa using throttled)
  · rename_i last
    exact iff_of_false (Option.some_ne_none _) (by simpa using last)

theorem Phase.stepsLeft_afterReply (settings : ScheduleSettings) (subject : Subject) (n time : Nat)
    (reply : Reply) : (afterReply settings subject n time reply).stepsLeft settings.attempts <
      (calling n).stepsLeft settings.attempts := by
  unfold afterReply
  split
  · exact Nat.succ_pos _
  · rename_i again
    obtain ⟨-, left⟩ := after?_eq_none_iff.mp again
    simp only [stepsLeft]
    omega

theorem Step.stepsLeft_lt (step : Step settings tasks s event t) :
    t.stepsLeft settings.attempts < s.stepsLeft settings.attempts := by
  cases step with
  | @start time i n _ _ _ phase _ _ =>
    have sums := sum_map_set (Phase.stepsLeft settings.attempts) phase (.calling n)
    simp only [State.stepsLeft, Phase.stepsLeft] at sums ⊢
    omega
  | @finish time i n question reply _ phase _ =>
    have sums := sum_map_set (Phase.stepsLeft settings.attempts) phase
      (.afterReply settings question.subject n time reply)
    have fewer := Phase.stepsLeft_afterReply settings question.subject n time reply
    simp only [State.stepsLeft] at sums ⊢
    omega
  | @wake time i n since _ phase _ =>
    have sums := sum_map_set (Phase.stepsLeft settings.attempts) phase (.waiting (n + 1))
    simp only [State.stepsLeft, Phase.stepsLeft] at sums ⊢
    omega

theorem Run.length_add_stepsLeft_le (run : Run settings tasks s trace t) :
    trace.length + t.stepsLeft settings.attempts ≤ s.stepsLeft settings.attempts := by
  induction run with
  | nil => simp
  | snoc _ step ih =>
    have fewer := step.stepsLeft_lt
    simp only [List.length_append, List.length_singleton]
    omega

theorem one_le_attempts (settings : ScheduleSettings) : 1 ≤ settings.attempts :=
  Nat.le_max_right _ _

theorem stepsLeft_start (settings : ScheduleSettings) (slots : Nat) (tasks : List Task) :
    (State.start slots tasks).stepsLeft settings.attempts =
      (3 * settings.attempts - 1) * tasks.length := by
  have positive := one_le_attempts settings
  have first : (Phase.waiting 1).stepsLeft settings.attempts = 3 * settings.attempts - 1 := by
    simp only [Phase.stepsLeft]
    omega
  simp only [State.stepsLeft, State.start, List.map_const', List.map_replicate, first,
    List.sum_replicate_nat, Nat.mul_comm]

theorem Run.length_le (run : Run settings tasks (.start slots tasks) trace s) :
    trace.length ≤ (3 * settings.attempts - 1) * tasks.length := by
  have bound := run.length_add_stepsLeft_le
  rw [stepsLeft_start] at bound
  omega

theorem Run.aligned (run : Run settings tasks (.start slots tasks) trace s) :
    s.phases.length = tasks.length := by
  rw [run.length_phases]
  exact List.length_map _

theorem question_of_phase {i : Nat} {p : Phase} (aligned : s.phases.length = tasks.length)
    (phase : s.phases[i]? = some p) : ∃ question, tasks[i]? = some question := by
  obtain ⟨bound, -⟩ := List.getElem?_eq_some_iff.mp phase
  exact ⟨_, List.getElem?_eq_getElem (aligned ▸ bound)⟩

theorem finish_of_calling {i n : Nat} (replies : Nat → Nat → Reply)
    (aligned : s.phases.length = tasks.length) (phase : s.phases[i]? = some (.calling n)) :
    ∃ event u, Step settings tasks s event u ∧ Follows replies [event] := by
  obtain ⟨question, asked⟩ := question_of_phase aligned phase
  refine ⟨_, _, .finish (replies i n) (Nat.le_refl _) phase asked, ?_⟩
  intro e member reply ended
  obtain rfl := List.mem_singleton.mp member
  exact (Happening.ended.inj ended).symm

theorem exists_calling (busy : 0 < s.inFlight) : ∃ i n : Nat, s.phases[i]? = some (.calling n) := by
  obtain ⟨p, member, calling⟩ := List.countP_pos_iff.mp busy
  obtain ⟨i, phase⟩ := List.mem_iff_getElem?.mp member
  cases p with
  | calling n => exact ⟨i, n, phase⟩
  | waiting | sleeping | settled => cases calling

theorem follows_of_silent {replies : Nat → Nat → Reply}
    (silent : ∀ reply, event.what ≠ .ended reply) : Follows replies [event] := by
  intro e member reply ended
  obtain rfl := List.mem_singleton.mp member
  exact absurd ended (silent reply)

/-- No deadlock: a waiting task finds a permit unless all of them are with calls in flight, and such
a call can end, with any reply. -/
theorem exists_step (settings : ScheduleSettings) (replies : Nat → Nat → Reply)
    (permits : Permits slots s) (positive : 0 < slots) (aligned : s.phases.length = tasks.length)
    (unsettled : ∃ p ∈ s.phases, p.isSettled = false) :
    ∃ event u, Step settings tasks s event u ∧ Follows replies [event] := by
  obtain ⟨p, member, unsettled⟩ := unsettled
  obtain ⟨i, phase⟩ := List.mem_iff_getElem?.mp member
  cases p with
  | settled outcome => cases unsettled
  | calling n => exact finish_of_calling replies aligned phase
  | sleeping n since =>
    exact ⟨_, _, .wake (Nat.le_max_left s.now (since + settings.backoffNanos)) phase
      (Nat.le_max_right _ _), follows_of_silent fun _ => Happening.noConfusion⟩
  | waiting n =>
    cases free : s.free with
    | zero =>
      have conserved := permits.conserved
      obtain ⟨j, m, calling⟩ := exists_calling (s := s) (by omega)
      exact finish_of_calling replies aligned calling
    | succ free' =>
      obtain ⟨question, asked⟩ := question_of_phase aligned phase
      exact ⟨_, _, .start (Nat.le_refl _) phase asked free,
        follows_of_silent fun _ => Happening.noConfusion⟩

theorem returns_of_settled (settled : ∀ p ∈ s.phases, p.isSettled = true) :
    ∃ outcomes, s.Returns outcomes := by
  unfold State.Returns
  generalize s.phases = phases at settled
  induction phases with
  | nil => exact ⟨[], rfl⟩
  | cons head tail ih =>
    obtain ⟨outcomes, rest⟩ := ih fun p member => settled p (List.mem_cons_of_mem _ member)
    have first := settled head List.mem_cons_self
    cases head with
    | settled outcome => exact ⟨outcome :: outcomes, by rw [rest, List.map_cons]⟩
    | waiting | calling | sleeping => cases first

theorem Complete.returns (complete : Complete settings slots tasks trace final)
    (positive : 0 < slots) : ∃ outcomes, final.Returns outcomes := by
  apply returns_of_settled
  intro p member
  cases unsettled : p.isSettled with
  | true => rfl
  | false =>
    obtain ⟨event, u, step, -⟩ := exists_step settings (fun _ _ => .text []) complete.run.permits
      positive complete.run.aligned ⟨p, member, unsettled⟩
    exact absurd step (complete.stuck event u)

theorem Returns.length {outcomes : List Outcome} (returns : s.Returns outcomes) :
    outcomes.length = s.phases.length := by
  rw [returns, List.length_map]

/-- Where all tasks are settled nothing can happen any more. -/
theorem stuck_of_returns {outcomes : List Outcome} (returns : s.Returns outcomes) (event : Event)
    (u : State) : ¬ Step settings tasks s event u := by
  have settled : ∀ (i : Nat) (p : Phase), s.phases[i]? = some p → p.isSettled = true := by
    intro i p phase
    rw [returns, List.getElem?_map] at phase
    obtain ⟨outcome, -, rfl⟩ := Option.map_eq_some_iff.mp phase
    rfl
  intro step
  cases step with
  | start _ phase | finish _ _ phase | wake _ phase => cases settled _ _ phase

theorem Follows.append {replies : Nat → Nat → Reply} {rest : List Event}
    (first : Follows replies trace) (second : Follows replies rest) :
    Follows replies (trace ++ rest) := by
  intro e member
  rcases List.mem_append.mp member with earlier | later
  · exact first e earlier
  · exact second e later

/-- Every run can be brought to its end, whatever the replies, by induction on the steps that are
left. -/
theorem Run.completes (run : Run settings tasks (.start slots tasks) trace s)
    (positive : 0 < slots) (replies : Nat → Nat → Reply) :
    ∃ rest final outcomes, Run settings tasks s rest final ∧ Follows replies rest ∧
      final.Returns outcomes := by
  induction left : s.stepsLeft settings.attempts using Nat.strongRecOn generalizing s trace with
  | ind left ih =>
    by_cases settled : ∀ p ∈ s.phases, p.isSettled = true
    · obtain ⟨outcomes, returns⟩ := returns_of_settled settled
      exact ⟨[], s, outcomes, .nil, fun e member => absurd member List.not_mem_nil, returns⟩
    · obtain ⟨event, u, step, follows⟩ :=
        exists_step settings replies run.permits positive run.aligned (by simpa using settled)
      obtain ⟨rest, final, outcomes, later, followed, returns⟩ := ih _ (left ▸ step.stepsLeft_lt)
        (run.snoc step) rfl
      exact ⟨[event] ++ rest, final, outcomes, (Run.nil.snoc step).append later,
        follows.append followed, returns⟩

end CodeWiki.Schedule.Interleaving
