import CodeWiki.Proofs.Schedule.Backoff
import CodeWiki.Proofs.Schedule.Refinement

/-! What a wiki's tasks come to, and what holds of the permits, in every order of the tasks. The
timed run is one of these orders, whatever the latencies of its calls. -/
namespace CodeWiki.Schedule.Interleaving

section Tasks

variable (pool : KeyPool) (overview : OverviewBrief) (briefs : List Brief)

theorem length_ofWiki : (Task.ofWiki pool overview briefs).length = briefs.length + 1 := by
  simp only [Task.ofWiki, Task.ofBriefs, List.length_cons, List.length_map, List.length_zipIdx]

end Tasks

variable {settings : ScheduleSettings} {tasks : List Task} {slots : Nat}
  {replies replies' : Nat → Nat → Reply} {trace trace' : List Event} {final final' : State}
  {outcomes outcomes' : List Outcome}

/-- The outcome of a task depends on no reply but its own, and on nothing else in a run. -/
theorem Complete.outcome_unique {i : Nat} (complete : Complete settings slots tasks trace final)
    (follows : Follows replies trace) (returns : final.Returns outcomes)
    (complete' : Complete settings slots tasks trace' final') (follows' : Follows replies' trace')
    (returns' : final'.Returns outcomes') (same : replies i = replies' i) :
    outcomes[i]? = outcomes'[i]? := by
  cases asked : tasks[i]? with
  | none =>
    have beyond := List.getElem?_eq_none_iff.mp asked
    have size :
      outcomes.length = tasks.length := by rw [Returns.length returns, complete.run.aligned]
    have size' : outcomes'.length = tasks.length := by
      rw [Returns.length returns', complete'.run.aligned]
    rw [List.getElem?_eq_none (size ▸ beyond), List.getElem?_eq_none (size' ▸ beyond)]
  | some question =>
    obtain ⟨outcome, made, here, settles, -⟩ := complete.run.settles follows returns asked
    obtain ⟨outcome', made', here', settles', -⟩ := complete'.run.settles follows' returns' asked
    obtain ⟨-, rfl⟩ := settles.unique (same ▸ settles')
    rw [here, here']

/-- Where the replies to a task differ at most in what is reported of a crash, so do its outcomes,
and there are as many calls. -/
theorem Complete.settles_alike {i : Nat} {question : Task}
    (complete : Complete settings slots tasks trace final) (follows : Follows replies trace)
    (returns : final.Returns outcomes) (complete' : Complete settings slots tasks trace' final')
    (follows' : Follows replies' trace') (returns' : final'.Returns outcomes')
    (alike : ∀ n, (replies i n).SameButReport (replies' i n)) (asked : tasks[i]? = some question) :
    ∃ outcome outcome' made, outcomes[i]? = some outcome ∧ outcomes'[i]? = some outcome' ∧
      outcome.SameButReport question.subject outcome' ∧ CallsMade trace i question made ∧
      CallsMade trace' i question made := by
  obtain ⟨outcome, made, here, settles, calls⟩ := complete.run.settles follows returns asked
  obtain ⟨outcome', made', here', settles', calls'⟩ := complete'.run.settles follows' returns' asked
  obtain ⟨moved, settled, same⟩ := settles.transfer alike
  obtain ⟨rfl, rfl⟩ := settled.unique settles'
  exact ⟨outcome, moved, made, here, here', same, calls, calls'⟩

/-- In every state that some order of the tasks leads to, a permit is held exactly by the tasks with
a call in flight; each call of a task begins at least a backoff after the one before has ended; and
something can happen as long as a task is not settled, but only so often. -/
theorem permits_and_progress (settings : ScheduleSettings) (pool : KeyPool) (tasks : List Task) :
    (∀ (trace : List Event) (s : State), Run settings tasks (.start pool.size tasks) trace s →
      (s.free + s.inFlight = pool.size ∧ s.inFlight ≤ pool.size) ∧
      (s.holders.Nodup ∧ s.holders.length = s.inFlight ∧
        ∀ i, i ∈ s.holders ↔ ∃ attempt, s.phases[i]? = some (.calling attempt)) ∧
      Spaced settings.backoffNanos trace ∧
      ((∃ p ∈ s.phases, p.isSettled = false) → ∃ event u, Step settings tasks s event u) ∧
      trace.length ≤ (3 * settings.attempts - 1) * tasks.length ∧
      ((∀ event u, ¬ Step settings tasks s event u) →
        ∃ outcomes : List Outcome, s.Returns outcomes ∧ outcomes.length = tasks.length) ∧
      ∀ replies, ∃ rest final outcomes, Run settings tasks s rest final ∧
        Follows replies rest ∧ final.Returns outcomes) ∧
    ∀ (σ : Type) (provider : Provider σ) (memory : σ) (steps : Nat),
      Shadowed settings pool.size tasks provider memory
        (.runFor settings provider tasks steps (.start pool.size tasks memory)) [] := by
  refine ⟨fun trace s run => ?_, fun σ provider memory steps =>
    (shadowed_start settings pool.size tasks provider memory).runFor steps⟩
  obtain ⟨conserved, counted, distinct, held⟩ := run.permits
  refine ⟨⟨conserved, by omega⟩, ⟨distinct, counted, held⟩, run.spaced, fun unsettled => ?_,
    run.length_le, fun stuck => ?_, run.completes pool.nonempty⟩
  · obtain ⟨event, u, step, -⟩ := exists_step settings (fun _ _ => .text []) run.permits
      pool.nonempty run.aligned unsettled
    exact ⟨event, u, step⟩
  · obtain ⟨outcomes, returns⟩ := Complete.returns ⟨run, stuck⟩ pool.nonempty
    exact ⟨outcomes, returns, by rw [Returns.length returns, run.aligned]⟩

/-- With a single key, a module is asked about while the overview sleeps. -/
theorem module_called_while_overview_sleeps :
    ∃ trace, Run {} (Task.ofWiki ⟨[⟨"gsk_one"⟩], Nat.zero_lt_one⟩ ⟨[], []⟩ [⟨"src", "code"⟩])
        (.start 1 (Task.ofWiki ⟨[⟨"gsk_one"⟩], Nat.zero_lt_one⟩ ⟨[], []⟩ [⟨"src", "code"⟩])) trace
        ⟨3, 0, [1], [.sleeping 1 3, .calling 1]⟩ ∧
      trace.length = 3 ∧ trace.length ≤ 16 ∧
      State.inFlight ⟨3, 0, [1], [.sleeping 1 3, .calling 1]⟩ ≤ 1 ∧
      ∃ event u, Step {} (Task.ofWiki ⟨[⟨"gsk_one"⟩], Nat.zero_lt_one⟩ ⟨[], []⟩ [⟨"src", "code"⟩])
        ⟨3, 0, [1], [.sleeping 1 3, .calling 1]⟩ event u := by
  let tasks := Task.ofWiki ⟨[⟨"gsk_one"⟩], Nat.zero_lt_one⟩ ⟨[], []⟩ [⟨"src", "code"⟩]
  have first : Step {} tasks (.start 1 tasks) ⟨0, 0, 1, .started (tasks.get ⟨0, by decide⟩)⟩
      ⟨0, 0, [0], [.calling 1, .waiting 1]⟩ := .start (Nat.le_refl 0) rfl rfl rfl
  have throttled : Step {} tasks ⟨0, 0, [0], [.calling 1, .waiting 1]⟩
      ⟨3, 0, 1, .ended (.failure (.rateLimited none))⟩ ⟨3, 1, [], [.sleeping 1 3, .waiting 1]⟩ :=
    .finish (.failure (.rateLimited none)) (Nat.zero_le 3) rfl rfl
  have second : Step {} tasks ⟨3, 1, [], [.sleeping 1 3, .waiting 1]⟩
      ⟨3, 1, 1, .started (tasks.get ⟨1, by decide⟩)⟩
      ⟨3, 0, [1], [.sleeping 1 3, .calling 1]⟩ := .start (Nat.le_refl 3) rfl rfl rfl
  have run := ((Run.nil.snoc first).snoc throttled).snoc second
  obtain ⟨every, -⟩ := permits_and_progress {} ⟨[⟨"gsk_one"⟩], Nat.zero_lt_one⟩ tasks
  obtain ⟨⟨-, bounded⟩, -, -, progress, short, -, -⟩ := every _ _ run
  exact ⟨_, run, rfl, short, bounded, progress ⟨.calling 1, by decide, rfl⟩⟩

end CodeWiki.Schedule.Interleaving
