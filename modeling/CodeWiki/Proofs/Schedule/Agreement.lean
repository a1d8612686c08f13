import CodeWiki.Proofs.Schedule.EveryOrder

/-! Runs that agree. Where a reply depends on nothing but the prompt, the key and the number of the
attempt, neither the order of the tasks nor who answers makes a difference to the outcomes and to
the calls. -/
namespace CodeWiki.Schedule

namespace Interleaving

variable {settings : ScheduleSettings} {slots : Nat} {tasks : List Task}
  {f f' : Prompt → Credential → Nat → Reply} {replies : Nat → Nat → Reply}
  {trace trace' : List Event}
  {s final final' : State} {outcomes outcomes' : List Outcome} {i n made : Nat} {question : Task}

/-- The replies to each task when they depend on the prompt, the key and the number of the
attempt. -/
def repliesTo (f : Prompt → Credential → Nat → Reply) (tasks : List Task) (i n : Nat) : Reply :=
  match tasks[i]? with
  | some question => f question.prompt question.key n
  | none => .text []

theorem repliesTo_eq (f : Prompt → Credential → Nat → Reply) (asked : tasks[i]? = some question)
    (n : Nat) : repliesTo f tasks i n = f question.prompt question.key n := by
  simp only [repliesTo, asked]

theorem CallsMade.length (calls : CallsMade trace i question made) :
    (callsOf i trace).length = made := by
  simpa using congrArg List.length calls

theorem CallsMade.exists_call (made : CallsMade trace i question n) (positive : 1 ≤ n) :
    ∃ c ∈ calls trace, c.task = i ∧ c.attempt = n := by
  have last : (n, question) ∈ (List.range' 1 n).map fun m => (m, question) := by
    refine List.mem_map.mpr ⟨n, List.mem_range'_1.mpr ?_, rfl⟩
    omega
  rw [← made] at last
  obtain ⟨c, member, same⟩ := List.mem_map.mp last
  obtain ⟨called, own⟩ := List.mem_filter.mp member
  exact ⟨c, called, by simpa using own, congrArg Prod.fst same⟩

/-- Attempts are counted by the calls that were made before. -/
theorem CallsMade.attempt {before after : List Call} {c : Call}
    (calls : CallsMade trace c.task question made)
    (split : Interleaving.calls trace = before ++ c :: after) :
    c.attempt = (before.filter (·.task = c.task)).length + 1 := by
  have own : callsOf c.task trace = before.filter (·.task = c.task) ++
      c :: after.filter (·.task = c.task) := by
    rw [callsOf, split, List.filter_append, List.filter_cons_of_pos (by simp)]
  have attempts : (callsOf c.task trace).map Call.attempt = List.range' 1 made := by
    simpa [Function.comp_def] using congrArg (List.map Prod.fst) calls
  rw [own, List.map_append, List.map_cons] at attempts
  obtain ⟨k, -, earlier, rest⟩ := List.range'_eq_append_iff.mp attempts.symm
  obtain ⟨next, -⟩ := List.range'_eq_cons_iff.mp rest.symm
  have size := congrArg List.length earlier
  rw [List.length_map, List.length_range'] at size
  omega

theorem Run.question_of_call (run : Run settings tasks (.start slots tasks) trace s) :
    ∀ c ∈ calls trace, tasks[c.task]? = some c.question := by
  induction run with
  | nil => intro c member; cases member
  | snoc _ step ih =>
    intro c member
    rw [calls_append] at member
    rcases List.mem_append.mp member with old | new
    · exact ih c old
    · cases step with
      | finish | wake => cases new
      | start _ _ asked =>
        obtain rfl := List.mem_singleton.mp new
        exact asked

theorem Run.call_of_ended (run : Run settings tasks (.start slots tasks) trace s)
    (follows : Follows replies trace) : ∀ e ∈ trace, ∀ reply, e.what = .ended reply →
      ∃ c ∈ calls trace, c.task = e.task ∧ c.attempt = e.attempt := by
  induction run with
  | nil => intro e member; cases member
  | snoc run step ih =>
    intro e member reply ended
    rw [calls_append]
    have followed := fun e member => follows e (List.mem_append_left _ member)
    rcases List.mem_append.mp member with old | last
    · obtain ⟨c, called, same⟩ := ih followed e old reply ended
      exact ⟨c, List.mem_append_left _ called, same⟩
    · obtain rfl := List.mem_singleton.mp last
      cases step with
      | start | wake => cases ended
      | finish _ _ phase asked =>
        obtain ⟨made, ⟨rfl, positive, -⟩, calls⟩ := run.accounted followed _ _ _ asked phase
        obtain ⟨c, called, same⟩ := calls.exists_call positive
        exact ⟨c, List.mem_append_left _ called, same⟩

/-- A task that stands only once in the list is asked as often as its number is called. -/
theorem count_question (distinct : tasks.Nodup) {l : List Call}
    (own : ∀ c ∈ l, tasks[c.task]? = some c.question) (asked : tasks[i]? = some question) :
    (l.map Call.question).count question = (l.filter (·.task = i)).length := by
  obtain ⟨bound, -⟩ := List.getElem?_eq_some_iff.mp asked
  rw [List.count, List.countP_map, ← List.countP_eq_length_filter]
  apply List.countP_congr
  intro c member
  have here := own c member
  simp only [Function.comp_apply, beq_iff_eq, decide_eq_true_eq]
  constructor
  · rintro rfl
    exact ((List.getElem?_inj bound distinct).mp (asked.trans here.symm)).symm
  · rintro rfl
    exact Option.some.inj (here.symm.trans asked)

/-- Two lists of calls ask the same if there are as many of each task in the one as in the other. -/
theorem perm_questions (distinct : tasks.Nodup) {l l' : List Call}
    (own : ∀ c ∈ l, tasks[c.task]? = some c.question)
    (own' : ∀ c ∈ l', tasks[c.task]? = some c.question)
    (same : ∀ (i : Nat) (question : Task), tasks[i]? = some question →
      (l.filter (·.task = i)).length = (l'.filter (·.task = i)).length) :
    (l.map Call.question).Perm (l'.map Call.question) := by
  rw [List.perm_iff_count]
  intro question
  by_cases member : question ∈ tasks
  · obtain ⟨i, asked⟩ := List.mem_iff_getElem?.mp member
    rw [count_question distinct own asked, count_question distinct own' asked]
    exact same i question asked
  · -- what is no task is never asked
    have absent : ∀ l : List Call, (∀ c ∈ l, tasks[c.task]? = some c.question) →
        question ∉ l.map Call.question := by
      rintro l own asked
      obtain ⟨c, called, rfl⟩ := List.mem_map.mp asked
      exact member (List.mem_of_getElem? (own c called))
    rw [List.count_eq_zero_of_not_mem (absent l own),
      List.count_eq_zero_of_not_mem (absent l' own')]

/-- Outcomes of the same tasks that differ at most in what is reported of crashes. -/
structure SameButReports (tasks : List Task) (outcomes outcomes' : List Outcome) : Prop where
  length : outcomes.length = tasks.length
  length' : outcomes'.length = tasks.length
  each : ∀ (i : Nat) (question : Task), tasks[i]? = some question → ∃ outcome outcome',
    outcomes[i]? = some outcome ∧ outcomes'[i]? = some outcome' ∧
    outcome.SameButReport question.subject outcome'

theorem SameButReports.eq_of_succeeded (same : SameButReports tasks outcomes outcomes')
    (succeeded : outcomes.all (·.verdict = .succeeded) = true) : outcomes = outcomes' := by
  apply List.ext_getElem (same.length.trans same.length'.symm)
  intro i bound bound'
  have asked := List.getElem?_eq_getElem (same.length ▸ bound)
  obtain ⟨outcome, outcome', here, here', alike⟩ := same.each i _ asked
  obtain ⟨_, rfl⟩ := List.getElem?_eq_some_iff.mp here
  obtain ⟨_, rfl⟩ := List.getElem?_eq_some_iff.mp here'
  have verdict := List.all_eq_true.mp succeeded _ (List.getElem_mem bound)
  exact alike.eq_of_succeeded (of_decide_eq_true verdict)

/-- Two orders of the same tasks, with replies that depend on the prompt, the key and the attempt
but for what is reported of crashes, agree on the calls for each task and but for these reports on
the outcomes. -/
theorem Complete.agree (distinct : tasks.Nodup)
    (alike : ∀ prompt key n, (f prompt key n).SameButReport (f' prompt key n))
    (complete : Complete settings slots tasks trace final)
    (follows : Follows (repliesTo f tasks) trace) (returns : final.Returns outcomes)
    (complete' : Complete settings slots tasks trace' final')
    (follows' : Follows (repliesTo f' tasks) trace') (returns' : final'.Returns outcomes') :
    ((calls trace).map Call.question).Perm ((calls trace').map Call.question) ∧
      SameButReports tasks outcomes outcomes' ∧ (f = f' → outcomes = outcomes') := by
  have settled : ∀ (i : Nat) (question : Task), tasks[i]? = some question →
      ∃ outcome outcome' made, outcomes[i]? = some outcome ∧ outcomes'[i]? = some outcome' ∧
        outcome.SameButReport question.subject outcome' ∧ CallsMade trace i question made ∧
        CallsMade trace' i question made := by
    intro i question asked
    refine complete.settles_alike follows returns complete' follows' returns' (fun n => ?_) asked
    rw [repliesTo_eq f asked, repliesTo_eq f' asked]
    exact alike question.prompt question.key n
  refine ⟨perm_questions distinct complete.run.question_of_call complete'.run.question_of_call ?_,
    ⟨?_, ?_, ?_⟩, ?_⟩
  · intro i question asked
    obtain ⟨-, -, made, -, -, -, calls, calls'⟩ := settled i question asked
    exact calls.length.trans calls'.length.symm
  · rw [Returns.length returns, complete.run.aligned]
  · rw [Returns.length returns', complete'.run.aligned]
  · intro i question asked
    obtain ⟨outcome, outcome', -, here, here', same, -⟩ := settled i question asked
    exact ⟨outcome, outcome', here, here', same⟩
  · rintro rfl
    apply List.ext_getElem?
    intro i
    exact complete.outcome_unique follows returns complete' follows' returns' rfl

end Interleaving

open Interleaving

variable {σ τ : Type} {settings : ScheduleSettings} {slots : Nat} {tasks : List Task}
  {f f' : Prompt → Credential → Nat → Reply} {provider : Provider σ} {provider' : Provider τ}
  {memory : σ} {memory' : τ}

/-- The provider's replies depend on the prompt, the key and the number of times that the task has
been asked. -/
def Provider.RepliesBy (f : Prompt → Credential → Nat → Reply) (provider : Provider σ)
    (memory : σ) : Prop :=
  ∀ (asked : List Task) (task : Task),
    (provider.call task (provider.answerAll memory asked).2).1.reply =
      f task.prompt task.key (asked.count task + 1)

theorem Provider.answerAll_append (provider : Provider σ) (memory : σ)
    (questions rest : List Task) : provider.answerAll memory (questions ++ rest) =
      ((provider.answerAll memory questions).1 ++
        (provider.answerAll (provider.answerAll memory questions).2 rest).1,
      (provider.answerAll (provider.answerAll memory questions).2 rest).2) := by
  induction questions generalizing memory with
  | nil => rfl
  | cons task questions ih => simp only [List.cons_append, answerAll, ih]

theorem Provider.length_answerAll (provider : Provider σ) (memory : σ) (questions : List Task) :
    (provider.answerAll memory questions).1.length = questions.length := by
  induction questions generalizing memory with
  | nil => rfl
  | cons task questions ih => simp only [answerAll, List.length_cons, ih]

theorem Provider.RepliesBy.reply_eq (known : provider.RepliesBy f memory) {before after : List Call}
    {c : Call} {reply : Call → Reply}
    (answers : (provider.answerAll memory ((before ++ c :: after).map Call.question)).1 =
      (before ++ c :: after).map reply) :
    reply c = f c.question.prompt c.question.key
      ((before.map Call.question).count c.question + 1) := by
  rw [List.map_append, List.map_append, List.map_cons, provider.answerAll_append] at answers
  obtain ⟨-, rest⟩ := List.append_inj answers (by
    rw [provider.length_answerAll, List.length_map, List.length_map])
  rw [← known]
  exact (List.cons.inj rest).1.symm

theorem Realizes.questions {run : Run σ} {replies : Nat → Nat → Reply}
    {trace : List Interleaving.Event} {final : Interleaving.State}
    (realizes : Realizes settings slots provider tasks memory run replies trace final) :
    run.calls.map CallRecord.task = (Interleaving.calls trace).map Call.question := by
  simpa [Function.comp_def] using congrArg (List.map Prod.snd) realizes.calls

/-- Since no task stands twice in the list, the times it has been asked are its attempts. -/
theorem Realizes.follows_repliesTo {run : Run σ} {replies : Nat → Nat → Reply}
    {trace : List Interleaving.Event} {final : Interleaving.State}
    (realizes : Realizes settings slots provider tasks memory run replies trace final)
    (distinct : tasks.Nodup) (known : provider.RepliesBy f memory) :
    Follows (repliesTo f tasks) trace := by
  intro e member reply ended
  have interleaved := realizes.complete.run
  obtain ⟨c, called, here, attempt⟩ :=
    interleaved.call_of_ended realizes.follows e member reply ended
  have asked := interleaved.question_of_call c called
  obtain ⟨outcome, made, -, -, calls⟩ :=
    interleaved.settles realizes.follows realizes.returns asked
  -- The provider has been asked about the task by the calls before this one, and by no others.
  obtain ⟨before, after, split⟩ := List.append_of_mem called
  have answers := congrArg Prod.fst realizes.answers
  rw [realizes.questions, split] at answers
  have count : (before.map Call.question).count c.question =
      (before.filter (·.task = c.task)).length := by
    refine count_question distinct (fun c' earlier => ?_) asked
    apply interleaved.question_of_call
    rw [split]
    exact List.mem_append_left _ earlier
  rw [realizes.follows e member reply ended, ← here, ← attempt, repliesTo_eq f asked,
    known.reply_eq answers, count, ← calls.attempt split]

/-- A run's outcomes and calls do not depend on the provider beyond what it replies, and the calls
not on what is reported of crashes. -/
theorem run_agrees (settings : ScheduleSettings) (positive : 0 < slots) (distinct : tasks.Nodup)
    (alike : ∀ prompt key n, (f prompt key n).SameButReport (f' prompt key n))
    (known : provider.RepliesBy f memory) (known' : provider'.RepliesBy f' memory') :
    ((run settings slots provider tasks memory).calls.map CallRecord.task).Perm
        ((run settings slots provider' tasks memory').calls.map CallRecord.task) ∧
      SameButReports tasks (run settings slots provider tasks memory).outcomes
        (run settings slots provider' tasks memory').outcomes ∧
      (f = f' → (run settings slots provider tasks memory).outcomes =
        (run settings slots provider' tasks memory').outcomes) := by
  obtain ⟨replies, trace, final, realizes⟩ :=
    run_realizes settings positive provider tasks memory
  obtain ⟨replies', trace', final', realizes'⟩ :=
    run_realizes settings positive provider' tasks memory'
  rw [realizes.questions, realizes'.questions]
  exact realizes.complete.agree distinct alike (realizes.follows_repliesTo distinct known)
    realizes.returns realizes'.complete (realizes'.follows_repliesTo distinct known')
    realizes'.returns

end CodeWiki.Schedule
