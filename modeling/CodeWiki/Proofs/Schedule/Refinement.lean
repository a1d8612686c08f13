import CodeWiki.Proofs.Lookup
import CodeWiki.Proofs.Schedule.Shadow

/-! Each thing that the clock does is nothing, or a step of one task, or two, in the run that
shadows it. So the run that a clock ends with is one of the interleavings, with the same calls and
outcomes. -/
namespace CodeWiki.Schedule

open Interleaving (calls)

variable {σ : Type} {settings : ScheduleSettings} {slots : Nat} {tasks : List Task}
  {provider : Provider σ} {memory : σ} {s t : State σ} {i n : Nat}

/-- The same tasks in the same places, whatever list they are kept in. -/
theorem Shadow.keep {moving moving' : List (Nat × Token)} {trace : List Interleaving.Event}
    {r : Interleaving.State} {log : List ((Nat × Nat) × Reply)}
    (shadow : Shadow settings slots tasks provider memory s moving trace r log)
    (places : (moving ++ s.tokens).Perm (moving' ++ t.tokens)) (free : t.free = s.free)
    (calls : t.calls = s.calls) (memories : t.provider = s.provider)
    (fifo : t.queue ≠ [] → t.free = 0) (later : s.nowMs ≤ t.nowMs)
    (timers : ∀ timer ∈ t.timers, t.nowMs ≤ timer.1) :
    Shadowed settings slots tasks provider memory t moving' := by
  have depicts := shadow.depicts.perm places
  have ledger := shadow.ledger.perm (fun _ _ _ member => places.mem_iff.mpr member) calls memories
  exact ⟨trace, r, log, shadow.run, free ▸ depicts, ledger, fifo,
    Nat.le_trans shadow.clock (nanos_mono later), timers⟩

theorem Shadowed.pop {event : Event} {rest : List Event}
    (shadowed : Shadowed settings slots tasks provider memory s [])
    (ready : s.ready = event :: rest) :
    Shadowed settings slots tasks provider memory { s with ready := rest }
      [event.token s.nowMs] := by
  have places := State.tokens_of_ready ready
  obtain ⟨trace, r, log, shadow⟩ := shadowed
  refine shadow.keep ?_ rfl rfl rfl shadow.fifo (Nat.le_refl _) shadow.timers
  rw [places]
  exact List.Perm.refl _

theorem Shadowed.later {delayMs : Nat} {event : Event}
    (shadowed : Shadowed settings slots tasks provider memory s
      [event.token (s.nowMs + delayMs)]) :
    Shadowed settings slots tasks provider memory (s.later delayMs event) [] := by
  have places := s.tokens_later delayMs event
  obtain ⟨trace, r, log, shadow⟩ := shadowed
  unfold State.later at places ⊢
  split at places
  · rename_i now
    rw [if_pos now]
    exact shadow.keep places.symm rfl rfl rfl shadow.fifo (Nat.le_refl _) shadow.timers
  · rename_i put_off
    rw [if_neg put_off]
    refine shadow.keep places.symm rfl rfl rfl shadow.fifo (Nat.le_refl _) ?_
    intro timer member
    rcases List.mem_append.mp member with earlier | last
    · exact shadow.timers timer earlier
    · obtain rfl := List.mem_singleton.mp last
      exact Nat.le_add_right _ _

theorem Shadowed.enqueue
    (shadowed : Shadowed settings slots tasks provider memory s [(i, .queued n)])
    (taken : s.free = 0) :
    Shadowed settings slots tasks provider memory { s with queue := s.queue ++ [(i, n)] } [] := by
  obtain ⟨trace, r, log, shadow⟩ := shadowed
  exact shadow.keep (s.tokens_enqueue i n).symm rfl rfl rfl (fun _ => taken) (Nat.le_refl _)
    shadow.timers

theorem Shadowed.settle {outcome : Outcome}
    (shadowed : Shadowed settings slots tasks provider memory s [(i, .settled outcome)]) :
    Shadowed settings slots tasks provider memory
      { s with finished := (i, outcome) :: s.finished } [] := by
  obtain ⟨trace, r, log, shadow⟩ := shadowed
  exact shadow.keep (s.tokens_settle i outcome).symm rfl rfl rfl shadow.fifo (Nat.le_refl _)
    shadow.timers

theorem Shadowed.advance {time : Nat}
    (shadowed : Shadowed settings slots tasks provider memory s [])
    (idle : s.ready = []) (next : s.nextTime? = some time) :
    Shadowed settings slots tasks provider memory (s.advance time) [] := by
  obtain ⟨trace, r, log, shadow⟩ := shadowed
  obtain ⟨member, least⟩ := List.min?_eq_some_iff.mp next
  obtain ⟨timer, due, rfl⟩ := List.mem_map.mp member
  refine shadow.keep (State.tokens_advance idle timer.1).symm rfl rfl rfl shadow.fifo
    (shadow.timers timer due) ?_
  intro other left
  exact least other.1 (List.mem_map.mpr ⟨other, (List.mem_filter.mp left).1, rfl⟩)

/-- A task that asks for a slot has its backoff behind it. -/
theorem Shadowed.wake {dueMs : Nat}
    (shadowed : Shadowed settings slots tasks provider memory s [(i, .asking dueMs n)])
    (due : dueMs ≤ s.nowMs) :
    Shadowed settings slots tasks provider memory s [(i, .queued n)] := by
  obtain ⟨trace, r, log, run, depicts, ledger, fifo, clock, timers⟩ := shadowed
  obtain ⟨p, phase, waiting | ⟨m, since, next, sleeping, rested⟩⟩ := depicts.shown_head
  · refine ⟨trace, r, log, run, depicts.replace s.free phase waiting rfl, ?_, fifo, clock, timers⟩
    exact ledger.move (by simp) rfl rfl
  · subst sleeping next
    have rested := Nat.le_trans rested (nanos_mono due)
    have quiet := ledger.quiet ⟨nanos s.nowMs, i, m, .woke⟩ rfl (by simp)
    have moved := depicts.move (b := .queued (m + 1)) s.free r.free phase rfl rfl
    exact ⟨_, _, log, run.snoc (.wake clock phase rested), moved, quiet.move (by simp) rfl rfl,
      fifo, Nat.le_refl _, timers⟩

theorem Shadowed.grant {free : Nat}
    (shadowed : Shadowed settings slots tasks provider memory s [(i, .queued n)])
    (available : s.free = free + 1) :
    Shadowed settings slots tasks provider memory { s with free } [(i, .granted n)] := by
  obtain ⟨trace, r, log, run, depicts, ledger, fifo, clock, timers⟩ := shadowed
  obtain ⟨p, phase, waiting⟩ := depicts.shown_head
  have granted := depicts.replace (b := .granted n) free phase waiting available
  refine ⟨trace, r, log, run, granted, ledger.move (by simp) rfl rfl, ?_, clock, timers⟩
  intro queued
  have taken := fifo queued
  omega

/-- A task that has been given a slot starts its call. -/
theorem Shadowed.begin {task : Task} {answer : Answer} {memory' : σ}
    (shadowed : Shadowed settings slots tasks provider memory s [(i, .granted n)])
    (asked : tasks[i]? = some task) (answered : provider.call task s.provider = (answer, memory')) :
    Shadowed settings slots tasks provider memory
      { s with provider := memory', calls := ⟨s.nowMs, task⟩ :: s.calls }
      [(i, .ending n answer.reply)] := by
  obtain ⟨trace, r, log, run, depicts, ledger, fifo, clock, timers⟩ := shadowed
  obtain ⟨p, phase, rfl⟩ := depicts.shown_head
  obtain ⟨permits, available⟩ : ∃ permits, r.free = permits + 1 := by
    have handedOut := depicts.handedOut
    simp only [List.singleton_append, List.countP_cons, Token.isGranted, if_true] at handedOut
    exact ⟨_, handedOut⟩
  have moved := depicts.move (b := .ending n answer.reply) (q := .calling n) s.free permits phase
    rfl (show permits + s.free + 1 = r.free + s.free + 0 by omega)
  have quiet : Ledger provider memory s s.tokens trace log :=
    ledger.perm (fun _ _ _ => List.mem_cons_of_mem _) rfl rfl
  exact ⟨_, _, _, run.snoc (.start clock phase asked available), moved, quiet.call answered, fifo,
    Nat.le_refl _, timers⟩

/-- Where a task goes after a reply. -/
def Token.afterReply (settings : ScheduleSettings) (subject : Subject) (n nowMs : Nat)
    (reply : Reply) : Token :=
  match Outcome.after? settings.attempts subject n reply with
  | some outcome => settled outcome
  | none => asking (nowMs + settings.backoffMs) (n + 1)

theorem Token.afterReply_shows (settings : ScheduleSettings) (subject : Subject) (n nowMs : Nat)
    (reply : Reply) : (afterReply settings subject n nowMs reply).Shows settings
      (.afterReply settings subject n (nanos nowMs) reply) := by
  unfold afterReply Interleaving.Phase.afterReply
  cases Outcome.after? settings.attempts subject n reply with
  | some outcome => rfl
  | none => exact Or.inr ⟨n, nanos nowMs, rfl, rfl, backoff_le_nanos settings nowMs⟩

theorem Token.isGranted_afterReply (settings : ScheduleSettings) (subject : Subject) (n nowMs : Nat)
    (reply : Reply) : (afterReply settings subject n nowMs reply).isGranted = false := by
  unfold afterReply
  split <;> rfl

theorem Token.afterReply_ne_ending (settings : ScheduleSettings) (subject : Subject) (n nowMs : Nat)
    (reply : Reply) (m : Nat) (reply' : Reply) :
    afterReply settings subject n nowMs reply ≠ ending m reply' := by
  unfold afterReply
  split <;> exact Token.noConfusion

/-- A call ends, and its slot goes to the head of the queue if there is one. -/
theorem Shadowed.release {task : Task} {reply : Reply}
    (shadowed : Shadowed settings slots tasks provider memory s [(i, .ending n reply)])
    (asked : tasks[i]? = some task) :
    Shadowed settings slots tasks provider memory s.release
      [(i, .afterReply settings task.subject n s.nowMs reply)] := by
  obtain ⟨trace, r, log, run, depicts, ledger, fifo, clock, timers⟩ := shadowed
  obtain ⟨p, phase, rfl⟩ := depicts.shown_head
  have shows := Token.afterReply_shows settings task.subject n s.nowMs reply
  have ungranted := Token.isGranted_afterReply settings task.subject n s.nowMs reply
  have idle := Token.afterReply_ne_ending settings task.subject n s.nowMs reply
  have moved := depicts.move (s.free + 1) (r.free + 1) phase shows
    (by rw [ungranted]; simp only [Token.isGranted, Bool.false_eq_true, if_false]; omega)
  have known := ledger.pending i n reply List.mem_cons_self
  have settled := (ledger.quiet ⟨nanos s.nowMs, i, n, .ended reply⟩ rfl
    (by rintro _ ⟨⟩; exact known)).move (t := s) idle rfl rfl
  have ended := run.snoc (.finish reply clock phase asked)
  generalize Token.afterReply settings task.subject n s.nowMs reply = next at moved settled ⊢
  unfold State.release
  split
  · rename_i unqueued
    exact ⟨_, _, log, ended, moved, settled.perm (fun _ _ _ => id) rfl rfl,
      fun queued => absurd unqueued queued, Nat.le_refl _, timers⟩
  · rename_i j m rest queue
    have there : ((i, next) :: s.tokens).Perm
        ((j, .queued m) :: (i, next) :: { s with queue := rest }.tokens) :=
      ((State.tokens_queue queue).cons _).trans (List.Perm.swap _ _ _)
    have back := (List.Perm.swap (i, next) (j, .granted m) { s with queue := rest }.tokens).trans
      ((State.tokens_hand_over s j m rest).symm.cons _)
    have queued := moved.perm there
    obtain ⟨p, phase, waiting⟩ := queued.shown_head
    have handed := (queued.replace (b := .granted m) s.free phase waiting rfl).perm back
    have ledger := (settled.perm (fun _ _ _ => there.mem_iff.mpr) rfl rfl).move (b := .granted m)
      (t := s) (by simp) rfl rfl
    refine ⟨_, _, log, ended, handed, ledger.perm (fun _ _ _ => back.mem_iff.mpr) rfl rfl, ?_,
      Nat.le_refl _, timers⟩
    intro _
    exact fifo (by simp [queue])

theorem nowMs_release (s : State σ) : s.release.nowMs = s.nowMs := by
  unfold State.release
  split <;> rfl

theorem Shadowed.finish {task : Task} {reply : Reply}
    (shadowed : Shadowed settings slots tasks provider memory s [(i, .ending n reply)])
    (asked : tasks[i]? = some task) :
    Shadowed settings slots tasks provider memory
      (s.finish settings task.subject i n reply) [] := by
  have released := shadowed.release asked
  cases after : Outcome.after? settings.attempts task.subject n reply with
  | some outcome =>
    simp only [Token.afterReply, after] at released
    simp only [State.finish, after]
    exact released.settle
  | none =>
    simp only [Token.afterReply, after, ← nowMs_release s] at released
    simp only [State.finish, after]
    exact released.later

theorem Shadowed.call {task : Task}
    (shadowed : Shadowed settings slots tasks provider memory s [(i, .granted n)])
    (asked : tasks[i]? = some task) :
    Shadowed settings slots tasks provider memory (s.call settings provider task i n) [] := by
  unfold State.call
  cases answered : provider.call task s.provider with
  | mk answer memory' =>
    have begun := shadowed.begin asked answered
    dsimp only
    split
    · exact begun.finish asked
    · exact Shadowed.later begun

theorem Shadowed.handle {event : Event}
    (shadowed : Shadowed settings slots tasks provider memory s [event.token s.nowMs]) :
    Shadowed settings slots tasks provider memory (s.handle settings provider tasks event) [] := by
  obtain ⟨question, asked⟩ : ∃ question, tasks[(event.token s.nowMs).1]? = some question := by
    obtain ⟨trace, r, log, shadow⟩ := shadowed
    exact shadow.depicts.question
  cases event with
  | request i n =>
    have waiting := Shadowed.wake shadowed (Nat.le_refl _)
    simp only [Event.token] at asked
    cases free : s.free with
    | zero =>
      simpa only [State.handle, asked, free] using waiting.enqueue free
    | succ free' =>
      simp only [State.handle, asked, free]
      exact (waiting.grant free).call asked
  | granted i n =>
    simp only [Event.token] at asked
    simp only [State.handle, asked]
    exact shadowed.call asked
  | ended i n reply =>
    simp only [Event.token] at asked
    simp only [State.handle, asked]
    exact shadowed.finish asked

theorem Shadowed.step? (shadowed : Shadowed settings slots tasks provider memory s [])
    (step : s.step? settings provider tasks = some t) :
    Shadowed settings slots tasks provider memory t [] := by
  unfold State.step? at step
  split at step
  · rename_i event rest ready
    cases step
    exact Shadowed.handle (shadowed.pop ready)
  · rename_i idle
    obtain ⟨time, next, rfl⟩ := Option.map_eq_some_iff.mp step
    exact shadowed.advance idle next

theorem Shadowed.runFor (shadowed : Shadowed settings slots tasks provider memory s [])
    (fuel : Nat) :
    Shadowed settings slots tasks provider memory
      (State.runFor settings provider tasks fuel s) [] := by
  induction fuel generalizing s with
  | zero => exact shadowed
  | succ fuel ih =>
    cases step : s.step? settings provider tasks with
    | none => simpa only [State.runFor, step] using shadowed
    | some t => simpa only [State.runFor, step] using ih (shadowed.step? step)

theorem shadowed_start (settings : ScheduleSettings) (slots : Nat) (tasks : List Task)
    (provider : Provider σ) (memory : σ) :
    Shadowed settings slots tasks provider memory (.start slots tasks memory) [] := by
  have places : (State.start slots tasks memory).tokens =
      (List.range tasks.length).map fun i => (i, .asking 0 1) := by
    simp [State.tokens, State.start, Event.token]
  refine ⟨[], _, [], .nil, ?_, ?_, ?_, Nat.zero_le _, ?_⟩
  · rw [List.nil_append, places]
    refine ⟨?_, ?_, ?_⟩
    · simp [Function.comp_def]
    · intro i token member
      obtain ⟨j, bound, same⟩ := List.mem_map.mp member
      cases same
      exact ⟨.waiting 1, by simp [Interleaving.State.start, List.mem_range.mp bound], Or.inl rfl⟩
    · simp [State.start, Interleaving.State.start, Token.isGranted]
  · rw [List.nil_append, places]
    refine ⟨rfl, rfl, rfl, ?_, ?_⟩
    · simp
    · simp
  · simp [State.start]
  · simp [State.start]

theorem Depicts.token {l : List (Nat × Token)} {free permits : Nat}
    {phases : List Interleaving.Phase} (depicts : Depicts settings tasks l free phases permits)
    (bound : i < tasks.length) :
    ∃ token, (i, token) ∈ l := by
  have member : i ∈ l.map Prod.fst := depicts.once.mem_iff.mpr (List.mem_range.mpr bound)
  obtain ⟨place, there, rfl⟩ := List.mem_map.mp member
  exact ⟨place.2, there⟩

/-- Nothing is left in the queue when nothing is left to happen: each slot would have to be with a
call in flight. -/
theorem Shadow.queue_eq_nil {trace : List Interleaving.Event} {r : Interleaving.State}
    {log : List ((Nat × Nat) × Reply)}
    (shadow : Shadow settings slots tasks provider memory s [] trace r log) (positive : 0 < slots)
    (idle : s.ready = []) (untimed : s.timers = []) : s.queue = [] := by
  have resting : ∀ j token, (j, token) ∈ s.tokens →
      (∃ m, token = .queued m) ∨ ∃ outcome, token = .settled outcome := by
    intro j token member
    simp only [State.tokens, idle, untimed, List.map_nil, List.nil_append, List.append_nil,
      List.mem_append, List.mem_map] at member
    rcases member with ⟨q, -, same⟩ | ⟨f, -, same⟩
    · cases same
      exact Or.inl ⟨_, rfl⟩
    · cases same
      exact Or.inr ⟨_, rfl⟩
  cases queue : s.queue with
  | nil => rfl
  | cons head rest =>
    exfalso
    have taken : s.free = 0 := shadow.fifo (by simp [queue])
    have ungranted : s.tokens.countP (·.2.isGranted) = 0 := by
      rw [List.countP_eq_zero]
      rintro ⟨j, token⟩ member
      rcases resting j token member with ⟨m, rfl⟩ | ⟨outcome, rfl⟩ <;> exact Bool.false_ne_true
    have handedOut := shadow.depicts.handedOut
    rw [List.nil_append, taken, ungranted] at handedOut
    have conserved := shadow.run.permits.conserved
    obtain ⟨i, n, calling⟩ := Interleaving.exists_calling (s := r) (by omega)
    obtain ⟨bound, -⟩ := List.getElem?_eq_some_iff.mp calling
    obtain ⟨token, member⟩ := shadow.depicts.token (shadow.run.aligned ▸ bound)
    obtain ⟨p, phase, shows⟩ := shadow.depicts.shown i token member
    cases calling.symm.trans phase
    rcases resting i token member with ⟨m, rfl⟩ | ⟨outcome, rfl⟩ <;> cases shows

/-- A run with the interleaving that it takes, and the replies laid down in advance. -/
structure Realizes (settings : ScheduleSettings) (slots : Nat) (provider : Provider σ)
    (tasks : List Task) (memory : σ) (run : Run σ) (replies : Nat → Nat → Reply)
    (trace : List Interleaving.Event) (final : Interleaving.State) : Prop where
  complete : Interleaving.Complete settings slots tasks trace final
  follows : Interleaving.Follows replies trace
  returns : final.Returns run.outcomes
  calls : run.calls.map (fun c => (nanos c.atMs, c.task)) =
    (calls trace).map fun c => (c.time, c.question)
  answers : provider.answerAll memory (run.calls.map CallRecord.task) =
    ((Interleaving.calls trace).map fun c => replies c.task c.attempt, run.provider)

theorem outcome_of_settled {r : Interleaving.State}
    (depicts : Depicts settings tasks s.tokens s.free r.phases r.free) (idle : s.ready = [])
    (unqueued : s.queue = []) (untimed : s.timers = []) (subject : Subject)
    (bound : i < tasks.length) : r.phases[i]? = some (.settled (s.outcome subject i)) := by
  have places : s.tokens = s.finished.map fun f => (f.1, .settled f.2) := by
    simp only [State.tokens, idle, unqueued, untimed, List.map_nil, List.nil_append]
  obtain ⟨token, member⟩ := depicts.token bound
  obtain ⟨p, phase, shows⟩ := depicts.shown i token member
  rw [places] at member
  obtain ⟨⟨j, outcome⟩, there, same⟩ := List.mem_map.mp member
  cases same
  have distinct := depicts.once.nodup_iff.mpr List.nodup_range
  rw [places, List.map_map] at distinct
  rw [phase, shows, State.outcome, lookup_of_mem distinct there, Option.getD_some]

theorem run_realizes (settings : ScheduleSettings) (positive : 0 < slots) (provider : Provider σ)
    (tasks : List Task) (memory : σ) :
    ∃ replies trace final, Realizes settings slots provider tasks memory
      (Schedule.run settings slots provider tasks memory) replies trace final := by
  have halts := State.step?_runFor settings provider tasks
    (State.stepsLeft_start settings slots tasks memory)
  obtain ⟨trace, r, log, shadow⟩ :=
    (shadowed_start settings slots tasks provider memory).runFor (maxSteps settings tasks)
  unfold Schedule.run
  generalize State.runFor settings provider tasks (maxSteps settings tasks)
    (State.start slots tasks memory) = s at halts shadow ⊢
  obtain ⟨idle, untimed⟩ := State.idle_of_step?_none halts
  have unqueued := shadow.queue_eq_nil positive idle untimed
  have distinct : (log.map Prod.fst).Nodup := by
    rw [shadow.ledger.logged]
    exact shadow.run.calls_nodup
  have laidDown : ∀ entry ∈ log, ∀ other, (log.lookup entry.1).getD other = entry.2 := by
    intro entry member other
    rw [lookup_of_mem distinct member, Option.getD_some]
  have returns : r.Returns (tasks.zipIdx.map fun t => s.outcome t.1.subject t.2) := by
    apply List.ext_getElem
    · simp only [List.length_map, List.length_zipIdx, shadow.run.aligned]
    · intro i bound _
      have asked : i < tasks.length := shadow.run.aligned ▸ bound
      have phase := outcome_of_settled shadow.depicts idle unqueued untimed tasks[i].subject asked
      simpa [List.getElem?_eq_getElem bound] using phase
  refine ⟨fun i n => (log.lookup (i, n)).getD (.text []), trace, r, ⟨shadow.run,
    Interleaving.stuck_of_returns returns⟩, ?_, returns, shadow.ledger.recorded, ?_⟩
  · intro e member reply ended
    exact (laidDown _ (shadow.ledger.replied e member reply ended) _).symm
  · have keyed := congrArg (List.map fun key => (log.lookup key).getD (.text []))
      shadow.ledger.logged
    rw [List.map_map, List.map_map] at keyed
    rw [shadow.ledger.answered]
    refine Prod.ext (Eq.trans ?_ keyed) rfl
    exact List.map_congr_left fun entry member => (laidDown entry member _).symm

end CodeWiki.Schedule
