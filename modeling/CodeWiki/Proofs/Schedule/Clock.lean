import CodeWiki.Proofs.Schedule.Progress

/-! The timed run always ends within its bound. Every task stands at exactly one place of a state:
among the ready events, in the queue, among the timers or among the finished tasks. What it has
still to do there is counted in steps, so that no list has to be looked at in order. -/
namespace CodeWiki.Schedule

/-- What a place in a state says about the task that stands there. -/
inductive Token where
  /-- It asks for a slot, at the given time or later. -/
  | asking (dueMs attempt : Nat)
  | queued (attempt : Nat)
  | granted (attempt : Nat)
  /-- Its call is in flight and will end with the given reply. -/
  | ending (attempt : Nat) (reply : Reply)
  | settled (outcome : Outcome)
deriving DecidableEq, Repr

def Event.token (dueMs : Nat) : Event → Nat × Token
  | request i n => (i, .asking dueMs n)
  | granted i n => (i, .granted n)
  | ended i n reply => (i, .ending n reply)

namespace State

variable {σ : Type} {settings : ScheduleSettings} {provider : Provider σ} {tasks : List Task}
  {s t : State σ}

/-- The tasks of a state where they stand. -/
def tokens (s : State σ) : List (Nat × Token) :=
  s.ready.map (Event.token s.nowMs) ++ s.queue.map (fun q => (q.1, .queued q.2)) ++
    s.timers.map (fun t => t.2.token t.1) ++ s.finished.map fun f => (f.1, .settled f.2)

theorem tokens_of_ready {event : Event} {rest : List Event} (ready : s.ready = event :: rest) :
    s.tokens = event.token s.nowMs :: { s with ready := rest }.tokens := by
  simp only [tokens, ready, List.map_cons, List.cons_append]

theorem tokens_later (s : State σ) (delayMs : Nat) (event : Event) :
    (s.later delayMs event).tokens.Perm (event.token (s.nowMs + delayMs) :: s.tokens) := by
  rw [List.perm_iff_count]
  intro token
  unfold later
  split <;>
  · simp_all only [tokens, List.map_append, List.map_cons, List.map_nil, List.count_append,
      List.count_cons, List.count_nil, Nat.add_zero]
    omega

theorem tokens_enqueue (s : State σ) (i n : Nat) :
    { s with queue := s.queue ++ [(i, n)] }.tokens.Perm ((i, .queued n) :: s.tokens) := by
  rw [List.perm_iff_count]
  intro token
  simp only [tokens, List.map_append, List.map_cons, List.map_nil, List.count_append,
    List.count_cons, List.count_nil]
  omega

theorem tokens_settle (s : State σ) (i : Nat) (outcome : Outcome) :
    { s with finished := (i, outcome) :: s.finished }.tokens.Perm
      ((i, .settled outcome) :: s.tokens) := by
  rw [List.perm_iff_count]
  intro token
  simp only [tokens, List.map_cons, List.count_append, List.count_cons]
  omega

theorem tokens_queue {i n : Nat} {rest : List (Nat × Nat)} (queue : s.queue = (i, n) :: rest) :
    s.tokens.Perm ((i, .queued n) :: { s with queue := rest }.tokens) := by
  rw [List.perm_iff_count]
  intro token
  simp only [tokens, queue, List.map_cons, List.count_append, List.count_cons]
  omega

theorem tokens_hand_over (s : State σ) (i n : Nat) (rest : List (Nat × Nat)) :
    { s with queue := rest, ready := s.ready ++ [Event.granted i n] }.tokens.Perm
      ((i, .granted n) :: { s with queue := rest }.tokens) := by
  rw [List.perm_iff_count]
  intro token
  simp only [tokens, List.map_append, List.map_cons, List.map_nil, Event.token, List.count_append,
    List.count_cons, List.count_nil]
  omega

/-- Going on in time moves what is due from the timers to the ready events. -/
theorem tokens_advance (idle : s.ready = []) (time : Nat) :
    (s.advance time).tokens.Perm s.tokens := by
  have due : (s.timers.filter (·.1 = time)).map (fun t => t.2.token t.1) =
      ((s.timers.filter (·.1 = time)).map Prod.snd).map (Event.token time) := by
    rw [List.map_map]
    apply List.map_congr_left
    intro timer member
    obtain ⟨-, same⟩ := List.mem_filter.mp member
    simp only [decide_eq_true_eq] at same
    simp only [same, Function.comp_apply]
  have parts := (List.filter_append_perm (·.1 = time) s.timers).map fun t => t.2.token t.1
  rw [List.perm_iff_count] at parts ⊢
  intro token
  have split := parts token
  rw [List.map_append, due] at split
  simp only [ne_eq, decide_not, advance, tokens, idle, List.map_nil, List.nil_append,
    List.count_append] at split ⊢
  omega

end State

/-- A bound for the steps that a task still takes when its event is ready. -/
def Token.stepsLeft (attempts : Nat) : Token → Nat
  | asking _ n => 5 * (attempts - n) + 4
  | queued n | granted n => 5 * (attempts - n) + 3
  | ending n _ => 5 * (attempts - n) + 1
  | settled _ => 0

namespace State

variable {σ : Type} {settings : ScheduleSettings} {provider : Provider σ} {tasks : List Task}
  {s t : State σ} {attempts : Nat}

def tokenSteps (attempts : Nat) (tokens : List (Nat × Token)) : Nat :=
  (tokens.map fun token => token.2.stepsLeft attempts).sum

theorem tokenSteps_perm {l l' : List (Nat × Token)} (perm : l.Perm l') :
    tokenSteps attempts l = tokenSteps attempts l' :=
  (perm.map _).sum_nat

theorem tokenSteps_cons (token : Nat × Token) (l : List (Nat × Token)) :
    tokenSteps attempts (token :: l) = token.2.stepsLeft attempts + tokenSteps attempts l := rfl

/-- The steps of the tasks, and one for each time that the clock has to go on to. -/
def stepsLeft (attempts : Nat) (s : State σ) : Nat :=
  tokenSteps attempts s.tokens + s.timers.length

theorem stepsLeft_of_ready {event : Event} {rest : List Event} (ready : s.ready = event :: rest) :
    s.stepsLeft attempts = (event.token s.nowMs).2.stepsLeft attempts +
      { s with ready := rest }.stepsLeft attempts := by
  simp only [stepsLeft, tokens_of_ready ready, tokenSteps_cons, Nat.add_assoc]

theorem stepsLeft_later (attempts : Nat) (s : State σ) (delayMs : Nat) (event : Event) :
    (s.later delayMs event).stepsLeft attempts ≤
      (event.token (s.nowMs + delayMs)).2.stepsLeft attempts + s.stepsLeft attempts + 1 := by
  have timers : (s.later delayMs event).timers.length ≤ s.timers.length + 1 := by
    unfold later
    split <;> simp
  rw [stepsLeft, tokenSteps_perm (s.tokens_later delayMs event), tokenSteps_cons, stepsLeft]
  omega

theorem stepsLeft_release (attempts : Nat) (s : State σ) :
    s.release.stepsLeft attempts = s.stepsLeft attempts := by
  unfold release
  split
  · rfl
  · rename_i i n rest queue
    rw [stepsLeft, stepsLeft, tokenSteps_perm (tokens_hand_over s i n rest),
      tokenSteps_perm (tokens_queue queue)]
    rfl

theorem stepsLeft_finish (settings : ScheduleSettings) (s : State σ) (subject : Subject) (i n : Nat)
    (reply : Reply) : (s.finish settings subject i n reply).stepsLeft settings.attempts ≤
      5 * (settings.attempts - n) + s.stepsLeft settings.attempts := by
  have released := s.stepsLeft_release settings.attempts
  unfold finish
  dsimp only
  split
  · rename_i outcome _
    rw [stepsLeft, tokenSteps_perm (tokens_settle _ i outcome), tokenSteps_cons, ← released]
    simp only [Token.stepsLeft, stepsLeft]
    omega
  · rename_i again
    obtain ⟨-, left⟩ := Interleaving.after?_eq_none_iff.mp again
    have bound := s.release.stepsLeft_later settings.attempts settings.backoffMs
      (.request i (n + 1))
    simp only [Event.token, Token.stepsLeft] at bound
    omega

theorem stepsLeft_call (settings : ScheduleSettings) (provider : Provider σ) (s : State σ)
    (task : Task) (i n : Nat) : (s.call settings provider task i n).stepsLeft settings.attempts ≤
      5 * (settings.attempts - n) + 2 + s.stepsLeft settings.attempts := by
  unfold call
  generalize provider.call task s.provider = answered
  obtain ⟨answer, memory⟩ := answered
  dsimp only
  split
  · have bound := stepsLeft_finish settings
      { s with provider := memory, calls := ⟨s.nowMs, task⟩ :: s.calls }
      task.subject i n answer.reply
    have same : { s with provider := memory, calls := ⟨s.nowMs, task⟩ :: s.calls }.stepsLeft
      settings.attempts = s.stepsLeft settings.attempts := rfl
    omega
  · have bound := stepsLeft_later settings.attempts
      { s with provider := memory, calls := ⟨s.nowMs, task⟩ :: s.calls } answer.latencyMs
      (.ended i n answer.reply)
    have same : { s with provider := memory, calls := ⟨s.nowMs, task⟩ :: s.calls }.stepsLeft
      settings.attempts = s.stepsLeft settings.attempts := rfl
    simp only [Event.token, Token.stepsLeft] at bound
    omega

theorem stepsLeft_handle (s : State σ) (event : Event) :
    (s.handle settings provider tasks event).stepsLeft settings.attempts <
      (event.token s.nowMs).2.stepsLeft settings.attempts + s.stepsLeft settings.attempts := by
  cases event with
  | request i n =>
    simp only [handle, Event.token, Token.stepsLeft]
    split
    · rename_i task free _ _
      have bound := stepsLeft_call settings provider
        { s with free } task i n
      have same : { s with free }.stepsLeft settings.attempts = s.stepsLeft settings.attempts := rfl
      omega
    · rw [stepsLeft, tokenSteps_perm (s.tokens_enqueue i n), tokenSteps_cons]
      simp only [Token.stepsLeft, stepsLeft]
      omega
  | granted i n =>
    simp only [handle, Event.token, Token.stepsLeft]
    split
    · rename_i task _
      have bound := stepsLeft_call settings provider s task i n
      omega
    · omega
  | ended i n reply =>
    simp only [handle, Event.token, Token.stepsLeft]
    split
    · rename_i task _
      have bound := stepsLeft_finish settings s task.subject i n reply
      omega
    · omega

theorem stepsLeft_advance {time : Nat} (idle : s.ready = []) (next : s.nextTime? = some time) :
    (s.advance time).stepsLeft attempts < s.stepsLeft attempts := by
  obtain ⟨timer, member, rfl⟩ := List.mem_map.mp (List.min?_mem next)
  have fewer : (s.advance timer.1).timers.length < s.timers.length := by
    apply List.length_filter_lt_length_iff_exists.mpr
    exact ⟨timer, member, by simp⟩
  rw [stepsLeft, stepsLeft, tokenSteps_perm (tokens_advance idle timer.1)]
  omega

theorem stepsLeft_of_step? (step : s.step? settings provider tasks = some t) :
    t.stepsLeft settings.attempts < s.stepsLeft settings.attempts := by
  unfold step? at step
  split at step
  · rename_i event rest ready
    cases step
    rw [stepsLeft_of_ready ready]
    exact stepsLeft_handle { s with ready := rest } event
  · rename_i idle
    obtain ⟨time, next, rfl⟩ := Option.map_eq_some_iff.mp step
    exact stepsLeft_advance idle next

theorem idle_of_step?_none (halts : s.step? settings provider tasks = none) :
    s.ready = [] ∧ s.timers = [] := by
  unfold step? at halts
  split at halts
  · cases halts
  · rename_i idle
    rw [Option.map_eq_none_iff, nextTime?, List.min?_eq_none_iff, List.map_eq_nil_iff] at halts
    exact ⟨idle, halts⟩

theorem step?_runFor (settings : ScheduleSettings) (provider : Provider σ) (tasks : List Task)
    {fuel : Nat} (enough : s.stepsLeft settings.attempts ≤ fuel) :
    (runFor settings provider tasks fuel s).step? settings provider tasks = none := by
  induction fuel generalizing s with
  | zero =>
    cases step : s.step? settings provider tasks with
    | none => exact step
    | some t =>
      have := stepsLeft_of_step? step
      omega
  | succ fuel ih =>
    cases step : s.step? settings provider tasks with
    | none => simp only [runFor, step]
    | some t =>
      have := stepsLeft_of_step? step
      simpa only [runFor, step] using ih (by omega)

theorem stepsLeft_start (settings : ScheduleSettings) (slots : Nat) (tasks : List Task)
    (memory : σ) :
    (start slots tasks memory).stepsLeft settings.attempts ≤ maxSteps settings tasks := by
  have positive := Interleaving.one_le_attempts settings
  have tokens : (start slots tasks memory).tokens =
      (List.range tasks.length).map fun i => (i, .asking 0 1) := by
    simp [State.tokens, start, Event.token]
  have each : 5 * (settings.attempts - 1) + 4 ≤ 5 * settings.attempts := by omega
  have total := Nat.mul_le_mul_left tasks.length each
  simp only [stepsLeft, tokenSteps, tokens, List.map_map, Function.comp_def, Token.stepsLeft,
    List.map_const', List.length_range, List.sum_replicate_nat, maxSteps]
  rw [Nat.mul_comm (5 * settings.attempts)]
  exact total

end State
end CodeWiki.Schedule
