import CodeWiki.Proofs.Schedule.Clock
import CodeWiki.Proofs.Schedule.Retry

/-! The timed run is one of the interleavings. A state of the clock is shadowed by a state of the
permits: where each task stands says what its phase is. A slot that has been handed over but not yet
used still counts as an available permit, since the call has not begun. -/
namespace CodeWiki.Schedule

open Interleaving (calls getElem?_set_of_some)

/-- The replies to questions that are asked one after another, and what the provider remembers
then. -/
def Provider.answerAll {σ : Type} (provider : Provider σ) : σ → List Task → List Reply × σ
  | memory, [] => ([], memory)
  | memory, task :: rest =>
    let (answer, memory) := provider.call task memory
    let (replies, memory) := provider.answerAll memory rest
    (answer.reply :: replies, memory)

theorem Provider.answerAll_concat {σ : Type} (provider : Provider σ) {memory memory' : σ}
    {questions : List Task} {replies : List Reply}
    (earlier : provider.answerAll memory questions = (replies, memory')) (task : Task) :
    provider.answerAll memory (questions ++ [task]) =
      (replies ++ [(provider.call task memory').1.reply], (provider.call task memory').2) := by
  induction questions generalizing memory replies with
  | nil =>
    cases earlier
    rfl
  | cons head tail ih =>
    cases earlier
    simp only [List.cons_append, answerAll, ih rfl]

/-- Milliseconds of the clock in nanoseconds. -/
def nanos (ms : Nat) : Nat := ms * ScheduleSettings.nanosPerMilli

theorem backoff_le_nanos (settings : ScheduleSettings) (ms : Nat) :
    nanos ms + settings.backoffNanos ≤ nanos (ms + settings.backoffMs) := by
  simp only [nanos, ScheduleSettings.backoffMs, ScheduleSettings.nanosPerMilli]
  omega

theorem nanos_mono {ms ms' : Nat} (le : ms ≤ ms') : nanos ms ≤ nanos ms' :=
  Nat.mul_le_mul_right _ le

def Token.isGranted : Token → Bool
  | granted _ => true
  | _ => false

/-- The phase that a place stands for. A task whose backoff has been over since `dueMs` may count as
sleeping until it asks. -/
def Token.Shows (settings : ScheduleSettings) : Token → Interleaving.Phase → Prop
  | asking dueMs n, p => p = .waiting n ∨ ∃ m since, n = m + 1 ∧ p = .sleeping m since ∧
      since + settings.backoffNanos ≤ nanos dueMs
  | queued n, p | granted n, p => p = .waiting n
  | ending n _, p => p = .calling n
  | settled outcome, p => p = .settled outcome

section Depiction

variable {settings : ScheduleSettings} {tasks : List Task} {l l' : List (Nat × Token)}
  {free permits i : Nat} {a b : Token} {phases : List Interleaving.Phase}

/-- Every task stands somewhere, once, and the places agree with the phases and the permits. -/
structure Depicts (settings : ScheduleSettings) (tasks : List Task) (l : List (Nat × Token))
    (free : Nat) (phases : List Interleaving.Phase) (permits : Nat) : Prop where
  once : (l.map Prod.fst).Perm (List.range tasks.length)
  shown : ∀ i token, (i, token) ∈ l → ∃ p, phases[i]? = some p ∧ token.Shows settings p
  handedOut : permits = free + l.countP (·.2.isGranted)

theorem Depicts.perm (depicts : Depicts settings tasks l free phases permits) (perm : l.Perm l') :
    Depicts settings tasks l' free phases permits where
  once := (perm.map Prod.fst).symm.trans depicts.once
  shown i token member := depicts.shown i token (perm.mem_iff.mpr member)
  handedOut := by rw [depicts.handedOut, perm.countP_eq]

theorem Depicts.other (depicts : Depicts settings tasks ((i, a) :: l) free phases permits) {j : Nat}
    {token : Token} (member : (j, token) ∈ l) : i ≠ j := by
  have distinct := depicts.once.nodup_iff.mpr List.nodup_range
  rw [List.map_cons, List.nodup_cons] at distinct
  rintro rfl
  exact distinct.1 (List.mem_map.mpr ⟨_, member, rfl⟩)

/-- A step of one task: its place and its phase change, and all others stay. -/
theorem Depicts.move {p q : Interleaving.Phase}
    (depicts : Depicts settings tasks ((i, a) :: l) free phases permits) (free' permits' : Nat)
    (found : phases[i]? = some p) (shows : b.Shows settings q)
    (balance : permits' + free + (if a.isGranted then 1 else 0) =
      permits + free' + if b.isGranted then 1 else 0) :
    Depicts settings tasks ((i, b) :: l) free' (phases.set i q) permits' where
  once := depicts.once
  shown j token member := by
    simp only [getElem?_set_of_some found]
    rcases List.mem_cons.mp member with head | tail
    · cases head
      exact ⟨q, if_pos rfl, shows⟩
    · rw [if_neg (depicts.other tail)]
      exact depicts.shown j token (List.mem_cons_of_mem _ tail)
  handedOut := by
    have count := depicts.handedOut
    simp only [List.countP_cons] at count ⊢
    omega

/-- A place is given up for another one in the same phase. -/
theorem Depicts.replace {p : Interleaving.Phase}
    (depicts : Depicts settings tasks ((i, a) :: l) free phases permits) (free' : Nat)
    (found : phases[i]? = some p) (shows : b.Shows settings p)
    (balance : free + (if a.isGranted then 1 else 0) = free' + if b.isGranted then 1 else 0) :
    Depicts settings tasks ((i, b) :: l) free' phases permits := by
  have moved := depicts.move free' permits found shows (by omega)
  have unchanged : phases.set i p = phases := by
    obtain ⟨bound, rfl⟩ := List.getElem?_eq_some_iff.mp found
    exact List.set_getElem_self bound
  rwa [unchanged] at moved

theorem Depicts.question (depicts : Depicts settings tasks ((i, a) :: l) free phases permits) :
    ∃ question, tasks[i]? = some question := by
  have member : i ∈ List.range tasks.length := depicts.once.mem_iff.mp List.mem_cons_self
  exact ⟨_, List.getElem?_eq_getElem (List.mem_range.mp member)⟩

theorem Depicts.shown_head (depicts : Depicts settings tasks ((i, a) :: l) free phases permits) :
    ∃ p, phases[i]? = some p ∧ a.Shows settings p :=
  depicts.shown i a List.mem_cons_self

end Depiction

section Shadowing

variable {σ : Type} {settings : ScheduleSettings} {slots : Nat} {tasks : List Task}
  {provider : Provider σ} {memory : σ} {s t : State σ} {i n : Nat}

/-- The calls of a state in the two readings, and the replies: those of calls in flight are known to
the clock already and are put down in advance. -/
structure Ledger (provider : Provider σ) (memory : σ) (s : State σ) (l : List (Nat × Token))
    (trace : List Interleaving.Event) (log : List ((Nat × Nat) × Reply)) : Prop where
  recorded : s.calls.reverse.map (fun c => (nanos c.atMs, c.task)) =
    (calls trace).map fun c => (c.time, c.question)
  answered : provider.answerAll memory (s.calls.reverse.map CallRecord.task) =
    (log.map Prod.snd, s.provider)
  logged : log.map Prod.fst =
    (calls trace).map fun c => (c.task, c.attempt)
  pending : ∀ i n reply, (i, Token.ending n reply) ∈ l → ((i, n), reply) ∈ log
  replied : ∀ e ∈ trace, ∀ reply, e.what = .ended reply → ((e.task, e.attempt), reply) ∈ log

/-- The state `s`, with the places of the tasks that are being moved, shadowed by a run. -/
structure Shadow (settings : ScheduleSettings) (slots : Nat) (tasks : List Task)
    (provider : Provider σ) (memory : σ) (s : State σ) (moving : List (Nat × Token))
    (trace : List Interleaving.Event) (r : Interleaving.State)
    (log : List ((Nat × Nat) × Reply)) : Prop where
  run : Interleaving.Run settings tasks (.start slots tasks) trace r
  depicts : Depicts settings tasks (moving ++ s.tokens) s.free r.phases r.free
  ledger : Ledger provider memory s (moving ++ s.tokens) trace log
  fifo : s.queue ≠ [] → s.free = 0
  clock : r.now ≤ nanos s.nowMs
  timers : ∀ timer ∈ s.timers, s.nowMs ≤ timer.1

def Shadowed (settings : ScheduleSettings) (slots : Nat) (tasks : List Task)
    (provider : Provider σ) (memory : σ) (s : State σ) (moving : List (Nat × Token)) : Prop :=
  ∃ trace r log, Shadow settings slots tasks provider memory s moving trace r log

theorem Ledger.perm {l l' : List (Nat × Token)} {trace : List Interleaving.Event}
    {log : List ((Nat × Nat) × Reply)} (ledger : Ledger provider memory s l trace log)
    (fewer : ∀ i n reply, (i, Token.ending n reply) ∈ l' → (i, Token.ending n reply) ∈ l)
    (calls : t.calls = s.calls) (memories : t.provider = s.provider) :
    Ledger provider memory t l' trace log where
  recorded := by rw [calls, ledger.recorded]
  answered := by rw [calls, memories, ledger.answered]
  logged := ledger.logged
  pending i n reply member := ledger.pending i n reply (fewer i n reply member)
  replied := ledger.replied

/-- A task moves on to a place where no call of it is in flight. -/
theorem Ledger.move {l : List (Nat × Token)} {a b : Token} {trace : List Interleaving.Event}
    {log : List ((Nat × Nat) × Reply)} (ledger : Ledger provider memory s ((i, a) :: l) trace log)
    (idle : ∀ m reply, b ≠ .ending m reply) (calls : t.calls = s.calls)
    (memories : t.provider = s.provider) : Ledger provider memory t ((i, b) :: l) trace log := by
  refine ledger.perm ?_ calls memories
  intro j m reply member
  rcases List.mem_cons.mp member with head | tail
  · cases head
    exact absurd rfl (idle m reply)
  · exact List.mem_cons_of_mem _ tail

/-- An event that makes no call leaves the record as it is. -/
theorem Ledger.quiet {l : List (Nat × Token)} {trace : List Interleaving.Event}
    {log : List ((Nat × Nat) × Reply)} (ledger : Ledger provider memory s l trace log)
    (event : Interleaving.Event) (silent : event.call? = none)
    (known : ∀ reply, event.what = .ended reply → ((event.task, event.attempt), reply) ∈ log) :
    Ledger provider memory s l (trace ++ [event]) log := by
  have same : calls (trace ++ [event]) = calls trace := by
    rw [Interleaving.calls_append]
    simp [calls, silent]
  refine ⟨by rw [same, ledger.recorded], ledger.answered, by rw [same, ledger.logged],
    ledger.pending, fun e member reply ended => ?_⟩
  rcases List.mem_append.mp member with earlier | last
  · exact ledger.replied e earlier reply ended
  · obtain rfl := List.mem_singleton.mp last
    exact known reply ended

/-- A call of the clock is a start that the run can take down, with its reply at once. -/
theorem Ledger.call {l : List (Nat × Token)} {trace : List Interleaving.Event}
    {log : List ((Nat × Nat) × Reply)} {task : Task} {answer : Answer} {memory' : σ}
    (ledger : Ledger provider memory s l trace log)
    (answered : provider.call task s.provider = (answer, memory')) :
    Ledger provider memory { s with provider := memory', calls := ⟨s.nowMs, task⟩ :: s.calls }
      ((i, .ending n answer.reply) :: l) (trace ++ [⟨nanos s.nowMs, i, n, .started task⟩])
      (log ++ [((i, n), answer.reply)]) := by
  have made : calls (trace ++ [⟨nanos s.nowMs, i, n, .started task⟩]) =
      calls trace ++ [⟨nanos s.nowMs, i, n, task⟩] := Interleaving.calls_append _ _
  refine ⟨?_, ?_, ?_, ?_, ?_⟩
  · simp only [List.reverse_cons, List.map_append, made, ledger.recorded, List.map_cons,
      List.map_nil]
  · simp only [List.reverse_cons, List.map_append, List.map_cons, List.map_nil]
    rw [provider.answerAll_concat ledger.answered, answered]
  · simp only [List.map_append, made, ledger.logged, List.map_cons, List.map_nil]
  · intro j m reply member
    rcases List.mem_cons.mp member with head | tail
    · cases head
      exact List.mem_append_right _ List.mem_cons_self
    · exact List.mem_append_left _ (ledger.pending j m reply tail)
  · intro e member reply ended
    rcases List.mem_append.mp member with earlier | last
    · exact List.mem_append_left _ (ledger.replied e earlier reply ended)
    · obtain rfl := List.mem_singleton.mp last
      cases ended

end Shadowing
end CodeWiki.Schedule
