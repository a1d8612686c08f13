import CodeWiki.Schedule.Prompt

/-!
Runs of tasks in time. Calls are bounded by slots: a task takes a slot for each call and gives it
back when the call ends, so that a task in its wait holds none. Whoever finds no free slot queues
up, and a slot that is given back goes to the head of the queue. What becomes ready at the same time
goes on in the order in which it became ready.
-/
namespace CodeWiki.Schedule

/-- A call's reply, and the milliseconds until it is there. -/
structure Answer where
  reply : Reply
  latencyMs : Nat := 0
deriving DecidableEq, Repr

/-- Whoever answers calls, with what it remembers of them. -/
structure Provider (σ : Type) where
  call : Task → σ → Answer × σ

/-- Something that a task is about to do, with the number of the attempt. -/
inductive Event where
  /-- It asks for a slot. -/
  | request (task attempt : Nat)
  /-- It has been given a slot and makes its call. -/
  | granted (task attempt : Nat)
  /-- Its call ends. -/
  | ended (task attempt : Nat) (reply : Reply)
deriving DecidableEq, Repr

structure CallRecord where
  atMs : Nat
  task : Task
deriving DecidableEq, Repr

structure State (σ : Type) where
  nowMs : Nat := 0
  free : Nat
  /-- Events due now, in order. -/
  ready : List Event
  /-- Tasks without a slot, in order, with the number of their attempt. -/
  queue : List (Nat × Nat) := []
  /-- Events due later, in the order in which they were put off. -/
  timers : List (Nat × Event) := []
  finished : List (Nat × Outcome) := []
  /-- Calls, the latest first. -/
  calls : List CallRecord := []
  provider : σ

namespace State

variable {σ : Type}

/-- Puts an event off; without delay it comes behind everything that is due now. -/
def later (s : State σ) (delayMs : Nat) (event : Event) : State σ :=
  if delayMs = 0 then { s with ready := s.ready ++ [event] }
  else { s with timers := s.timers ++ [(s.nowMs + delayMs, event)] }

/-- Gives a slot back: to the head of the queue if there is one. -/
def release (s : State σ) : State σ :=
  match s.queue with
  | [] => { s with free := s.free + 1 }
  | (task, attempt) :: rest =>
    { s with queue := rest, ready := s.ready ++ [.granted task attempt] }

/-- Ends a call: the slot is given back, and the task is settled or waits for its next attempt. -/
def finish (s : State σ) (settings : ScheduleSettings) (subject : Subject) (task attempt : Nat)
    (reply : Reply) : State σ :=
  let s := s.release
  match Outcome.after? settings.attempts subject attempt reply with
  | some outcome => { s with finished := (task, outcome) :: s.finished }
  | none => s.later settings.backoffMs (.request task (attempt + 1))

/-- Makes a call. A call without latency ends at once. -/
def call (s : State σ) (settings : ScheduleSettings) (provider : Provider σ) (t : Task)
    (task attempt : Nat) : State σ :=
  let (answer, memory) := provider.call t s.provider
  let s := { s with provider := memory, calls := ⟨s.nowMs, t⟩ :: s.calls }
  if answer.latencyMs = 0 then s.finish settings t.subject task attempt answer.reply
  else s.later answer.latencyMs (.ended task attempt answer.reply)

def handle (s : State σ) (settings : ScheduleSettings) (provider : Provider σ) (tasks : List Task) :
    Event → State σ
  | .request task attempt =>
    match tasks[task]?, s.free with
    | some t, free + 1 => { s with free }.call settings provider t task attempt
    | _, _ => { s with queue := s.queue ++ [(task, attempt)] }
  | .granted task attempt =>
    match tasks[task]? with
    | some t => s.call settings provider t task attempt
    | none => s
  | .ended task attempt reply =>
    match tasks[task]? with
    | some t => s.finish settings t.subject task attempt reply
    | none => s

/-- The time of the next event that has been put off. -/
def nextTime? (s : State σ) : Option Nat := (s.timers.map Prod.fst).min?

/-- Goes on to the given time; what is due then becomes ready. -/
def advance (s : State σ) (time : Nat) : State σ :=
  { s with
    nowMs := time
    ready := (s.timers.filter (·.1 = time)).map Prod.snd
    timers := s.timers.filter (·.1 ≠ time) }

/-- One step: the first event that is ready, or on to the next time. None if nothing is left. -/
def step? (s : State σ) (settings : ScheduleSettings) (provider : Provider σ) (tasks : List Task) :
    Option (State σ) :=
  match s.ready with
  | event :: rest => some ({ s with ready := rest }.handle settings provider tasks event)
  | [] => s.nextTime?.map s.advance

/-- Steps until nothing is left, but no more than `fuel`. -/
def runFor (settings : ScheduleSettings) (provider : Provider σ) (tasks : List Task) :
    Nat → State σ → State σ
  | 0, s => s
  | fuel + 1, s =>
    match s.step? settings provider tasks with
    | some s => runFor settings provider tasks fuel s
    | none => s

/-- The beginning of a run: all tasks ask for a slot, in order. -/
def start (slots : Nat) (tasks : List Task) (memory : σ) : State σ where
  free := slots
  ready := (List.range tasks.length).map (.request · 1)
  provider := memory

def outcome (s : State σ) (subject : Subject) (task : Nat) : Outcome :=
  (s.finished.lookup task).getD (Outcome.ofReply subject 0 (.crash []))

end State

structure Run (σ : Type) where
  /-- The outcomes, in the order of the tasks. -/
  outcomes : List Outcome
  /-- The calls, in the order in which they were made. -/
  calls : List CallRecord
  elapsedMs : Nat
  provider : σ

/-- A bound for the steps of a run. Each attempt takes at most three events and puts off at most
two, for each of which the time may have to go on. -/
def maxSteps (settings : ScheduleSettings) (tasks : List Task) : Nat :=
  5 * settings.attempts * tasks.length

def run {σ : Type} (settings : ScheduleSettings) (slots : Nat) (provider : Provider σ)
    (tasks : List Task) (memory : σ) : Run σ :=
  let s := State.runFor settings provider tasks (maxSteps settings tasks)
    (State.start slots tasks memory)
  { outcomes := tasks.zipIdx.map fun (t, i) => s.outcome t.subject i
    calls := s.calls.reverse
    elapsedMs := s.nowMs
    provider := s.provider }

end CodeWiki.Schedule
