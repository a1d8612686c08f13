import CodeWiki.Schedule.Run

/-! Tasks in any order. Nothing is said here of queues or latencies: a waiting task may take any
permit that is available, a call may end with any reply at any time, and a task may come back from
its backoff at any time from its end on. `Schedule.run` takes one of these orders. -/
namespace CodeWiki.Schedule.Interleaving

/-- How far a task has come. Attempts count from one; times are in nanoseconds. -/
inductive Phase where
  /-- It waits for a permit, to make the given attempt. -/
  | waiting (attempt : Nat)
  /-- Its call is in flight. -/
  | calling (attempt : Nat)
  /-- The attempt was throttled at the time `since`, and the task sleeps through its backoff. -/
  | sleeping (attempt since : Nat)
  | settled (outcome : Outcome)
deriving DecidableEq, Repr

namespace Phase

def isCalling : Phase → Bool
  | calling _ => true
  | _ => false

def isSettled : Phase → Bool
  | settled _ => true
  | _ => false

/-- What follows a reply: the task is settled or goes to sleep. A crash settles it as well. -/
def afterReply (settings : ScheduleSettings) (subject : Subject) (attempt time : Nat)
    (reply : Reply) : Phase :=
  match Outcome.after? settings.attempts subject attempt reply with
  | some outcome => settled outcome
  | none => sleeping attempt time

end Phase

inductive Happening where
  /-- It takes a permit and makes a call with the given question. -/
  | started (question : Task)
  /-- Its call ends with a reply, or crashes, and the permit goes back. -/
  | ended (reply : Reply)
  /-- Its backoff ends. -/
  | woke
deriving DecidableEq, Repr

/-- Something that happens to the task with the given number. -/
structure Event where
  time : Nat
  task : Nat
  attempt : Nat
  what : Happening
deriving DecidableEq, Repr

/-- The tasks of a run, and the permits: how many are available, and which tasks hold one. -/
structure State where
  now : Nat := 0
  free : Nat
  holders : List Nat := []
  phases : List Phase
deriving DecidableEq, Repr

namespace State

def start (slots : Nat) (tasks : List Task) : State where
  free := slots
  phases := tasks.map fun _ => .waiting 1

def inFlight (s : State) : Nat := s.phases.countP Phase.isCalling

/-- Every task is settled, and these are the outcomes in the order of the tasks. -/
def Returns (s : State) (outcomes : List Outcome) : Prop := s.phases = outcomes.map .settled

end State

/-- One step of some task. Time never goes back. -/
inductive Step (settings : ScheduleSettings) (tasks : List Task) :
    State → Event → State → Prop where
  | start {s time i attempt free question} : s.now ≤ time →
      s.phases[i]? = some (.waiting attempt) → tasks[i]? = some question → s.free = free + 1 →
      Step settings tasks s ⟨time, i, attempt, .started question⟩
        ⟨time, free, i :: s.holders, s.phases.set i (.calling attempt)⟩
  | finish {s time i attempt question} (reply : Reply) : s.now ≤ time →
      s.phases[i]? = some (.calling attempt) → tasks[i]? = some question →
      Step settings tasks s ⟨time, i, attempt, .ended reply⟩
        ⟨time, s.free + 1, s.holders.erase i,
          s.phases.set i (.afterReply settings question.subject attempt time reply)⟩
  | wake {s time i attempt since} : s.now ≤ time →
      s.phases[i]? = some (.sleeping attempt since) → since + settings.backoffNanos ≤ time →
      Step settings tasks s ⟨time, i, attempt, .woke⟩
        ⟨time, s.free, s.holders, s.phases.set i (.waiting (attempt + 1))⟩

/-- Steps one after another, with what happens in them. -/
inductive Run (settings : ScheduleSettings) (tasks : List Task) (s : State) :
    List Event → State → Prop where
  | nil : Run settings tasks s [] s
  | snoc {trace t event u} : Run settings tasks s trace t → Step settings tasks t event u →
      Run settings tasks s (trace ++ [event]) u

structure Complete (settings : ScheduleSettings) (slots : Nat) (tasks : List Task)
    (trace : List Event) (final : State) : Prop where
  run : Run settings tasks (.start slots tasks) trace final
  stuck : ∀ event u, ¬ Step settings tasks final event u

/-- A call of the task with the given number. -/
structure Call where
  time : Nat
  task : Nat
  attempt : Nat
  question : Task
deriving DecidableEq, Repr

def Event.call? (e : Event) : Option Call :=
  match e.what with
  | .started question => some ⟨e.time, e.task, e.attempt, question⟩
  | _ => none

/-- The calls of all tasks in the order in which they are made. -/
def calls (trace : List Event) : List Call := trace.filterMap Event.call?

def callsOf (i : Nat) (trace : List Event) : List Call := (calls trace).filter (·.task = i)

/-- The replies in a trace are those laid down for each task and attempt. -/
def Follows (replies : Nat → Nat → Reply) (trace : List Event) : Prop :=
  ∀ e ∈ trace, ∀ reply, e.what = .ended reply → reply = replies e.task e.attempt

end CodeWiki.Schedule.Interleaving
