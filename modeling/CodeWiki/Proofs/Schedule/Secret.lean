import Mathlib.Data.List.Forall2
import CodeWiki.Proofs.Schedule.Agreement
import CodeWiki.Schedule.Transport

/-! Runs that differ in the secrets of their credentials only. They go on in lockstep: a secret
enters a request in one header and nowhere else, and whoever carries the requests does not act on
it. To refuse a request for the form of its credential would be to act on it. -/
namespace CodeWiki

/-! ### Requests -/

/-- The header in which a credential is shown to the backend. -/
def Backend.credentialHeader : Backend → Text
  | .groq => "authorization"
  | .gemini => "x-goog-api-key"

/-- Whether a URL belongs to the backend. -/
def Backend.Hosts : Backend → Text → Prop
  | .groq, url => url = Client.groqUrl
  | .gemini, url => Client.geminiBase ++ ['/'] <+: url

/-- Requests to the backend that are the same but for the value of its credential header. -/
structure HttpRequest.SameButCredential (backend : Backend) (r r' : HttpRequest) : Prop where
  hosted : backend.Hosts r.url
  url : r'.url = r.url
  body : r'.body = r.body
  timeoutSecs : r'.timeoutSecs = r.timeoutSecs
  headers : List.Forall₂
    (fun h h' => h'.1 = h.1 ∧ (h.1 ≠ backend.credentialHeader → h'.2 = h.2)) r.headers r'.headers

def HttpRequest.Alike (r r' : HttpRequest) : Prop := ∃ backend, SameButCredential backend r r'

/-- Tasks that differ in nothing but the secret of their credentials. -/
structure Task.Alike (t t' : Task) : Prop where
  subject : t'.subject = t.subject
  prompt : t'.prompt = t.prompt
  backend : t'.key.backend = t.key.backend

theorem Task.Alike.request {t t' : Task} (alike : t.Alike t') (client : Client) :
    (client.request t.key t.prompt).SameButCredential t.key.backend
      (client.request t'.key t'.prompt) := by
  cases kind : t.key.backend with
  | groq =>
    simp only [Client.request, alike.backend, alike.prompt, kind]
    refine ⟨rfl, rfl, rfl, rfl, .cons ⟨rfl, ?_⟩ (.cons ⟨rfl, fun _ => rfl⟩ .nil)⟩
    exact fun other => absurd rfl other
  | gemini =>
    simp only [Client.request, alike.backend, alike.prompt, kind]
    refine ⟨?_, rfl, rfl, rfl, .cons ⟨rfl, fun _ => rfl⟩ (.cons ⟨rfl, ?_⟩ .nil)⟩
    · refine ⟨"models/".toList ++ client.geminiModel ++ ":generateContent".toList, ?_⟩
      simp [Client.geminiUrl]
    · exact fun other => absurd rfl other

namespace Schedule

/-! ### Transports -/

/-- What a transport remembers after the given requests. -/
def Transport.after {σ : Type} (transport : Transport σ) (memory : σ)
    (requests : List HttpRequest) : σ :=
  requests.foldl (fun memory request => (transport.send request memory).2) memory

theorem Transport.after_concat {σ : Type} (transport : Transport σ) (memory : σ)
    (requests : List HttpRequest) (request : HttpRequest) :
    transport.after memory (requests ++ [request]) =
      (transport.send request (transport.after memory requests)).2 := by
  rw [Transport.after, List.foldl_append]
  rfl

/-- The transport does not act on credentials: after requests that differ in them only, such a
request has the same result and takes the same time. What is remembered may differ. -/
def Transport.IgnoresCredentials {σ : Type} (transport : Transport σ) (memory : σ) : Prop :=
  ∀ past past' r r', List.Forall₂ HttpRequest.Alike past past' → r.Alike r' →
    (transport.send r' (transport.after memory past')).1 =
      (transport.send r (transport.after memory past)).1 ∧
    transport.latencyMs r' (transport.after memory past') =
      transport.latencyMs r (transport.after memory past)

def CallRecord.request (client : Client) (c : CallRecord) : HttpRequest :=
  client.request c.task.key c.task.prompt

/-- Calls at the same time, for tasks that are alike. -/
structure CallRecord.Alike (c c' : CallRecord) : Prop where
  atMs : c'.atMs = c.atMs
  task : c.task.Alike c'.task

/-! ### Two runs in lockstep -/

/-- The state with other calls behind it. -/
def State.retrace {σ : Type} (s : State σ) (calls : List CallRecord) (memory : σ) : State σ :=
  { s with calls, provider := memory }

section Retrace

variable {σ : Type} (s : State σ) (calls' : List CallRecord) (memory' : σ)

theorem retrace_later (delayMs : Nat) (event : Event) :
    (s.retrace calls' memory').later delayMs event =
      (s.later delayMs event).retrace calls' memory' := by
  unfold State.later
  split <;> rfl

theorem retrace_release :
    (s.retrace calls' memory').release = s.release.retrace calls' memory' := by
  simp only [State.release, State.retrace]
  split <;> rfl

theorem retrace_finish (settings : ScheduleSettings) (subject : Subject) (task attempt : Nat)
    (reply : Reply) : (s.retrace calls' memory').finish settings subject task attempt reply =
      (s.finish settings subject task attempt reply).retrace calls' memory' := by
  simp only [State.finish, retrace_release]
  cases Outcome.after? settings.attempts subject attempt reply with
  | none => exact retrace_later _ _ _ _ _
  | some outcome => rfl

/-- Nothing but a call adds to the calls, or to what the provider remembers. -/
def State.SameTrace (s t : State σ) : Prop := t.calls = s.calls ∧ t.provider = s.provider

theorem sameTrace_later (delayMs : Nat) (event : Event) : s.SameTrace (s.later delayMs event) := by
  unfold State.later
  split <;> exact ⟨rfl, rfl⟩

theorem sameTrace_release : s.SameTrace s.release := by
  unfold State.release
  split <;> exact ⟨rfl, rfl⟩

theorem sameTrace_finish (settings : ScheduleSettings) (subject : Subject) (task attempt : Nat)
    (reply : Reply) : s.SameTrace (s.finish settings subject task attempt reply) := by
  have released := sameTrace_release s
  simp only [State.finish]
  cases Outcome.after? settings.attempts subject attempt reply with
  | none =>
    have put := sameTrace_later s.release settings.backoffMs (.request task (attempt + 1))
    exact ⟨put.1.trans released.1, put.2.trans released.2⟩
  | some outcome => exact released

/-- A state in which a question has just been asked. -/
def State.asking (provider : Provider σ) (t : Task) : State σ :=
  { s with calls := ⟨s.nowMs, t⟩ :: s.calls, provider := (provider.call t s.provider).2 }

/-- What the answer leads to, at once or later. -/
def State.answered (settings : ScheduleSettings) (subject : Subject) (task attempt : Nat)
    (answer : Answer) : State σ :=
  if answer.latencyMs = 0 then s.finish settings subject task attempt answer.reply
  else s.later answer.latencyMs (.ended task attempt answer.reply)

theorem call_eq_answered (settings : ScheduleSettings) (provider : Provider σ) (t : Task)
    (task attempt : Nat) : s.call settings provider t task attempt =
      (s.asking provider t).answered settings t.subject task attempt
        (provider.call t s.provider).1 := rfl

theorem retrace_answered (settings : ScheduleSettings) (subject : Subject) (task attempt : Nat)
    (answer : Answer) : (s.retrace calls' memory').answered settings subject task attempt answer =
      (s.answered settings subject task attempt answer).retrace calls' memory' := by
  unfold State.answered
  split
  · exact retrace_finish ..
  · exact retrace_later ..

theorem sameTrace_answered (settings : ScheduleSettings) (subject : Subject) (task attempt : Nat)
    (answer : Answer) : s.SameTrace (s.answered settings subject task attempt answer) := by
  unfold State.answered
  split
  · exact sameTrace_finish ..
  · exact sameTrace_later ..

end Retrace

section Lockstep

variable {σ : Type} {settings : ScheduleSettings} {client : Client} {transport : Transport σ}
  {memory memory' : σ} {tasks tasks' : List Task} {s t : State σ} {calls' : List CallRecord}

/-- The state `s`, and the same state with the calls of another run behind it. -/
structure Lockstep (client : Client) (transport : Transport σ) (memory : σ) (s : State σ)
    (calls' : List CallRecord) (memory' : σ) : Prop where
  calls : List.Forall₂ CallRecord.Alike s.calls calls'
  remembered : s.provider = transport.after memory (s.calls.reverse.map (·.request client))
  remembered' : memory' = transport.after memory (calls'.reverse.map (·.request client))

theorem Lockstep.keep (lockstep : Lockstep client transport memory s calls' memory')
    (same : s.SameTrace t) : Lockstep client transport memory t calls' memory' where
  calls := by rw [same.1]; exact lockstep.calls
  remembered := by rw [same.1, same.2]; exact lockstep.remembered
  remembered' := lockstep.remembered'

theorem Lockstep.past (lockstep : Lockstep client transport memory s calls' memory') :
    List.Forall₂ HttpRequest.Alike (s.calls.reverse.map (·.request client))
      (calls'.reverse.map (·.request client)) := by
  rw [List.forall₂_map_left_iff, List.forall₂_map_right_iff]
  refine (List.rel_reverse lockstep.calls).imp fun c c' alike => ?_
  exact ⟨_, alike.task.request client⟩

/-- Alike questions are answered alike, whatever the transport remembers of the secrets. -/
theorem Lockstep.answer {t t' : Task} (lockstep : Lockstep client transport memory s calls' memory')
    (ignores : transport.IgnoresCredentials memory) (alike : t.Alike t') :
    ((transport.provider client).call t' memory').1 =
      ((transport.provider client).call t s.provider).1 := by
  obtain ⟨result, latency⟩ := ignores _ _ _ _ lockstep.past ⟨_, alike.request client⟩
  rw [← lockstep.remembered, ← lockstep.remembered'] at result latency
  simp only [Transport.provider, result, latency, alike.backend]

theorem Lockstep.extend {t t' : Task} (lockstep : Lockstep client transport memory s calls' memory')
    (alike : t.Alike t') :
    Lockstep client transport memory (s.asking (transport.provider client) t)
      (⟨s.nowMs, t'⟩ :: calls') ((transport.provider client).call t' memory').2 where
  calls := .cons ⟨rfl, alike⟩ lockstep.calls
  remembered := by
    rw [State.asking, List.reverse_cons, List.map_append, List.map_singleton,
      transport.after_concat, ← lockstep.remembered]
    rfl
  remembered' := by
    rw [List.reverse_cons, List.map_append, List.map_singleton, transport.after_concat,
      ← lockstep.remembered']
    rfl

/-- Both states after a step: they are the same again but for the calls behind them. -/
def LockstepTo (client : Client) (transport : Transport σ) (memory : σ) (t t' : State σ) : Prop :=
  ∃ calls' memory', t' = t.retrace calls' memory' ∧
    Lockstep client transport memory t calls' memory'

theorem Lockstep.call {t t' : Task} (lockstep : Lockstep client transport memory s calls' memory')
    (ignores : transport.IgnoresCredentials memory) (alike : t.Alike t') (task attempt : Nat) :
    LockstepTo client transport memory
      (s.call settings (transport.provider client) t task attempt)
      ((s.retrace calls' memory').call settings (transport.provider client) t' task attempt) := by
  refine ⟨_, _, ?_, (lockstep.extend alike).keep (sameTrace_answered ..)⟩
  rw [call_eq_answered, call_eq_answered, ← retrace_answered, ← alike.subject,
    ← lockstep.answer ignores alike]
  rfl

theorem getElem?_alike (alike : List.Forall₂ Task.Alike tasks tasks') (i : Nat) :
    tasks[i]? = none ∧ tasks'[i]? = none ∨
      ∃ t t', tasks[i]? = some t ∧ tasks'[i]? = some t' ∧ t.Alike t' := by
  induction alike generalizing i with
  | nil => exact Or.inl ⟨rfl, rfl⟩
  | cons head _ ih =>
    cases i with
    | zero => exact Or.inr ⟨_, _, rfl, rfl, head⟩
    | succ i => exact ih i

theorem Lockstep.handle (settings : ScheduleSettings)
    (lockstep : Lockstep client transport memory s calls' memory')
    (ignores : transport.IgnoresCredentials memory) (alike : List.Forall₂ Task.Alike tasks tasks')
    (event : Event) :
    LockstepTo client transport memory (s.handle settings (transport.provider client) tasks event)
      ((s.retrace calls' memory').handle settings (transport.provider client) tasks' event) := by
  cases event with
  | request i attempt =>
    rcases getElem?_alike alike i with ⟨none, none'⟩ | ⟨t, t', asked, asked', same⟩
    · simp only [State.handle, none, none']
      exact ⟨_, _, rfl, lockstep.keep ⟨rfl, rfl⟩⟩
    · cases slots : s.free with
      | zero =>
        simp only [State.handle, State.retrace, asked, asked', slots]
        exact ⟨_, _, rfl, lockstep.keep ⟨rfl, rfl⟩⟩
      | succ free =>
        simp only [State.handle, State.retrace, asked, asked', slots]
        exact (lockstep.keep (t := { s with free }) ⟨rfl, rfl⟩).call ignores same i attempt
  | granted i attempt =>
    rcases getElem?_alike alike i with ⟨none, none'⟩ | ⟨t, t', asked, asked', same⟩
    · simp only [State.handle, none, none']
      exact ⟨_, _, rfl, lockstep⟩
    · simp only [State.handle, asked, asked']
      exact lockstep.call ignores same i attempt
  | ended i attempt reply =>
    rcases getElem?_alike alike i with ⟨none, none'⟩ | ⟨t, t', asked, asked', same⟩
    · simp only [State.handle, none, none']
      exact ⟨_, _, rfl, lockstep⟩
    · simp only [State.handle, asked, asked', same.subject]
      exact ⟨_, _, retrace_finish .., lockstep.keep (sameTrace_finish ..)⟩

theorem Lockstep.step? (settings : ScheduleSettings)
    (lockstep : Lockstep client transport memory s calls' memory')
    (ignores : transport.IgnoresCredentials memory) (alike : List.Forall₂ Task.Alike tasks tasks') :
    s.step? settings (transport.provider client) tasks = none ∧
      (s.retrace calls' memory').step? settings (transport.provider client) tasks' = none ∨
    ∃ t t', s.step? settings (transport.provider client) tasks = some t ∧
      (s.retrace calls' memory').step? settings (transport.provider client) tasks' = some t' ∧
      LockstepTo client transport memory t t' := by
  cases ready : s.ready with
  | cons event rest =>
    have popped := lockstep.keep (t := { s with ready := rest }) ⟨rfl, rfl⟩
    refine Or.inr ⟨_, _, ?_, ?_, popped.handle settings ignores alike event⟩
    · simp only [State.step?, ready]
    · simp only [State.step?, State.retrace, ready]
  | nil =>
    have idle : (s.retrace calls' memory').ready = [] := ready
    have next : (s.retrace calls' memory').nextTime? = s.nextTime? := rfl
    cases time : s.nextTime? with
    | none =>
      refine Or.inl ⟨?_, ?_⟩
      · simp only [State.step?, ready, time, Option.map_none]
      · simp only [State.step?, idle, next, time, Option.map_none]
    | some time' =>
      refine Or.inr ⟨s.advance time', (s.retrace calls' memory').advance time', ?_, ?_,
        calls', memory', rfl, lockstep.keep ⟨rfl, rfl⟩⟩
      · simp only [State.step?, ready, time, Option.map_some]
      · simp only [State.step?, idle, next, time, Option.map_some]

theorem Lockstep.runFor (settings : ScheduleSettings)
    (lockstep : Lockstep client transport memory s calls' memory')
    (ignores : transport.IgnoresCredentials memory) (alike : List.Forall₂ Task.Alike tasks tasks')
    (fuel : Nat) :
    LockstepTo client transport memory
      (State.runFor settings (transport.provider client) tasks fuel s)
      (State.runFor settings (transport.provider client) tasks' fuel
        (s.retrace calls' memory')) := by
  induction fuel generalizing s calls' memory' with
  | zero => exact ⟨_, _, rfl, lockstep⟩
  | succ fuel ih =>
    rcases lockstep.step? settings ignores alike with
      ⟨ended, ended'⟩ | ⟨t, t', stepped, stepped', calls₁, memory₁, rfl, next⟩
    · simp only [State.runFor, ended, ended']
      exact ⟨_, _, rfl, lockstep⟩
    · simp only [State.runFor, stepped, stepped']
      exact ih next

end Lockstep

/-- Two runs for tasks that are alike: they come to the same in the same time, and make alike calls
at the same times. -/
structure Run.Alike {σ : Type} (run run' : Run σ) : Prop where
  outcomes : run'.outcomes = run.outcomes
  elapsedMs : run'.elapsedMs = run.elapsedMs
  calls : List.Forall₂ CallRecord.Alike run.calls run'.calls

theorem subjects_of_alike {tasks tasks' : List Task}
    (alike : List.Forall₂ Task.Alike tasks tasks') :
    tasks'.map Task.subject = tasks.map Task.subject := by
  induction alike with
  | nil => rfl
  | cons head _ ih => rw [List.map_cons, List.map_cons, head.subject, ih]

theorem map_zipIdx_subject (f : Subject → Nat → Outcome) (tasks : List Task) :
    (tasks.zipIdx.map fun (t, i) => f t.subject i) =
      (tasks.map Task.subject).zipIdx.map fun (subject, i) => f subject i := by
  rw [List.zipIdx_map, List.map_map]
  rfl

theorem run_alike {σ : Type} {transport : Transport σ} {memory : σ} {tasks tasks' : List Task}
    (settings : ScheduleSettings) (slots : Nat) (client : Client)
    (ignores : transport.IgnoresCredentials memory) (alike : List.Forall₂ Task.Alike tasks tasks') :
    (run settings slots (transport.provider client) tasks memory).Alike
      (run settings slots (transport.provider client) tasks' memory) := by
  have start : State.start slots tasks' memory =
      (State.start slots tasks memory).retrace [] memory := by
    rw [State.start, ← alike.length_eq]
    rfl
  have begun : Lockstep client transport memory (State.start slots tasks memory) [] memory :=
    ⟨.nil, rfl, rfl⟩
  have steps : maxSteps settings tasks' = maxSteps settings tasks := by
    rw [maxSteps, maxSteps, alike.length_eq]
  obtain ⟨calls', memory', ended, lockstep⟩ :=
    begun.runFor settings ignores alike (maxSteps settings tasks)
  rw [← start] at ended
  refine ⟨?_, ?_, ?_⟩
  · simp only [run, steps, ended]
    rw [map_zipIdx_subject, map_zipIdx_subject, subjects_of_alike alike]
    rfl
  · simp only [run, steps, ended]
    rfl
  · simp only [run, steps, ended]
    exact List.rel_reverse lockstep.calls

/-! ### Any order -/

namespace Interleaving

inductive Happening.Alike : Happening → Happening → Prop
  | started {question question' : Task} (alike : question.Alike question') :
      Alike (.started question) (.started question')
  | ended (reply : Reply) : Alike (.ended reply) (.ended reply)
  | woke : Alike .woke .woke

structure Event.Alike (e e' : Event) : Prop where
  time : e'.time = e.time
  task : e'.task = e.task
  attempt : e'.attempt = e.attempt
  what : e.what.Alike e'.what

variable {settings : ScheduleSettings} {tasks tasks' : List Task} {s t : State} {event : Event}
  {trace : List Event}

/-- What can happen to a task can happen to one that is alike, with the same reply, and leads to the
same. -/
theorem Step.alike (step : Step settings tasks s event t)
    (alike : List.Forall₂ Task.Alike tasks tasks') :
    ∃ event', event.Alike event' ∧ Step settings tasks' s event' t := by
  cases step with
  | @start time i attempt _ _ later phase asked free =>
    rcases getElem?_alike alike i with ⟨none, -⟩ | ⟨q, q', found, asked', same⟩
    · rw [none] at asked
      cases asked
    · obtain rfl := Option.some.inj (found.symm.trans asked)
      exact ⟨⟨time, i, attempt, .started q'⟩, ⟨rfl, rfl, rfl, .started same⟩,
        .start later phase asked' free⟩
  | @finish _ i _ _ reply later phase asked =>
    rcases getElem?_alike alike i with ⟨none, -⟩ | ⟨q, q', found, asked', same⟩
    · rw [none] at asked
      cases asked
    · obtain rfl := Option.some.inj (found.symm.trans asked)
      refine ⟨_, ⟨rfl, rfl, rfl, .ended reply⟩, ?_⟩
      rw [← same.subject]
      exact .finish reply later phase asked'
  | wake later phase rested =>
    exact ⟨_, ⟨rfl, rfl, rfl, .woke⟩, .wake later phase rested⟩

theorem Run.alike (run : Run settings tasks s trace t)
    (alike : List.Forall₂ Task.Alike tasks tasks') :
    ∃ trace', List.Forall₂ Event.Alike trace trace' ∧ Run settings tasks' s trace' t := by
  induction run with
  | nil => exact ⟨[], .nil, .nil⟩
  | snoc _ step ih =>
    obtain ⟨trace', past, run'⟩ := ih
    obtain ⟨event', same, step'⟩ := step.alike alike
    exact ⟨trace' ++ [event'], List.rel_append past (.cons same .nil), run'.snoc step'⟩

/-- The replies when the result of a request depends on the request and the number of the
attempt. -/
def repliesOver (respond : HttpRequest → Nat → HttpResult) (client : Client) (tasks : List Task)
    (i n : Nat) : Reply :=
  match tasks[i]? with
  | some t =>
    .ofCompletion (Client.read t.key.backend (respond (client.request t.key t.prompt) n))
  | none => .text []

theorem repliesOver_alike {respond : HttpRequest → Nat → HttpResult} (client : Client)
    (ignores : ∀ r r' n, r.Alike r' → respond r' n = respond r n)
    (alike : List.Forall₂ Task.Alike tasks tasks') :
    repliesOver respond client tasks' = repliesOver respond client tasks := by
  funext i n
  rcases getElem?_alike alike i with ⟨none, none'⟩ | ⟨t, t', asked, asked', same⟩
  · simp only [repliesOver, none, none']
  · have result := ignores _ _ n ⟨_, same.request client⟩
    simp only [repliesOver, asked, asked', result, same.backend]

/-- The calls of each task are alike in two traces, attempt by attempt. -/
def CallsAlike (client : Client) (trace trace' : List Event) : Prop :=
  ∀ i, List.Forall₂ (fun c c' => c'.attempt = c.attempt ∧
    (client.request c.question.key c.question.prompt).SameButCredential c.question.key.backend
      (client.request c'.question.key c'.question.prompt)) (callsOf i trace) (callsOf i trace')

variable {slots slots' : Nat} {replies : Nat → Nat → Reply} {trace' : List Event}
  {final final' : State} {outcomes outcomes' : List Outcome}

theorem callsOf_eq_nil (run : Run settings tasks (.start slots tasks) trace s) {i : Nat}
    (none : tasks[i]? = none) : callsOf i trace = [] := by
  refine List.filter_eq_nil_iff.mpr fun c member own => ?_
  rw [decide_eq_true_eq] at own
  have asked := run.question_of_call c member
  rw [own, none] at asked
  cases asked

theorem CallsMade.alike {i made : Nat} {t t' : Task} (client : Client) (same : t.Alike t')
    (calls : CallsMade trace i t made) (calls' : CallsMade trace' i t' made) :
    List.Forall₂ (fun c c' => c'.attempt = c.attempt ∧
      (client.request c.question.key c.question.prompt).SameButCredential c.question.key.backend
        (client.request c'.question.key c'.question.prompt)) (callsOf i trace)
        (callsOf i trace') := by
  have pairs : List.Forall₂ (fun (p p' : Nat × Task) => p'.1 = p.1 ∧ p.2.Alike p'.2)
      ((callsOf i trace).map fun c => (c.attempt, c.question))
      ((callsOf i trace').map fun c => (c.attempt, c.question)) := by
    rw [calls, calls', List.forall₂_map_left_iff, List.forall₂_map_right_iff, List.forall₂_same]
    exact fun n _ => ⟨rfl, same⟩
  rw [List.forall₂_map_left_iff, List.forall₂_map_right_iff] at pairs
  exact pairs.imp fun c c' both => ⟨both.1, both.2.request client⟩

/-- Two orders of tasks that are alike, with the same replies, come to the same by alike calls. -/
theorem Complete.alike (client : Client) (alike : List.Forall₂ Task.Alike tasks tasks')
    (complete : Complete settings slots tasks trace final) (follows : Follows replies trace)
    (returns : final.Returns outcomes) (complete' : Complete settings slots' tasks' trace' final')
    (follows' : Follows replies trace') (returns' : final'.Returns outcomes') :
    outcomes' = outcomes ∧ CallsAlike client trace trace' := by
  constructor
  · apply List.ext_getElem?
    intro i
    rcases getElem?_alike alike i with ⟨none, none'⟩ | ⟨t, t', asked, asked', same⟩
    · rw [List.getElem?_eq_none_iff] at none none'
      rw [← complete.run.aligned, ← Returns.length returns, ← List.getElem?_eq_none_iff] at none
      rw [← complete'.run.aligned, ← Returns.length returns', ← List.getElem?_eq_none_iff] at none'
      rw [none, none']
    · obtain ⟨outcome, made, here, settles, -⟩ := complete.run.settles follows returns asked
      obtain ⟨outcome', made', here', settles', -⟩ := complete'.run.settles follows' returns' asked'
      rw [same.subject] at settles'
      obtain ⟨-, rfl⟩ := settles.unique settles'
      rw [here, here']
  · intro i
    rcases getElem?_alike alike i with ⟨none, none'⟩ | ⟨t, t', asked, asked', same⟩
    · rw [callsOf_eq_nil complete.run none, callsOf_eq_nil complete'.run none']
      exact .nil
    · obtain ⟨outcome, made, -, settles, calls⟩ := complete.run.settles follows returns asked
      obtain ⟨outcome', made', -, settles', calls'⟩ :=
        complete'.run.settles follows' returns' asked'
      rw [same.subject] at settles'
      obtain ⟨rfl, -⟩ := settles.unique settles'
      exact calls.alike client same calls'

end Interleaving
end Schedule
end CodeWiki
