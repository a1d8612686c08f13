import CodeWiki.Generation
import CodeWiki.Proofs.Schedule.Secret

/-! Secrets of credentials in a generation. The tasks that are dealt out from two pools of the same
kinds differ in nothing but the secrets, and the sections depend on the subjects and the outcomes
only. -/
namespace CodeWiki

variable {pool pool' : KeyPool}

theorem KeyPool.size_eq
    (kinds : pool'.keys.map Credential.backend = pool.keys.map Credential.backend) :
    pool'.size = pool.size := by
  unfold size
  simpa using congrArg List.length kinds

theorem KeyPool.backend_roundRobin
    (kinds : pool'.keys.map Credential.backend = pool.keys.map Credential.backend) (i : Nat) :
    (pool'.roundRobin i).backend = (pool.roundRobin i).backend := by
  have size : pool'.keys.length = pool.keys.length := size_eq kinds
  have dealt : ∀ pool : KeyPool, (pool.keys.map Credential.backend)[i % pool.keys.length]? =
      some (pool.roundRobin i).backend := by
    intro pool
    rw [List.getElem?_map, List.getElem?_eq_getElem (Nat.mod_lt i pool.nonempty)]
    rfl
  have same := dealt pool'
  rw [kinds, size, dealt pool] at same
  exact (Option.some.inj same).symm

namespace Generation

open Schedule.Interleaving (Complete Follows repliesOver repliesOver_alike CallsAlike)

theorem tasks_alike (settings : Settings) (origin : Origin) (files : Snapshot)
    (kinds : pool'.keys.map Credential.backend = pool.keys.map Credential.backend) :
    List.Forall₂ Task.Alike (tasks settings pool origin files)
      (tasks settings pool' origin files) := by
  unfold tasks Task.ofWiki
  refine .cons ⟨rfl, rfl, KeyPool.backend_roundRobin kinds 0⟩ ?_
  unfold Task.ofBriefs
  rw [List.forall₂_map_left_iff, List.forall₂_map_right_iff, List.forall₂_same]
  intro brief _
  exact ⟨rfl, rfl, KeyPool.backend_roundRobin kinds brief.2⟩

theorem sections_alike {tasks tasks' : List Task} (alike : List.Forall₂ Task.Alike tasks tasks')
    (outcomes : List Outcome) : sections tasks' outcomes = sections tasks outcomes := by
  simp only [sections]
  congr 1
  induction alike generalizing outcomes with
  | nil => rfl
  | cons head _ ih =>
    cases outcomes with
    | nil => rfl
    | cons outcome outcomes =>
      simp only [List.zip_cons_cons, List.filterMap_cons, head.subject, ih]

/-- Two pools of the same kinds lead to the same outcomes in the same time, and to the same
sections, texts about errors included. Each call of the one run is a call of the other, with a
request that differs in the value of the credential header only, and goes to the backend of the
credential.

So it is on the clock. In any other order of the tasks the same can happen for the one pool as for
the other; and if what a request comes to is settled by the request but for its credential, and by
the number of the attempt, then no two orders, however they are timed, lead to different outcomes or
calls. -/
theorem secrets_stay_in_credential_header {σ : Type} (settings : Settings) (client : Client)
    (origin : Origin) (files : Snapshot) {transport : Schedule.Transport σ} {memory : σ}
    (kinds : pool'.keys.map Credential.backend = pool.keys.map Credential.backend)
    (ignores : transport.IgnoresCredentials memory) :
    ∃ tasks tasks' run run',
      tasks = Generation.tasks settings pool origin files ∧
      tasks' = Generation.tasks settings pool' origin files ∧
      run = Schedule.run settings.schedule pool.size (transport.provider client) tasks memory ∧
      run' = Schedule.run settings.schedule pool'.size (transport.provider client) tasks' memory ∧
      run'.outcomes = run.outcomes ∧ run'.elapsedMs = run.elapsedMs ∧
      sections tasks' run'.outcomes = sections tasks run.outcomes ∧
      List.Forall₂ (fun c c' => c'.atMs = c.atMs ∧ c'.task.subject = c.task.subject ∧
        (c.request client).SameButCredential c.task.key.backend (c'.request client))
        run.calls run'.calls ∧
      (∀ trace s, Schedule.Interleaving.Run settings.schedule tasks
        (.start pool.size tasks) trace s →
        ∃ trace', List.Forall₂ Schedule.Interleaving.Event.Alike trace trace' ∧
          Schedule.Interleaving.Run settings.schedule tasks' (.start pool'.size tasks') trace' s) ∧
      ∀ respond : HttpRequest → Nat → HttpResult,
        (∀ r r' n, r.Alike r' → respond r' n = respond r n) →
        ∀ trace final outcomes trace' final' outcomes',
          Complete settings.schedule pool.size tasks trace final →
          Follows (repliesOver respond client tasks) trace → final.Returns outcomes →
          Complete settings.schedule pool'.size tasks' trace' final' →
          Follows (repliesOver respond client tasks') trace' → final'.Returns outcomes' →
          outcomes' = outcomes ∧ sections tasks' outcomes' = sections tasks outcomes ∧
            CallsAlike client trace trace' := by
  have alike := tasks_alike settings origin files kinds
  have same := Schedule.run_alike settings.schedule pool.size client ignores alike
  refine ⟨_, _, _, _, rfl, rfl, rfl, rfl, ?_⟩
  rw [KeyPool.size_eq kinds]
  refine ⟨same.outcomes, same.elapsedMs, ?_, ?_, ?_, ?_⟩
  · rw [same.outcomes]
    exact sections_alike alike _
  · refine same.calls.imp fun c c' calls => ?_
    exact ⟨calls.atMs, calls.task.subject, calls.task.request client⟩
  · intro trace s taken
    have start : Schedule.Interleaving.State.start pool.size (tasks settings pool' origin files) =
        .start pool.size (tasks settings pool origin files) := by
      simp only [Schedule.Interleaving.State.start, List.map_const', alike.length_eq]
    rw [start]
    exact taken.alike alike
  · intro respond blind trace final outcomes trace' final' outcomes' complete follows returns
      complete' follows' returns'
    rw [repliesOver_alike client blind alike] at follows'
    obtain ⟨rfl, calls⟩ := complete.alike client alike follows returns complete' follows' returns'
    exact ⟨rfl, sections_alike alike _, calls⟩

/-- A transport that keeps all requests with their secrets, throttles the first and refuses the
others. -/
def recorder : Schedule.Transport (List HttpRequest) where
  send request kept :=
    (if kept.isEmpty then .response 429 none else .failed "connection refused", request :: kept)
  latencyMs _ _ := 5

theorem after_recorder (kept requests : List HttpRequest) :
    recorder.after kept requests = requests.reverse ++ kept := by
  induction requests generalizing kept with
  | nil => rfl
  | cons request requests ih =>
    rw [List.reverse_cons, List.append_assoc, List.singleton_append, ← ih]
    rfl

theorem recorder_ignoresCredentials : recorder.IgnoresCredentials [] := by
  intro past past' r r' alike _
  refine ⟨?_, rfl⟩
  have size : (recorder.after [] past').isEmpty = (recorder.after [] past).isEmpty := by
    rw [Bool.eq_iff_iff, List.isEmpty_iff_length_eq_zero, List.isEmpty_iff_length_eq_zero,
      after_recorder, after_recorder, List.append_nil, List.append_nil, List.length_reverse,
      List.length_reverse, alike.length_eq]
  simp only [recorder] at size ⊢
  rw [size]

/-- Secrets that are kept by the transport show neither in the outcomes nor in the sections. -/
theorem kept_secrets_not_shown :
    (⟨[⟨"gsk_one"⟩, ⟨"AIza"⟩], Nat.zero_lt_two⟩ : KeyPool) ≠
      ⟨[⟨"gsk_two"⟩, ⟨"AIzb"⟩], Nat.zero_lt_two⟩ ∧
    ∃ (tasks tasks' : List Task) (run run' : Schedule.Run (List HttpRequest)),
      tasks = Generation.tasks {} ⟨[⟨"gsk_one"⟩, ⟨"AIza"⟩], Nat.zero_lt_two⟩
        ⟨"o/r", "o/r", none, "now", 1⟩ (Snapshot.ofList [("a.py", "x")]) ∧
      tasks' = Generation.tasks {} ⟨[⟨"gsk_two"⟩, ⟨"AIzb"⟩], Nat.zero_lt_two⟩
        ⟨"o/r", "o/r", none, "now", 1⟩ (Snapshot.ofList [("a.py", "x")]) ∧
      run = Schedule.run {} 2 (recorder.provider (({} : Account).client {})) tasks [] ∧
      run' = Schedule.run {} 2 (recorder.provider (({} : Account).client {})) tasks' [] ∧
      run'.outcomes = run.outcomes ∧
        sections tasks' run'.outcomes = sections tasks run.outcomes := by
  have kinds : (KeyPool.mk [⟨"gsk_two"⟩, ⟨"AIzb"⟩] Nat.zero_lt_two).keys.map Credential.backend =
      (KeyPool.mk [⟨"gsk_one"⟩, ⟨"AIza"⟩] Nat.zero_lt_two).keys.map Credential.backend := by decide
  obtain ⟨tasks, tasks', run, run', first, second, ran, ran', outcomes, -, shown, -⟩ :=
    secrets_stay_in_credential_header {} (({} : Account).client {}) ⟨"o/r", "o/r", none, "now", 1⟩
      (Snapshot.ofList [("a.py", "x")]) kinds recorder_ignoresCredentials
  exact ⟨by decide, tasks, tasks', run, run', first, second, ran, ran', outcomes, shown⟩

end Generation
end CodeWiki
