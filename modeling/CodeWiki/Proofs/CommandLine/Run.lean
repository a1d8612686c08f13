import CodeWiki.CommandLine.Run

/-! What a run of the program leaves behind. -/
namespace CodeWiki.CommandLine

variable {σ : Type} {around : Surroundings σ} {request : Request} {settings : Settings}
  {account : Account} {pool : KeyPool}

/-- The document of a generation has been delivered where the request wants it, and nowhere else. -/
def Delivers (request : Request) (run : Run σ) : Prop :=
  ∃ generation document, run.generation = some generation ∧ generation.result = .ok document ∧
    match request.output with
    | none => run.printed = document.indented ++ ['\n'] ∧ run.written = none
    | some path => run.printed = [] ∧ run.written = some (path, document.indented)

theorem bind_eq_ok_iff {ε α β : Type} {step : Except ε α} {next : α → Except ε β} {b : β} :
    step >>= next = .ok b ↔ ∃ a, step = .ok a ∧ next a = .ok b := by
  cases step <;> simp [bind, Except.bind]

theorem mapError_eq_ok_iff {ε ε' α : Type} {step : Except ε α} {wrap : ε → ε'} {a : α} :
    step.mapError wrap = .ok a ↔ step = .ok a := by
  cases step with
  | error e => exact ⟨nofun, nofun⟩
  | ok b =>
    have same : (Except.ok b : Except ε α).mapError wrap = .ok b := rfl
    rw [same, Except.ok.injEq, Except.ok.injEq]

theorem checkClient_eq_ok_iff : checkClient around = .ok () ↔ around.clientFailure = none := by
  unfold checkClient
  cases around.clientFailure with
  | none => exact ⟨fun _ => rfl, fun _ => rfl⟩
  | some reason => exact ⟨nofun, nofun⟩

/-- Nothing is generated without settings and credentials, nor without a client to make requests
with. -/
theorem prepare_eq_ok_iff : prepare around request = .ok (settings, account, pool) ↔
    readSettings around request = .ok settings ∧
    Account.ofEnvironment around.environment = .ok account ∧ account.pool = .ok pool ∧
    around.clientFailure = none := by
  simp only [prepare, bind_eq_ok_iff, mapError_eq_ok_iff, pure, Except.pure, Except.ok.injEq,
    Prod.mk.injEq]
  constructor
  · rintro ⟨_, read, _, found, _, keys, ⟨⟩, client, rfl, rfl, rfl⟩
    exact ⟨read, found, keys, checkClient_eq_ok_iff.mp client⟩
  · rintro ⟨read, found, keys, client⟩
    exact ⟨_, read, _, found, _, keys, (), checkClient_eq_ok_iff.mpr client, rfl, rfl, rfl⟩

/-- A run that succeeds delivers its document; one that fails leaves nothing. -/
theorem run_delivers (around : Surroundings σ) (request : Request) (memory : σ) :
    ((run around request memory).outcome = .ok () → Delivers request (run around request memory)) ∧
    ∀ e, (run around request memory).outcome = .error e →
      (run around request memory).printed = [] ∧ (run around request memory).written = none := by
  unfold run
  split
  · exact ⟨nofun, fun e _ => ⟨rfl, rfl⟩⟩
  · dsimp only
    split
    · exact ⟨nofun, fun e _ => ⟨rfl, rfl⟩⟩
    · rename_i result
      unfold deliver
      split
      · rename_i printed
        refine ⟨fun _ => ⟨_, _, rfl, result, ?_⟩, nofun⟩
        rw [printed]
        exact ⟨rfl, rfl⟩
      · rename_i path named
        split
        · exact ⟨nofun, fun e _ => ⟨rfl, rfl⟩⟩
        · refine ⟨fun _ => ⟨_, _, rfl, result, ?_⟩, nofun⟩
          rw [named]
          exact ⟨rfl, rfl⟩

end CodeWiki.CommandLine
