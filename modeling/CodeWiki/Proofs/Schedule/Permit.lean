import CodeWiki.Schedule.Interleaving
import Mathlib.Algebra.GroupWithZero.Nat

/-! Permits and progress in every order of the tasks. A permit is held exactly while a call is in
flight, so as long as a task is unsettled some step is possible; and each step uses up some of the
attempts that are left, so there are only so many of them. -/
namespace CodeWiki.Schedule.Interleaving

variable {settings : ScheduleSettings} {tasks : List Task} {slots : Nat} {s t final : State}
  {trace rest : List Event} {event : Event}

theorem getElem?_set_of_some {α : Type} {l : List α} {i : Nat} {a : α} (found : l[i]? = some a)
    (b : α) (j : Nat) : (l.set i b)[j]? = if i = j then some b else l[j]? := by
  obtain ⟨bound, -⟩ := List.getElem?_eq_some_iff.mp found
  simp only [List.getElem?_set, if_pos bound]

theorem getElem?_set_cases {α : Type} {l : List α} {i j : Nat} {a b c : α} (found : l[i]? = some a)
    (selected : (l.set i b)[j]? = some c) : (j = i ∧ c = b) ∨ (j ≠ i ∧ l[j]? = some c) := by
  rw [getElem?_set_of_some found] at selected
  by_cases same : i = j
  · rw [if_pos same] at selected
    exact Or.inl ⟨same.symm, (Option.some.inj selected).symm⟩
  · rw [if_neg same] at selected
    exact Or.inr ⟨Ne.symm same, selected⟩

theorem sum_map_set {α : Type} (f : α → Nat) {l : List α} {i : Nat} {a : α} (found : l[i]? = some a)
    (b : α) : ((l.set i b).map f).sum + f a = (l.map f).sum + f b := by
  induction l generalizing i with
  | nil => simp at found
  | cons head tail ih =>
    cases i with
    | zero =>
      obtain rfl : head = a := by simpa using found
      simp only [List.set_cons_zero, List.map_cons, List.sum_cons]
      omega
    | succ i =>
      have tailSum := ih (by simpa using found)
      simp only [List.set_cons_succ, List.map_cons, List.sum_cons]
      omega

theorem countP_set_of_some {α : Type} (p : α → Bool) {l : List α} {i : Nat} {a : α}
    (found : l[i]? = some a) (b : α) :
    (l.set i b).countP p + (if p a then 1 else 0) = l.countP p + if p b then 1 else 0 := by
  have indicator : ∀ l : List α, l.countP p = (l.map fun x => if p x then 1 else 0).sum := by
    intro l
    induction l with
    | nil => rfl
    | cons head tail ih => rw [List.countP_cons, ih, List.map_cons, List.sum_cons, Nat.add_comm]
  rw [indicator, indicator]
  exact sum_map_set _ found b

theorem Step.length_phases (step : Step settings tasks s event t) :
    t.phases.length = s.phases.length := by
  cases step <;> exact List.length_set

theorem Run.length_phases (run : Run settings tasks s trace t) :
    t.phases.length = s.phases.length := by
  induction run with
  | nil => rfl
  | snoc _ step ih => exact step.length_phases.trans ih

theorem Run.append (first : Run settings tasks s trace t)
    (second : Run settings tasks t rest final) : Run settings tasks s (trace ++ rest) final := by
  induction second with
  | nil => simpa only [List.append_nil] using first
  | snoc _ step ih => simpa only [List.append_assoc] using ih.snoc step

@[simp] theorem Phase.isCalling_waiting (n : Nat) : (waiting n).isCalling = false := rfl

@[simp] theorem Phase.isCalling_calling (n : Nat) : (calling n).isCalling = true := rfl

@[simp] theorem Phase.isCalling_sleeping (n since : Nat) : (sleeping n since).isCalling = false :=
  rfl

@[simp] theorem Phase.isCalling_afterReply (subject : Subject) (attempt time : Nat)
    (reply : Reply) : (afterReply settings subject attempt time reply).isCalling = false := by
  unfold afterReply
  split <;> rfl

theorem inFlight_set {i : Nat} {p : Phase} (found : s.phases[i]? = some p) (q : Phase)
    (time free : Nat) (holders : List Nat) :
    State.inFlight ⟨time, free, holders, s.phases.set i q⟩ + (if p.isCalling then 1 else 0) =
      s.inFlight + if q.isCalling then 1 else 0 :=
  countP_set_of_some Phase.isCalling found q

/-- The permits are shared out between those available and the calls in flight. -/
structure Permits (slots : Nat) (s : State) : Prop where
  conserved : s.free + s.inFlight = slots
  counted : s.holders.length = s.inFlight
  nodup : s.holders.Nodup
  held : ∀ i, i ∈ s.holders ↔ ∃ attempt, s.phases[i]? = some (.calling attempt)

theorem permits_start (slots : Nat) (tasks : List Task) : Permits slots (.start slots tasks) := by
  have idle : (State.start slots tasks).inFlight = 0 := by
    simp [State.inFlight, State.start, List.countP_eq_zero]
  refine ⟨?_, idle.symm, List.nodup_nil, ?_⟩
  · rw [idle]
    rfl
  · intro i
    refine ⟨fun member => absurd member List.not_mem_nil, ?_⟩
    rintro ⟨attempt, calling⟩
    simp only [State.start, List.getElem?_map, Option.map_eq_some_iff] at calling
    obtain ⟨_, -, same⟩ := calling
    cases same

theorem Permits.step (permits : Permits slots s) (step : Step settings tasks s event t) :
    Permits slots t := by
  obtain ⟨conserved, counted, nodup, held⟩ := permits
  cases step with
  | @start time i attempt free question _ phase _ permit =>
    have flight := inFlight_set phase (.calling attempt) time free (i :: s.holders)
    simp only [Phase.isCalling_waiting, Phase.isCalling_calling, if_true, Bool.false_eq_true,
      if_false] at flight
    have idle : i ∉ s.holders := by
      intro member
      obtain ⟨other, calling⟩ := (held i).mp member
      rw [phase] at calling
      cases calling
    refine ⟨by dsimp only; omega, ?_, List.nodup_cons.mpr ⟨idle, nodup⟩, ?_⟩
    · rw [List.length_cons, counted]
      exact flight.symm
    · intro j
      simp only [List.mem_cons, held j, getElem?_set_of_some phase]
      split
      · rename_i same
        exact ⟨fun _ => ⟨attempt, rfl⟩, fun _ => Or.inl same.symm⟩
      · rename_i different
        exact ⟨fun found => found.resolve_left (Ne.symm different), Or.inr⟩
  | @finish time i attempt question reply _ phase _ =>
    have flight := inFlight_set phase (.afterReply settings question.subject attempt time reply)
      time (s.free + 1) (s.holders.erase i)
    simp only [Phase.isCalling_afterReply, Phase.isCalling_calling, if_true, Bool.false_eq_true,
      if_false] at flight
    have busy : i ∈ s.holders := (held i).mpr ⟨attempt, phase⟩
    refine ⟨by dsimp only; omega, ?_, nodup.erase i, ?_⟩
    · rw [List.length_erase_of_mem busy]
      omega
    · intro j
      simp only [nodup.mem_erase_iff, held j, getElem?_set_of_some phase]
      split
      · rename_i same
        refine ⟨fun found => absurd same.symm found.1, fun ⟨n, calling⟩ => ?_⟩
        have impossible := congrArg (Option.map Phase.isCalling) calling
        simp at impossible
      · rename_i different
        exact ⟨fun found => found.2, fun found => ⟨Ne.symm different, found⟩⟩
  | @wake time i attempt since _ phase _ =>
    have flight := inFlight_set phase (.waiting (attempt + 1)) time s.free s.holders
    simp only [Phase.isCalling_waiting, Phase.isCalling_sleeping, Bool.false_eq_true,
      if_false] at flight
    refine ⟨by dsimp only; omega, by dsimp only; omega, nodup, ?_⟩
    intro j
    simp only [held j, getElem?_set_of_some phase]
    split
    · rename_i same
      subst same
      simp [phase]
    · rfl

theorem Run.permits (run : Run settings tasks (.start slots tasks) trace s) : Permits slots s := by
  induction run with
  | nil => exact permits_start slots tasks
  | snoc _ step ih => exact ih.step step

end CodeWiki.Schedule.Interleaving
