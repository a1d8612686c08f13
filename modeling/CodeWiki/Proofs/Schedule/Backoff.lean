import CodeWiki.Proofs.Schedule.Progress

/-! Two calls of one task have its whole backoff between them. The time of the last end is carried
through the phases: a sleeping task remembers it, and a task that waits again has slept long enough
since. -/
namespace CodeWiki.Schedule.Interleaving

variable {settings : ScheduleSettings} {tasks : List Task} {slots delay : Nat} {s t : State}
  {trace : List Event} {event first : Event}

/-- The event makes a call. -/
def Event.IsCall (e : Event) : Prop := ∃ question, e.what = .started question

/-- The call that `first` makes ends with `last`. -/
def Event.Ends (last first : Event) : Prop :=
  last.task = first.task ∧ last.attempt = first.attempt ∧ ∃ reply, last.what = .ended reply

/-- Of any two calls of one task, the earlier ends at least `delay` before the later begins. -/
def Spaced (delay : Nat) (trace : List Event) : Prop :=
  ∀ first next, [first, next].Sublist trace → first.IsCall → next.IsCall → next.task = first.task →
    ∃ last, [first, last, next].Sublist trace ∧ last.Ends first ∧ last.time + delay ≤ next.time

/-- The call that `first` makes has ended `delay` before the given time. -/
def EndedBefore (trace : List Event) (first : Event) (delay time : Nat) : Prop :=
  ∃ last, [first, last].Sublist trace ∧ last.Ends first ∧ last.time + delay ≤ time

theorem EndedBefore.later {time time' delay' : Nat} (ended : EndedBefore trace first delay time)
    (later : time + delay' ≤ time' + delay) (event : Event) :
    EndedBefore (trace ++ [event]) first delay' time' := by
  obtain ⟨last, inside, ends, bound⟩ := ended
  exact ⟨last, inside.trans (List.sublist_append_left _ _), ends, by omega⟩

/-- What the phase of a task says about a call that it has made. -/
def Phase.Rested (delay now : Nat) (trace : List Event) (first : Event) : Phase → Prop
  | waiting _ => EndedBefore trace first delay now
  | calling n => first.attempt = n ∨ EndedBefore trace first delay now
  | sleeping _ since => EndedBefore trace first 0 since
  | settled _ => True

theorem Phase.Rested.later {p : Phase} {now now' : Nat} (rested : p.Rested delay now trace first)
    (later : now ≤ now') (event : Event) : p.Rested delay now' (trace ++ [event]) first := by
  cases p with
  | waiting n => exact EndedBefore.later rested (by omega) event
  | calling n =>
    rcases rested with current | ended
    · exact Or.inl current
    · exact Or.inr (ended.later (by omega) event)
  | sleeping n since => exact EndedBefore.later rested (Nat.le_refl _) event
  | settled outcome => trivial

def Slept (delay : Nat) (trace : List Event) (s : State) : Prop :=
  ∀ first ∈ trace, first.IsCall → ∀ p, s.phases[first.task]? = some p →
    p.Rested delay s.now trace first

/-- It is enough to look at the task that moves: the others have only grown older. -/
theorem Slept.set {i time free : Nat} {holders : List Nat} {p q : Phase}
    (slept : Slept delay trace s) (later : s.now ≤ time) (found : s.phases[i]? = some p)
    (moved : ∀ first ∈ trace, first.IsCall → first.task = i → p.Rested delay s.now trace first →
      q.Rested delay time (trace ++ [event]) first)
    (new : event.IsCall → event.task = i ∧ q.Rested delay time (trace ++ [event]) event) :
    Slept delay (trace ++ [event]) ⟨time, free, holders, s.phases.set i q⟩ := by
  intro first member call phase selected
  rcases List.mem_append.mp member with earlier | last
  · rcases getElem?_set_cases found selected with ⟨same, rfl⟩ | ⟨-, unmoved⟩
    · exact moved first earlier call same (slept first earlier call p (same ▸ found))
    · exact (slept first earlier call phase unmoved).later later event
  · obtain rfl := List.mem_singleton.mp last
    obtain ⟨same, rested⟩ := new call
    rcases getElem?_set_cases found selected with ⟨-, rfl⟩ | ⟨different, -⟩
    · exact rested
    · exact absurd same different

theorem Slept.step (slept : Slept settings.backoffNanos trace s)
    (step : Step settings tasks s event t) : Slept settings.backoffNanos (trace ++ [event]) t := by
  cases step with
  | start later phase asked permit =>
    refine slept.set later phase (fun first _ _ _ rested => ?_) (fun _ => ⟨rfl, Or.inl rfl⟩)
    exact Or.inr (EndedBefore.later rested (by omega) _)
  | @finish time i n question reply later phase asked =>
    refine slept.set later phase (fun first member call same rested => ?_) ?_
    · -- the call that ends now is the one with the attempt of the phase; the others ended long ago
      have ended : EndedBefore (trace ++ [⟨time, i, n, .ended reply⟩]) first 0 time := by
        rcases rested with current | ended
        · refine ⟨⟨time, i, n, .ended reply⟩, ?_,
            ⟨same.symm, current.symm, reply, rfl⟩, Nat.le_refl _⟩
          exact (List.singleton_sublist.mpr member).append (List.Sublist.refl _)
        · exact ended.later (by omega) _
      unfold Phase.afterReply
      split
      · trivial
      · exact ended
    · rintro ⟨question, started⟩
      cases started
  | wake later phase rest =>
    refine slept.set later phase (fun first _ _ _ rested => ?_) ?_
    · exact EndedBefore.later rested (by omega) _
    · rintro ⟨question, started⟩
      cases started

theorem Run.slept (run : Run settings tasks (.start slots tasks) trace s) :
    Slept settings.backoffNanos trace s := by
  induction run with
  | nil => intro first member; cases member
  | snoc _ step ih => exact ih.step step

theorem sublist_pair_concat {α : Type} {l : List α} {a b c : α} (pair : [a, b].Sublist (l ++ [c])) :
    [a, b].Sublist l ∨ a ∈ l ∧ b = c := by
  induction l with
  | nil => simpa using pair.length_le
  | cons head tail ih =>
    cases pair with
    | cons _ pair =>
      rcases ih pair with inside | ⟨member, same⟩
      · exact Or.inl (inside.cons head)
      · exact Or.inr ⟨List.mem_cons_of_mem head member, same⟩
    | cons_cons _ single =>
      rcases List.mem_append.mp (List.singleton_sublist.mp single) with inside | last
      · exact Or.inl ((List.singleton_sublist.mpr inside).cons_cons _)
      · exact Or.inr ⟨List.mem_cons_self, List.mem_singleton.mp last⟩

theorem Run.spaced (run : Run settings tasks (.start slots tasks) trace s) :
    Spaced settings.backoffNanos trace := by
  induction run with
  | nil => intro first next pair; cases pair
  | @snoc trace s event t run step ih =>
    intro first next pair called calls same
    rcases sublist_pair_concat pair with inside | ⟨member, rfl⟩
    · obtain ⟨last, triple, ends, bound⟩ := ih first next inside called calls same
      exact ⟨last, triple.trans (List.sublist_append_left _ _), ends, bound⟩
    · obtain ⟨question, started⟩ := calls
      cases step with
      | finish | wake => cases started
      | @start time i n _ _ later phase asked permit =>
        obtain rfl : i = first.task := same
        obtain ⟨last, order, ends, bound⟩ := run.slept first member called _ phase
        exact ⟨last, order.append (List.Sublist.refl [_]), ends, Nat.le_trans bound later⟩

end CodeWiki.Schedule.Interleaving
