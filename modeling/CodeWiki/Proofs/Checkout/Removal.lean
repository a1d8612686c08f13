import Mathlib.Data.List.Forall2
import Mathlib.Order.Nat
import CodeWiki.Proofs.Checkout

/-! The removal of a scratch directory, attempt by attempt. The attempts are followed with what each
of them finds; as long as they fail, the removal is where it would be if it began with the next of
them. -/
namespace CodeWiki

/-- The permission bits at the path. -/
def Occupant.modes : Occupant → List Nat
  | nothing => []
  | file mode => [mode]
  | directory modes => modes

namespace Scratch

variable {around : Surroundings} {o : Occupant} {k left : Nat}

/-- What the attempt with the given number finds if all attempts before it fail: after each of them
read-only marks are cleared, and something else may have happened during the wait. -/
def found (around : Surroundings) (o : Occupant) : Nat → Occupant
  | 0 => o
  | k + 1 =>
    around.meanwhile k
      (clearReadOnly (around.misses k) (spare (around.spares k) (found around o k)))

/-- What a failed attempt with the given number leaves for the wait after it. -/
def cleared (around : Surroundings) (o : Occupant) (k : Nat) : Occupant :=
  clearReadOnly (around.misses k) (spare (around.spares k) (found around o k))

/-- An attempt succeeds if there is nothing to remove, or if it is removed. -/
def Succeeds (around : Surroundings) (o : Occupant) (k : Nat) : Prop :=
  found around o k = .nothing ∨ (delete? (around.prevents k) (found around o k)).isSome

instance (around : Surroundings) (o : Occupant) : DecidablePred (Succeeds around o) := fun _ =>
  inferInstanceAs (Decidable (_ ∨ _))

/-- The waits after the attempts before the one with the given number. -/
def waitsBefore (k : Nat) : List Nat := (List.range k).map waitMs

/-- What a removal comes to. Either it stops at the first attempt that succeeds, one among those it
may make, or it makes all of them, and waits between them only. -/
inductive Removes (around : Surroundings) (o : Occupant) : Removal → Prop
  | absent {k : Nat} (bound : k < maxAttempts) (failed : ∀ j < k, ¬ Succeeds around o j)
      (nothing : found around o k = .nothing) : Removes around o ⟨.nothing, k, waitsBefore k⟩
  | deleted {k : Nat} (bound : k < maxAttempts) (failed : ∀ j < k, ¬ Succeeds around o j)
      (something : found around o k ≠ .nothing)
      (deleted : delete? (around.prevents k) (found around o k) = some .nothing) :
      Removes around o ⟨.nothing, k + 1, waitsBefore k⟩
  | givenUp (failed : ∀ j < maxAttempts, ¬ Succeeds around o j) :
      Removes around o
        ⟨spare (around.spares (maxAttempts - 1)) (found around o (maxAttempts - 1)), maxAttempts,
          waitsBefore (maxAttempts - 1)⟩

theorem clearReadOnlyMode_writable (mode : Nat) : clearReadOnlyMode mode &&& writeBits ≠ 0 := by
  unfold clearReadOnlyMode
  split
  · rename_i readOnly
    rw [Nat.and_or_distrib_right, readOnly, Nat.zero_or, Nat.and_self]
    decide
  · assumption

/-- Clearing keeps all entries and changes the marks of those that are not missed. -/
theorem modes_clearReadOnly (misses : Nat → Bool) (o : Occupant) :
    (clearReadOnly misses o).modes =
      o.modes.mapIdx fun i mode => if misses i then mode else clearReadOnlyMode mode := by
  cases o <;> rfl

theorem writable_of_cleared {i mode : Nat} (here : (cleared around o k).modes[i]? = some mode)
    (seen : around.misses k i = false) : mode &&& writeBits ≠ 0 := by
  rw [cleared, modes_clearReadOnly, List.getElem?_mapIdx] at here
  obtain ⟨mode, -, rfl⟩ := Option.map_eq_some_iff.mp here
  rw [seen, if_neg Bool.false_ne_true]
  exact clearReadOnlyMode_writable mode

theorem delete?_eq_some {prevented : Bool} {o' : Occupant}
    (deleted : delete? prevented o = some o') : o' = .nothing := by
  cases o with
  | directory modes =>
    simp only [delete?] at deleted
    split at deleted
    · cases deleted
    · exact (Option.some.inj deleted).symm
  | _ => cases deleted

/-! ### One attempt -/

theorem removeFrom_of_absent (nothing : o = .nothing) (left attempt : Nat) :
    removeFrom around left attempt o = ⟨.nothing, 0, []⟩ := by
  cases left with
  | zero => rw [removeFrom, nothing]
  | succ left => rw [removeFrom, if_pos nothing, nothing]

theorem removeFrom_of_deleted {attempt : Nat} (something : o ≠ .nothing)
    (deleted : delete? (around.prevents attempt) o = some .nothing) (left : Nat) :
    removeFrom around (left + 1) attempt o = ⟨.nothing, 1, []⟩ := by
  rw [removeFrom, if_neg something, deleted]

theorem not_succeeds_iff : ¬ Succeeds around o k ↔
    found around o k ≠ .nothing ∧ delete? (around.prevents k) (found around o k) = none := by
  rw [Succeeds, not_or, Bool.not_eq_true, Option.isSome_eq_false_iff, Option.isNone_iff_eq_none]

theorem removeFrom_one_of_failed (failed : ¬ Succeeds around o k) :
    removeFrom around 1 k (found around o k) =
      ⟨spare (around.spares k) (found around o k), 1, []⟩ := by
  obtain ⟨something, kept⟩ := not_succeeds_iff.mp failed
  rw [removeFrom, if_neg something, kept]
  rfl

theorem removeFrom_succ_of_failed (failed : ¬ Succeeds around o k) (left : Nat) :
    removeFrom around (left + 2) k (found around o k) =
      let next := removeFrom around (left + 1) (k + 1) (found around o (k + 1))
      ⟨next.left, next.attempts + 1, waitMs k :: next.waitsMs⟩ := by
  obtain ⟨something, kept⟩ := not_succeeds_iff.mp failed
  rw [removeFrom, if_neg something, kept]
  rfl

/-! ### All attempts -/

theorem waitsBefore_succ (k : Nat) : waitsBefore (k + 1) = waitsBefore k ++ [waitMs k] := by
  rw [waitsBefore, List.range_succ, List.map_append]
  rfl

/-- By induction on the number of failed attempts, the last of them taken off. -/
theorem removeFrom_of_failed (failed : ∀ j < k, ¬ Succeeds around o j) (left : Nat) :
    removeFrom around (k + (left + 1)) 0 o =
      let next := removeFrom around (left + 1) k (found around o k)
      ⟨next.left, k + next.attempts, waitsBefore k ++ next.waitsMs⟩ := by
  induction k generalizing left with
  | zero =>
    simp only [Nat.zero_add]
    rfl
  | succ k ih =>
    have before := ih (fun j early => failed j (Nat.lt_succ_of_lt early)) (left + 1)
    have here := removeFrom_succ_of_failed (failed k (Nat.lt_succ_self k)) left
    rw [show k + 1 + (left + 1) = k + (left + 1 + 1) by omega, before, here]
    simp only [waitsBefore_succ, List.append_assoc, List.singleton_append, Removal.mk.injEq,
      true_and, and_true]
    omega

/-- The first attempt that succeeds is the last; if there is none among those that may be made, all
fail. -/
theorem removes (around : Surroundings) (o : Occupant) :
    Removes around o (removeWithRetries around o) := by
  unfold removeWithRetries
  by_cases success : ∃ k, k < maxAttempts ∧ Succeeds around o k
  · obtain ⟨bound, succeeds⟩ := Nat.find_spec success
    generalize first : Nat.find success = k at bound succeeds
    have failed : ∀ j < k, ¬ Succeeds around o j := fun j early succeeds =>
      Nat.find_min success (first ▸ early) ⟨early.trans bound, succeeds⟩
    obtain ⟨left, whole⟩ : ∃ left, maxAttempts = k + (left + 1) := ⟨maxAttempts - k - 1, by omega⟩
    rw [whole, removeFrom_of_failed failed]
    by_cases nothing : found around o k = .nothing
    · simp only [removeFrom_of_absent nothing, Nat.add_zero, List.append_nil]
      exact Removes.absent bound failed nothing
    · obtain ⟨o', deleted⟩ := Option.isSome_iff_exists.mp (succeeds.resolve_left nothing)
      obtain rfl := delete?_eq_some deleted
      simp only [removeFrom_of_deleted nothing deleted, List.append_nil]
      exact Removes.deleted bound failed nothing deleted
  · have failed : ∀ j < maxAttempts, ¬ Succeeds around o j := fun j bound succeeds =>
      success ⟨j, bound, succeeds⟩
    have all := removeFrom_of_failed (k := maxAttempts - 1) (fun j early => failed j (by omega)) 0
    have last := removeFrom_one_of_failed (failed (maxAttempts - 1) (by decide))
    rw [last] at all
    simp only [List.append_nil] at all
    exact all ▸ Removes.givenUp failed

theorem spare_ne_nothing (spared : List Nat → List Nat) (something : o ≠ .nothing) :
    spare spared o ≠ .nothing := by
  cases o with
  | nothing => exact absurd rfl something
  | file mode => exact something
  | directory modes => nofun

/-- A single attempt is the first of several, and nothing comes after it. -/
theorem removeOnce_left_eq_nothing_iff :
    (removeOnce around o).left = .nothing ↔ Succeeds around o 0 := by
  by_cases succeeds : Succeeds around o 0
  · refine iff_of_true ?_ succeeds
    by_cases nothing : o = .nothing
    · rw [removeOnce, removeFrom_of_absent nothing]
    · obtain ⟨o', deleted⟩ := Option.isSome_iff_exists.mp (succeeds.resolve_left nothing)
      obtain rfl := delete?_eq_some deleted
      rw [removeOnce, removeFrom_of_deleted nothing deleted]
  · refine iff_of_false ?_ succeeds
    have failed := removeFrom_one_of_failed succeeds
    rw [found] at failed
    rw [removeOnce, failed]
    exact spare_ne_nothing _ (not_succeeds_iff.mp succeeds).1

theorem first_success_unique {l : Nat} (failed : ∀ j < k, ¬ Succeeds around o j)
    (succeeds : Succeeds around o k) (failed' : ∀ j < l, ¬ Succeeds around o j)
    (succeeds' : Succeeds around o l) : k = l := by
  rcases Nat.lt_trichotomy k l with less | same | more
  · exact absurd succeeds (failed' k less)
  · exact same
  · exact absurd succeeds' (failed l more)

/-- What happens around it settles what a removal comes to. -/
theorem Removes.unique {removal removal' : Removal} (removes : Removes around o removal)
    (removes' : Removes around o removal') : removal = removal' := by
  cases removes with
  | absent bound failed nothing =>
    cases removes' with
    | absent _ failed' nothing' =>
      obtain rfl := first_success_unique failed (.inl nothing) failed' (.inl nothing')
      rfl
    | deleted _ failed' something deleted =>
      obtain rfl := first_success_unique failed (.inl nothing) failed' (.inr (by rw [deleted]; rfl))
      exact absurd nothing something
    | givenUp failed' => exact absurd (.inl nothing) (failed' _ bound)
  | deleted bound failed something deleted =>
    have succeeds : Succeeds around o _ := .inr (by rw [deleted]; rfl)
    cases removes' with
    | absent _ failed' nothing' =>
      obtain rfl := first_success_unique failed succeeds failed' (.inl nothing')
      exact absurd nothing' something
    | deleted _ failed' _ deleted' =>
      obtain rfl := first_success_unique failed succeeds failed' (.inr (by rw [deleted']; rfl))
      rfl
    | givenUp failed' => exact absurd succeeds (failed' _ bound)
  | givenUp failed =>
    cases removes' with
    | absent bound _ nothing => exact absurd (.inl nothing) (failed _ bound)
    | deleted bound _ _ deleted => exact absurd (.inr (by rw [deleted]; rfl)) (failed _ bound)
    | givenUp => rfl

theorem Removes.left_eq_nothing {removal : Removal} (removes : Removes around o removal)
    (bound : k < maxAttempts) (succeeds : Succeeds around o k) : removal.left = .nothing := by
  cases removes with
  | absent => rfl
  | deleted => rfl
  | givenUp failed => exact absurd succeeds (failed k bound)

theorem Removes.attempts_le {removal : Removal} (removes : Removes around o removal) :
    removal.attempts ≤ maxAttempts := by
  cases removes with
  | absent bound => exact bound.le
  | deleted bound => exact bound
  | givenUp => exact le_rfl

end Scratch

namespace Checkout

/-- A repository is fetched with the outcome of the work in the scratch directory, which knows
nothing of the removal; the removal is the last thing that is done on every path, and one attempt
that succeeds is enough for it to leave nothing. A reference without a clone URL has no scratch
directory, and without one nothing is done. -/
theorem materialize_outcome (settings : CheckoutSettings) (time : Text) (fetcher : Fetcher)
    (around : Scratch.Surroundings) (reference : Text) : ∃ outcome scene,
    (materialize settings time fetcher around reference).run {} = (outcome, scene) ∧
    (Reference.cloneUrl? reference = none →
      outcome = .error (.invalidReference reference) ∧ scene = {}) ∧
    (∀ url reason, Reference.cloneUrl? reference = some url → around.refusal = some reason →
      outcome = .error (.io reason) ∧ scene = {}) ∧
    ∀ url, Reference.cloneUrl? reference = some url → around.refusal = none → ∃ removal,
      outcome = read settings time reference url (fetcher url) ∧
      (∀ around' scene',
        ((stage settings time reference url (fetcher url) around').run.run scene').1 = outcome) ∧
      scene.acts = .created :: stageActs url (fetcher url).tree outcome ++ [.removed removal] ∧
      scene.occupant = removal.left ∧
      Scratch.Removes around around.before removal ∧ removal.attempts ≤ Scratch.maxAttempts ∧
      (∀ k i mode, (Scratch.cleared around around.before k).modes[i]? = some mode →
        around.misses k i = false → mode &&& Scratch.writeBits ≠ 0) ∧
      ∀ k < Scratch.maxAttempts, Scratch.Succeeds around around.before k →
        scene.occupant = .nothing := by
  cases known : Reference.cloneUrl? reference with
  | none =>
    refine ⟨_, _, materialize_run_of_unknown settings time fetcher around known {}, ?_, ?_, ?_⟩
    · exact fun _ => ⟨rfl, rfl⟩
    · exact fun url reason found => nomatch found
    · exact fun url found => nomatch found
  | some url =>
    cases room : around.refusal with
    | some reason =>
      refine ⟨_, _, materialize_run_of_refused settings time fetcher known room {}, ?_, ?_, ?_⟩
      · exact fun unknown => nomatch unknown
      · rintro url reason ⟨⟩ ⟨⟩
        exact ⟨rfl, rfl⟩
      · exact fun url _ admitted => nomatch admitted
    | none =>
      refine ⟨_, _, materialize_run time fetcher known room {}, ?_, ?_, ?_⟩
      · exact fun unknown => nomatch unknown
      · exact fun url reason _ refused => nomatch refused
      · rintro url ⟨⟩ -
        have removes := Scratch.removes around around.before
        refine ⟨_, rfl, ?_, rfl, rfl, removes, removes.attempts_le, ?_, ?_⟩
        · intro around' scene'
          rw [stage_run]
        · exact fun k i mode here seen => Scratch.writable_of_cleared here seen
        · exact fun k bound succeeds => removes.left_eq_nothing bound succeeds

/-- A clone fails, and something holds on to the directory for two attempts to remove it. -/
theorem failed_clone_removed_at_third_attempt : ∃ scene,
    (materialize {} "now" (fun _ => ⟨.error .toolUnavailable, none⟩)
      { before := .directory [0o444], prevents := (· < 2) } "o/r").run {} =
        (.error .toolUnavailable, scene) ∧
    scene.occupant = .nothing ∧
    scene.acts = [.created, .cloned "https://github.com/o/r.git",
      .removed ⟨.nothing, 3, [400, 800]⟩] := by
  obtain ⟨outcome, scene, done, -, -, fetched⟩ := materialize_outcome {} "now"
    (fun _ => ⟨.error .toolUnavailable, none⟩) { before := .directory [0o444], prevents := (· < 2) }
    "o/r"
  obtain ⟨removal, rfl, -, acts, -, removes, -, -, enough⟩ :=
    fetched "https://github.com/o/r.git" (by decide) rfl
  have third : Scratch.Removes { before := .directory [0o444], prevents := (· < 2) }
      (.directory [0o444]) ⟨.nothing, 3, [400, 800]⟩ :=
    .deleted (k := 2) (by decide) (by decide) (by decide) (by decide)
  obtain rfl := removes.unique third
  exact ⟨scene, done, enough 2 (by decide) (by decide), acts⟩

end Checkout
end CodeWiki
