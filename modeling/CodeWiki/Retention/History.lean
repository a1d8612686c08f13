import CodeWiki.Retention

/-!
Histories of a store: look-ups and insertions in the order in which they take place, each at its
time.
-/
namespace CodeWiki.Store

variable {α : Type}

inductive Operation (α : Type) where
  | get (key : Text)
  | insert (key : Text) (value : α)

/-- The store after an operation at the given time. -/
def perform (s : Store α) : Nat × Operation α → Store α
  | (now, .get key) => (s.get now key).2
  | (now, .insert key value) => s.insert now key value

/-- The store after the operations of a history, the first one on an empty store. -/
def run (lifetime capacity : Nat) (history : List (Nat × Operation α)) : Store α :=
  history.foldl perform (empty lifetime capacity)

def insertion? : Nat × Operation α → Option (Retained α)
  | (_, .get _) => none
  | (now, .insert key value) => some ⟨key, now, value⟩

/-- What a history puts in, whatever becomes of it, the earliest first. -/
def insertions (history : List (Nat × Operation α)) : List (Retained α) :=
  history.filterMap insertion?

section

variable {lifetime capacity : Nat} {history : List (Nat × Operation α)}

@[simp] theorem run_nil :
    run lifetime capacity ([] : List (Nat × Operation α)) = empty lifetime capacity :=
  rfl

@[simp] theorem run_append_singleton (operation : Nat × Operation α) :
    run lifetime capacity (history ++ [operation]) =
      (run lifetime capacity history).perform operation := by
  rw [run, List.foldl_append]
  rfl

@[simp] theorem insertions_append_get (now : Nat) (key : Text) :
    insertions (history ++ [(now, .get key)]) = insertions history := by
  simp [insertions, insertion?]

@[simp] theorem insertions_append_insert (now : Nat) (key : Text) (value : α) :
    insertions (history ++ [(now, .insert key value)]) = insertions history ++
      [⟨key, now, value⟩] := by
  simp [insertions, insertion?]

end

/-- Time does not run backwards up to `now`, and no two results are put in at the same time. -/
structure Timely (history : List (Nat × Operation α)) (now : Nat) : Prop where
  inOrder : history.Pairwise fun a b => a.1 ≤ b.1
  past : ∀ operation ∈ history, operation.1 ≤ now
  apart : (insertions history).Pairwise fun a b => a.storedAt < b.storedAt

end CodeWiki.Store
