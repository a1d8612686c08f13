import CodeWiki.Text.Basic

/-!
Retention of results for a while. A store holds a bounded number of results by key; when it is full
the oldest result goes first. Time is a number that the caller passes in.
-/
namespace CodeWiki

/-- How long and how many results are retained. -/
structure RetentionSettings where
  lifetimeSecs : Nat := 3600
  capacity : Nat := 32
deriving DecidableEq, Repr

/-- A retained result with its key and the time at which it was stored. -/
structure Retained (α : Type) where
  key : Text
  storedAt : Nat
  value : α

/-- Results retained at most for `lifetime`, and at most `capacity` of them. -/
structure Store (α : Type) where
  lifetime : Nat
  capacity : Nat
  entries : List (Retained α)

namespace Store

variable {α : Type}

def empty (lifetime capacity : Nat) : Store α := ⟨lifetime, capacity, []⟩

/-- The number of results held, those that have outlived their time included. -/
def size (s : Store α) : Nat := s.entries.length

/-- Whether a result may still be used at the time `now`. -/
def isFresh (s : Store α) (now : Nat) (entry : Retained α) : Bool :=
  now - entry.storedAt < s.lifetime

def find? (s : Store α) (key : Text) : Option (Retained α) := s.entries.find? (·.key = key)

def without (key : Text) (entries : List (Retained α)) : List (Retained α) :=
  entries.filter (·.key ≠ key)

/-- The result of a key at the time `now`, and the store afterwards: a result that has outlived its
time is dropped. -/
def get (s : Store α) (now : Nat) (key : Text) : Option α × Store α :=
  match s.find? key with
  | some entry =>
    if s.isFresh now entry then (some entry.value, s)
    else (none, { s with entries := without key s.entries })
  | none => (none, s)

def oldest? : List (Retained α) → Option (Retained α)
  | [] => none
  | entry :: rest =>
    match oldest? rest with
    | some other => if other.storedAt < entry.storedAt then some other else some entry
    | none => some entry

/-- Drops the oldest entries until fewer than `capacity` are left. There are no more rounds than
there are entries. -/
def evict (capacity : Nat) : Nat → List (Retained α) → List (Retained α)
  | 0, entries => entries
  | rounds + 1, entries =>
    if entries.length < capacity then entries
    else match oldest? entries with
      | some entry => evict capacity rounds (without entry.key entries)
      | none => entries

/-- The store with a result put in at the time `now`. What has outlived its time is dropped first; a
key that is already there needs no further room. -/
def insert (s : Store α) (now : Nat) (key : Text) (value : α) : Store α :=
  if s.capacity = 0 then s
  else
    let fresh := s.entries.filter (s.isFresh now)
    let kept :=
      if fresh.any (·.key = key) then without key fresh
      else evict s.capacity fresh.length fresh
    { s with entries := ⟨key, now, value⟩ :: kept }

end Store
end CodeWiki
