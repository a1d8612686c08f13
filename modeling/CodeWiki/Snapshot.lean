import CodeWiki.Text.Basic

/-!
Snapshots: the files of a repository, content by path. The paths are in strictly increasing order of
their characters, so a snapshot is determined by what it maps.
-/
namespace CodeWiki

/-- Files by path, in the order of their paths. -/
structure Snapshot where
  entries : List (Text × Text)
  sorted : entries.Pairwise fun a b => a.1 < b.1 := by simp
deriving DecidableEq, Repr

namespace Snapshot

/-- Puts a file at its place among entries in order; a file of the same path is replaced. -/
def insertEntry (path content : Text) : List (Text × Text) → List (Text × Text)
  | [] => [(path, content)]
  | (p, c) :: rest =>
    if path < p then (path, content) :: (p, c) :: rest
    else if path = p then (path, content) :: rest
    else (p, c) :: insertEntry path content rest

theorem fst_of_mem_insertEntry {path content : Text} {entries : List (Text × Text)}
    {entry : Text × Text} (member : entry ∈ insertEntry path content entries) :
    entry.1 = path ∨ entry ∈ entries := by
  induction entries with
  | nil => simp_all [insertEntry]
  | cons head rest ih =>
    obtain ⟨p, c⟩ := head
    simp only [insertEntry] at member
    split at member
    · simp only [List.mem_cons] at member ⊢
      rcases member with rfl | rfl | member <;> simp_all
    · split at member
      · simp only [List.mem_cons] at member ⊢
        rcases member with rfl | member <;> simp_all
      · simp only [List.mem_cons] at member ⊢
        rcases member with rfl | member
        · simp
        · rcases ih member with h | h <;> simp [h]

theorem sorted_insertEntry {path content : Text} {entries : List (Text × Text)}
    (sorted : entries.Pairwise fun a b => a.1 < b.1) :
    (insertEntry path content entries).Pairwise fun a b => a.1 < b.1 := by
  induction entries with
  | nil => simp [insertEntry]
  | cons head rest ih =>
    obtain ⟨p, c⟩ := head
    obtain ⟨first, tail⟩ := List.pairwise_cons.mp sorted
    simp only [insertEntry]
    split
    · rename_i before
      refine List.pairwise_cons.mpr ⟨fun entry member => ?_, sorted⟩
      rcases List.mem_cons.mp member with rfl | member
      · exact before
      · exact List.lt_trans before (first entry member)
    · split
      · rename_i same
        subst same
        exact List.pairwise_cons.mpr ⟨first, tail⟩
      · rename_i before different
        refine List.pairwise_cons.mpr ⟨fun entry member => ?_, ih tail⟩
        rcases fst_of_mem_insertEntry member with h | h
        · rw [h]
          rcases Std.lt_trichotomy path p with h | h | h
          · exact absurd h before
          · exact absurd h different
          · exact h
        · exact first entry h

def empty : Snapshot := { entries := [] }

/-- The snapshot with one more file; a file of the same path is replaced. -/
def insert (s : Snapshot) (path content : Text) : Snapshot :=
  ⟨insertEntry path content s.entries, sorted_insertEntry s.sorted⟩

/-- The files of a list, the later ones replacing earlier ones of the same path. -/
def ofList (files : List (Text × Text)) : Snapshot :=
  files.foldl (fun s (path, content) => s.insert path content) empty

def size (s : Snapshot) : Nat := s.entries.length

def paths (s : Snapshot) : List Text := s.entries.map Prod.fst

def get? (s : Snapshot) (path : Text) : Option Text := s.entries.lookup path

end Snapshot
end CodeWiki
