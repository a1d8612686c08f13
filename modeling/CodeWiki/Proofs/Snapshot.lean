import CodeWiki.Proofs.Lookup
import CodeWiki.Snapshot

/-! A snapshot as a map, and what is in it after a file is put in. -/
namespace CodeWiki.Snapshot

variable {path content : Text} {entries : List (Text × Text)} {entry : Text × Text}

theorem distinct (s : Snapshot) : (s.entries.map Prod.fst).Nodup := by
  refine List.pairwise_map.mpr (s.sorted.imp ?_)
  intro a b less same
  rw [same] at less
  exact List.lt_irrefl _ less

theorem get?_eq_some_iff {s : Snapshot} {path content : Text} :
    s.get? path = some content ↔ (path, content) ∈ s.entries :=
  ⟨mem_of_lookup, lookup_of_mem s.distinct⟩

theorem insertEntry_perm {path : Text} (content : Text) {entries : List (Text × Text)}
    (fresh : path ∉ entries.map Prod.fst) :
    (insertEntry path content entries).Perm ((path, content) :: entries) := by
  induction entries with
  | nil => exact List.Perm.refl _
  | cons head rest ih =>
    rw [List.map_cons, List.mem_cons, not_or] at fresh
    unfold insertEntry
    split
    · exact List.Perm.refl _
    · rw [if_neg fresh.1]
      exact ((ih fresh.2).cons head).trans (List.Perm.swap _ _ _)

theorem insertEntry_ne_nil (path content : Text) (entries : List (Text × Text)) :
    insertEntry path content entries ≠ [] := by
  cases entries with
  | nil => exact List.cons_ne_nil _ _
  | cons head rest =>
    unfold insertEntry
    split
    · exact List.cons_ne_nil _ _
    · split <;> exact List.cons_ne_nil _ _

theorem mem_insertEntry (member : entry ∈ insertEntry path content entries) :
    entry = (path, content) ∨ entry ∈ entries := by
  induction entries with
  | nil => exact Or.inl (List.mem_singleton.mp member)
  | cons head rest ih =>
    unfold insertEntry at member
    split at member
    · exact List.mem_cons.mp member
    · split at member
      · exact (List.mem_cons.mp member).imp_right (List.mem_cons_of_mem _)
      · rcases List.mem_cons.mp member with rfl | later
        · exact Or.inr List.mem_cons_self
        · exact (ih later).imp_right (List.mem_cons_of_mem _)

theorem size_insert_le (s : Snapshot) (path content : Text) :
    (s.insert path content).size ≤ s.size + 1 := by
  suffices ∀ entries, (insertEntry path content entries).length ≤ entries.length + 1 from
    this s.entries
  intro entries
  induction entries with
  | nil => exact Nat.le_refl _
  | cons head rest ih =>
    unfold insertEntry
    split
    · exact Nat.le_refl _
    · split
      · exact Nat.le_succ _
      · exact Nat.succ_le_succ ih

theorem mem_paths_insert (s : Snapshot) (path content other : Text) :
    other ∈ (s.insert path content).paths ↔ other = path ∨ other ∈ s.paths := by
  suffices ∀ entries : List (Text × Text), other ∈ (insertEntry path content entries).map Prod.fst ↔
      other = path ∨ other ∈ entries.map Prod.fst from this s.entries
  intro entries
  induction entries with
  | nil => simp [insertEntry]
  | cons head rest ih =>
    unfold insertEntry
    split
    · simp
    · split
      · rename_i same
        simp [same]
      · rw [List.map_cons, List.mem_cons, ih, List.map_cons, List.mem_cons, or_left_comm]

/-- A file whose path comes after all others is put in at the end. -/
theorem insertEntry_of_last {path content : Text} {entries : List (Text × Text)}
    (last : ∀ entry ∈ entries, entry.1 < path) :
    insertEntry path content entries = entries ++ [(path, content)] := by
  induction entries with
  | nil => rfl
  | cons entry rest ih =>
    obtain ⟨before, later⟩ := List.forall_mem_cons.mp last
    rw [insertEntry, if_neg (List.lt_asymm before),
      if_neg (fun same => List.lt_irrefl _ (same ▸ before)), ih later, List.cons_append]

theorem entries_foldl_insert {s : Snapshot} {files : List (Text × Text)}
    (sorted : (s.entries ++ files).Pairwise fun a b => a.1 < b.1) :
    (files.foldl (fun s (path, content) => s.insert path content) s).entries =
      s.entries ++ files := by
  induction files generalizing s with
  | nil => exact (List.append_nil _).symm
  | cons file files ih =>
    have last := (List.pairwise_append.mp sorted).2.2
    have added : (s.insert file.1 file.2).entries = s.entries ++ [file] :=
      insertEntry_of_last fun entry among => last entry among file List.mem_cons_self
    rw [List.foldl_cons, ih, added, List.append_assoc, List.singleton_append]
    rwa [added, List.append_assoc]

theorem eq_of_entries {s s' : Snapshot} (same : s.entries = s'.entries) : s = s' := by
  cases s
  cases s'
  cases same
  rfl

theorem ofList_entries (s : Snapshot) : ofList s.entries = s := by
  apply eq_of_entries
  apply entries_foldl_insert
  rw [empty, List.nil_append]
  exact s.sorted

end CodeWiki.Snapshot
