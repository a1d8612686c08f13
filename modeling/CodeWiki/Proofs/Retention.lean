import CodeWiki.Retention

/-! What a store holds was put there: a look-up gives back an entry of its key, and neither a
look-up nor an insertion makes an entry but the one that is inserted. -/
namespace CodeWiki.Store

variable {α : Type} {s : Store α} {now : Nat} {key : Text} {value : α} {entry : Retained α}

theorem without_sublist (key : Text) (entries : List (Retained α)) :
    (without key entries).Sublist entries := List.filter_sublist

theorem entry_of_get (found : (s.get now key).1 = some value) :
    ∃ entry ∈ s.entries, entry.key = key ∧ entry.value = value := by
  unfold get at found
  cases search : s.find? key with
  | none => simp [search] at found
  | some entry =>
    simp only [search] at found
    split at found
    · have same := List.find?_some search
      exact ⟨entry, List.mem_of_find?_eq_some search, by simpa using same, by simpa using found⟩
    · cases found

theorem entries_get_sublist (s : Store α) (now : Nat) (key : Text) :
    (s.get now key).2.entries.Sublist s.entries := by
  unfold get
  split
  · split
    · exact List.Sublist.refl _
    · exact without_sublist key s.entries
  · exact List.Sublist.refl _

/-- A result that is not found is not held any longer. -/
theorem key_ne_of_missed (missed : (s.get now key).1 = none) :
    ∀ entry ∈ (s.get now key).2.entries, entry.key ≠ key := by
  intro entry member
  unfold get at missed member
  cases search : s.find? key with
  | none =>
    rw [search] at member
    simpa using List.find?_eq_none.mp search entry member
  | some found =>
    simp only [search] at missed member
    split at missed
    · cases missed
    · rename_i stale
      rw [if_neg stale] at member
      simpa using (List.mem_filter.mp member).2

theorem evict_sublist (capacity rounds : Nat) (entries : List (Retained α)) :
    (evict capacity rounds entries).Sublist entries := by
  induction rounds generalizing entries with
  | zero => exact List.Sublist.refl _
  | succ rounds ih =>
    unfold evict
    split
    · exact List.Sublist.refl _
    · split
      · exact (ih _).trans (without_sublist _ entries)
      · exact List.Sublist.refl _

theorem mem_insert (member : entry ∈ (s.insert now key value).entries) :
    entry = ⟨key, now, value⟩ ∨ entry ∈ s.entries := by
  unfold insert at member
  split at member
  · exact Or.inr member
  · have fresh : (s.entries.filter (s.isFresh now)).Sublist s.entries := List.filter_sublist
    rcases List.mem_cons.mp member with new | kept
    · exact Or.inl new
    · right
      split at kept
      · exact fresh.subset ((without_sublist _ _).subset kept)
      · exact fresh.subset ((evict_sublist _ _ _).subset kept)

/-- What has been put in is found again until its time is over. -/
theorem get_insert {later : Nat} (s : Store α) (key : Text) (value : α) (room : s.capacity ≠ 0)
    (young : later - now < s.lifetime) :
    (s.insert now key value).get later key = (some value, s.insert now key value) := by
  have first : (s.insert now key value).find? key = some ⟨key, now, value⟩ := by
    simp [insert, find?, room]
  have fresh : (s.insert now key value).isFresh later ⟨key, now, value⟩ = true := by
    simpa [insert, isFresh, room] using young
  simp only [get, first, fresh, if_true]

end CodeWiki.Store
