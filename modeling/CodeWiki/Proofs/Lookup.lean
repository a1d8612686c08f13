/-! Look-ups in lists of pairs. Where no key occurs twice, a list of pairs is a map. -/
namespace CodeWiki

variable {α β : Type} [BEq α] [LawfulBEq α] {l : List (α × β)} {a : α} {b : β}

theorem mem_of_lookup (found : l.lookup a = some b) : (a, b) ∈ l := by
  obtain ⟨before, after, rfl, -⟩ := List.lookup_eq_some_iff.mp found
  exact List.mem_append_right _ List.mem_cons_self

theorem lookup_of_mem (distinct : (l.map Prod.fst).Nodup) (member : (a, b) ∈ l) :
    l.lookup a = some b := by
  obtain ⟨before, after, rfl⟩ := List.append_of_mem member
  rw [List.map_append, List.map_cons, List.nodup_append] at distinct
  refine List.lookup_eq_some_iff.mpr ⟨before, after, rfl, ?_⟩
  intro entry earlier
  rw [bne_iff_ne]
  exact (distinct.2.2 entry.1 (List.mem_map.mpr ⟨entry, earlier, rfl⟩) a List.mem_cons_self).symm

end CodeWiki
