import Mathlib.Data.List.Nodup
import Mathlib.Data.List.Perm.Subperm
import CodeWiki.Proofs.Section.Identifier

/-! Identifiers in a whole tree of sections. In the order in which a reader meets the sections, each
gets the identifier it asks for, or the first numbered form of it that no earlier section has.
Numbered forms differ, so among one more of them than there are earlier sections one is free. -/
namespace CodeWiki

namespace WikiSection

mutual

/-- The identifiers of a section and of all below it, each before those of its subsections. -/
def ids : WikiSection → List Text
  | .mk id _ _ none => [id]
  | .mk id _ _ (some children) => id :: idsAll children

def idsAll : List WikiSection → List Text
  | [] => []
  | s :: rest => s.ids ++ idsAll rest

end

end WikiSection

namespace Identifier

theorem numbered_injective {base : Text} {m n : Nat} (same : numbered base m = numbered base n) :
    m = n := by
  have digits : Text.ofNat m = Text.ofNat n := List.append_cancel_left same
  have values := congrArg (fun t => Nat.ofDigitChars 10 t 0) digits
  simpa [Text.ofNat] using values

/-- Among one more numbered forms than there are used identifiers, one is not used. -/
theorem exists_unused (used : List Text) (base : Text) (n : Nat) :
    ∃ k < used.length + 1, numbered base (n + k) ∉ used := by
  by_contra none
  push Not at none
  have distinct : ((List.range (used.length + 1)).map fun k => numbered base (n + k)).Nodup := by
    refine List.Nodup.map ?_ List.nodup_range
    intro k l same
    exact Nat.add_left_cancel (numbered_injective same)
  have inside : ((List.range (used.length + 1)).map fun k => numbered base (n + k)) ⊆ used := by
    intro name member
    obtain ⟨k, bound, rfl⟩ := List.mem_map.mp member
    exact none k (List.mem_range.mp bound)
  have few := (List.subperm_of_subset distinct inside).length_le
  rw [List.length_map, List.length_range] at few
  exact Nat.not_succ_le_self _ few

/-- The search for a number ends, and with the first that is free. -/
theorem firstFree_spec (used : List Text) (base : Text) (n : Nat) :
    n ≤ firstFree used base n ∧ numbered base (firstFree used base n) ∉ used ∧
      ∀ k, n ≤ k → k < firstFree used base n → numbered base k ∈ used := by
  unfold firstFree
  rw [List.find?_map]
  cases found : (List.range (used.length + 1)).find?
      ((fun k => !used.contains (numbered base k)) ∘ (n + ·)) with
  | none =>
    obtain ⟨k, bound, unused⟩ := exists_unused used base n
    have refused := List.find?_eq_none.mp found k (List.mem_range.mpr bound)
    simp [unused] at refused
  | some j =>
    obtain ⟨free, -, before⟩ := List.find?_range_eq_some.mp found
    simp only [Option.map_some, Option.getD_some]
    refine ⟨Nat.le_add_right n j, by simpa using free, ?_⟩
    intro k first less
    obtain ⟨i, rfl⟩ := Nat.exists_eq_add_of_le first
    simpa using before i (Nat.lt_of_add_lt_add_left less)

/-- The identifier that a section asks for. -/
def wanted (id : Text) : Text := if id.isEmpty then placeholder else id

/-- What a section is called behind earlier ones: as it asks to be, unless one of them is called
so. -/
inductive Assigned (earlier : List Text) (id : Text) : Text → Prop where
  | kept : wanted id ∉ earlier → Assigned earlier id (wanted id)
  | suffixed {n} : wanted id ∈ earlier → 2 ≤ n → numbered (wanted id) n ∉ earlier →
      (∀ k, 2 ≤ k → k < n → numbered (wanted id) k ∈ earlier) →
      Assigned earlier id (numbered (wanted id) n)

theorem assigned_unused (used : List Text) (id : Text) : Assigned used id (unused used id) := by
  unfold unused
  change Assigned used id (if used.contains (wanted id) then
    numbered (wanted id) (firstFree used (wanted id) 2) else wanted id)
  split
  · rename_i taken
    obtain ⟨first, free, least⟩ := firstFree_spec used (wanted id) 2
    exact .suffixed (by simpa using taken) first free least
  · rename_i available
    exact .kept (by simpa using available)

variable {used earlier : List Text} {id name : Text}

theorem Assigned.not_mem (assigned : Assigned earlier id name) : name ∉ earlier := by
  cases assigned with
  | kept available => exact available
  | suffixed _ _ free _ => exact free

theorem Assigned.ne_nil (assigned : Assigned earlier id name) : name ≠ [] := by
  cases assigned with
  | kept _ =>
    unfold wanted
    split
    · decide
    · rename_i given
      simpa using given
  | suffixed _ _ _ _ => simp [numbered]

/-- Only the set of the earlier identifiers counts. -/
theorem Assigned.congr (assigned : Assigned used id name) (same : ∀ t, t ∈ used ↔ t ∈ earlier) :
    Assigned earlier id name := by
  cases assigned with
  | kept available => exact .kept fun taken => available ((same _).mpr taken)
  | suffixed taken first free least =>
    exact .suffixed ((same _).mp taken) first (fun member => free ((same _).mpr member))
      fun k bound less => (same _).mp (least k bound less)

/-- Identifiers for a row of sections, each made different from all before it. -/
def assign (used : List Text) : List Text → List Text
  | [] => []
  | id :: rest => unused used id :: assign (unused used id :: used) rest

theorem assign_append (used ids later : List Text) :
    assign used (ids ++ later) =
      assign used ids ++ assign ((assign used ids).reverse ++ used) later := by
  induction ids generalizing used with
  | nil => rfl
  | cons id rest ih =>
    simp only [List.cons_append, assign, ih, List.reverse_cons, List.append_assoc, List.nil_append]

mutual

/-- The way through a tree is the way along the row of its identifiers. -/
theorem ids_distinct (used : List Text) : ∀ s : WikiSection,
    (distinct used s).1.ids = assign used s.ids ∧
      (distinct used s).2 = (assign used s.ids).reverse ++ used
  | .mk id _ _ none => ⟨rfl, rfl⟩
  | .mk id _ _ (some children) => by
    obtain ⟨names, taken⟩ := idsAll_distinctAll (unused used id :: used) children
    simp only [distinct, WikiSection.ids, assign, names, taken, List.reverse_cons,
      List.append_assoc, List.singleton_append, and_self]

theorem idsAll_distinctAll (used : List Text) : ∀ sections : List WikiSection,
    WikiSection.idsAll (distinctAll used sections).1 = assign used (WikiSection.idsAll sections) ∧
      (distinctAll used sections).2 = (assign used (WikiSection.idsAll sections)).reverse ++ used
  | [] => ⟨rfl, rfl⟩
  | s :: rest => by
    obtain ⟨first, taken⟩ := ids_distinct used s
    obtain ⟨later, all⟩ := idsAll_distinctAll (distinct used s).2 rest
    rw [taken] at later all
    simp only [distinctAll, WikiSection.idsAll, first, taken, later, all, assign_append,
      List.reverse_append, List.append_assoc, and_self]

end

theorem length_assign (used ids : List Text) : (assign used ids).length = ids.length := by
  induction ids generalizing used with
  | nil => rfl
  | cons id rest ih => simp only [assign, List.length_cons, ih]

theorem getElem?_assign {ids : List Text} {k : Nat} (used : List Text) (here : ids[k]? = some id) :
    ∃ name, (assign used ids)[k]? = some name ∧
      Assigned (used ++ (assign used ids).take k) id name := by
  induction ids generalizing used k with
  | nil => simp at here
  | cons head rest ih =>
    cases k with
    | zero =>
      obtain rfl : head = id := by simpa using here
      refine ⟨unused used head, rfl, ?_⟩
      simpa using assigned_unused used head
    | succ k =>
      obtain ⟨name, place, assigned⟩ := ih (unused used head :: used) (by simpa using here)
      refine ⟨name, by simpa [assign] using place, assigned.congr fun t => ?_⟩
      simp only [assign, List.take_succ_cons, List.cons_append, List.mem_cons, List.mem_append]
      tauto

theorem nodup_of_forall_not_mem_take {names : List Text}
    (fresh : ∀ (k : Nat) (name : Text), names[k]? = some name → name ∉ names.take k) :
    names.Nodup := by
  rw [List.nodup_iff_getElem?_ne_getElem?]
  intro i j less bound same
  obtain ⟨name, later⟩ : ∃ name, names[j]? = some name := ⟨_, List.getElem?_eq_getElem bound⟩
  have before : (names.take j)[i]? = some name := by
    rw [List.getElem?_take_of_lt less, same, later]
  exact fresh j name later (List.mem_of_getElem? before)

end Identifier

namespace WikiSection

open Identifier

/-- The sections as they are parsed, before their identifiers are made distinct. -/
def parsed (overview : Text) (modules : List (Text × Text)) : List WikiSection :=
  ofOverview overview :: modules.map fun (module, reply) => ofReply module reply

/-- No two sections of a wiki have the same identifier, at whatever depth they stand. Each has the
one it asks for unless an earlier section has it, and then that with the first free number from two
on. The overview keeps its own, and nothing but identifiers is changed. -/
theorem assemble_distinct (overview : Text) (modules : List (Text × Text)) :
    (idsAll (assemble overview modules)).Nodup ∧
    (∀ id ∈ idsAll (assemble overview modules), id ≠ []) ∧
    (assemble overview modules).head?.map WikiSection.id = some overviewId ∧
    (idsAll (assemble overview modules)).length = (idsAll (parsed overview modules)).length ∧
    (∀ (k : Nat) (given : Text), (idsAll (parsed overview modules))[k]? = some given →
      ∃ name, (idsAll (assemble overview modules))[k]? = some name ∧
        Assigned ((idsAll (assemble overview modules)).take k) given name) ∧
    (∀ (used : List Text) (base : Text), ∃ n, firstFree used base 2 = n ∧ 2 ≤ n ∧
      numbered base n ∉ used ∧ ∀ k, 2 ≤ k → k < n → numbered base k ∈ used) ∧
    (assemble overview modules).map withoutIds = (parsed overview modules).map withoutIds := by
  have names : idsAll (assemble overview modules) = assign [] (idsAll (parsed overview modules)) :=
    (idsAll_distinctAll [] (parsed overview modules)).1
  have assigned : ∀ (k : Nat) (given : Text), (idsAll (parsed overview modules))[k]? = some given →
      ∃ name, (idsAll (assemble overview modules))[k]? = some name ∧
        Assigned ((idsAll (assemble overview modules)).take k) given name := by
    intro k given here
    rw [names]
    simpa using getElem?_assign [] here
  have length : (idsAll (assemble overview modules)).length =
      (idsAll (parsed overview modules)).length := by
    rw [names, length_assign]
  have each : ∀ (k : Nat) (name : Text), (idsAll (assemble overview modules))[k]? = some name →
      ∃ given, Assigned ((idsAll (assemble overview modules)).take k) given name := by
    intro k name here
    obtain ⟨bound, -⟩ := List.getElem?_eq_some_iff.mp here
    obtain ⟨name', place, named⟩ := assigned k _ (List.getElem?_eq_getElem (length ▸ bound))
    obtain rfl : name = name' := Option.some.inj (here.symm.trans place)
    exact ⟨_, named⟩
  refine ⟨nodup_of_forall_not_mem_take fun k name here => ?_, fun name member => ?_, rfl, length,
    assigned, fun used base => ⟨_, rfl, firstFree_spec used base 2⟩, ?_⟩
  · obtain ⟨given, named⟩ := each k name here
    exact named.not_mem
  · obtain ⟨k, here⟩ := List.mem_iff_getElem?.mp member
    obtain ⟨given, named⟩ := each k name here
    exact named.ne_nil
  · rw [map_withoutIds_assemble, parsed, List.map_cons, List.map_map]
    rfl

/-- A numbered identifier is taken for what it is: a module of that name gets the next one. -/
theorem module_called_like_number :
    idsAll (assemble [] [("api", []), ("API", []), ("api-2", []), ("?", [])]) =
      ["overview".toList, "api".toList, "api-2".toList, "api-2-2".toList, "section".toList] ∧
    "section".toList ≠ [] ∧
    Assigned ["overview".toList, "api".toList, "api-2".toList] "api-2" "api-2-2" := by
  have ids : idsAll (assemble [] [("api", []), ("API", []), ("api-2", []), ("?", [])]) =
      ["overview".toList, "api".toList, "api-2".toList, "api-2-2".toList, "section".toList] := by
    decide +kernel
  have given : (idsAll (parsed [] [("api", []), ("API", []), ("api-2", []), ("?", [])]))[3]? =
      some "api-2".toList := by
    decide +kernel
  obtain ⟨-, occupied, -, -, assigned, -, -⟩ :=
    assemble_distinct [] [("api", []), ("API", []), ("api-2", []), ("?", [])]
  obtain ⟨name, place, named⟩ := assigned 3 "api-2" given
  rw [ids] at occupied place named
  obtain rfl : "api-2-2".toList = name := Option.some.inj place
  exact ⟨ids, occupied _ (by simp), named⟩

end WikiSection
end CodeWiki
