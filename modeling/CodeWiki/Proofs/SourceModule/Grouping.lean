import Mathlib.Data.List.Induction
import Mathlib.Data.List.Nodup
import CodeWiki.Proofs.SourceModule.Partition

/-! Which file goes where. Modules that are filled file by file stand in the order in which their
names first occur, and hold the files of their name. -/
namespace CodeWiki.SourceModule

variable {nameOf : Text → Text} {modules groups : List SourceModule} {prior : List Text}
  {files : Snapshot} {more : List (Text × Text)} {m : SourceModule} {path name : Text}

/-! ### Names in the order of their first occurrence -/

theorem eraseDups_concat (l : List Text) (a : Text) :
    (l ++ [a]).eraseDups = if a ∈ l.eraseDups then l.eraseDups else l.eraseDups ++ [a] := by
  rw [List.eraseDups_append]
  by_cases present : a ∈ l
  · rw [if_pos (List.mem_eraseDups.mpr present)]
    simp [List.removeAll, present]
  · rw [if_neg (fun found => present (List.mem_eraseDups.mp found))]
    simp [List.removeAll, present, List.eraseDups_cons]

/-- Dropping elements by a property of theirs does not change which occurrence is the first. -/
theorem eraseDups_filter (keep : Text → Bool) (l : List Text) :
    (l.filter keep).eraseDups = l.eraseDups.filter keep := by
  induction l using List.reverseRecOn with
  | nil => rfl
  | append_singleton l a ih =>
    cases kept : keep a with
    | false =>
      have gone : [a].filter keep = [] := by simp [kept]
      rw [List.filter_append, gone, List.append_nil, ih, eraseDups_concat]
      split
      · rfl
      · rw [List.filter_append, gone, List.append_nil]
    | true =>
      have stays : [a].filter keep = [a] := by simp [kept]
      rw [List.filter_append, stays, eraseDups_concat, ih, eraseDups_concat]
      by_cases present : a ∈ l.eraseDups
      · rw [if_pos present, if_pos (List.mem_filter.mpr ⟨present, kept⟩)]
      · rw [if_neg present, if_neg (fun found => present (List.mem_filter.mp found).1),
          List.filter_append, stays]

theorem nodup_eraseDups (l : List Text) : l.eraseDups.Nodup := by
  induction l using List.reverseRecOn with
  | nil => exact List.nodup_nil
  | append_singleton l a ih =>
    rw [eraseDups_concat]
    split
    · exact ih
    · rename_i absent
      exact List.nodup_append.mpr ⟨ih, List.pairwise_singleton _ _,
        fun b present c last same => absent (List.mem_singleton.mp last ▸ same ▸ present)⟩

theorem eraseDups_of_nodup {l : List Text} (nodup : l.Nodup) : l.eraseDups = l := by
  induction l using List.reverseRecOn with
  | nil => rfl
  | append_singleton l a ih =>
    obtain ⟨before, -, apart⟩ := List.nodup_append.mp nodup
    rw [eraseDups_concat, ih before, if_neg]
    exact fun present => apart a present a List.mem_cons_self rfl

/-- At most one name is left just if all names are the same. -/
theorem eraseDups_length_le_one_iff (l : List Text) :
    l.eraseDups.length ≤ 1 ↔ ∀ a ∈ l, ∀ b ∈ l, a = b := by
  constructor
  · intro few a first b second
    rw [← List.mem_eraseDups] at first second
    match l.eraseDups, few, first, second with
    | [c], _, first, second => rw [List.mem_singleton.mp first, List.mem_singleton.mp second]
  · intro same
    cases l with
    | nil => exact Nat.zero_le 1
    | cons a rest =>
      have none : rest.filter (fun b => !b == a) = [] := by
        refine List.filter_eq_nil_iff.mpr fun b member => ?_
        simp [same b (List.mem_cons_of_mem _ member) a List.mem_cons_self]
      rw [List.eraseDups_cons, none]
      exact Nat.le_refl 1

theorem names_addAll (nameOf : Text → Text) (more : List (Text × Text))
    (names : modules.map SourceModule.name = prior.eraseDups) :
    (addAll nameOf more modules).map SourceModule.name =
      (prior ++ more.map fun f => nameOf f.1).eraseDups := by
  induction more generalizing modules prior with
  | nil =>
    rw [List.map_nil, List.append_nil]
    exact names
  | cons file rest ih =>
    have added : (add (nameOf file.1) file.1 file.2 modules).map SourceModule.name =
        (prior ++ [nameOf file.1]).eraseDups := by
      rw [names_add, names, eraseDups_concat]
    rw [List.map_cons, List.append_cons]
    exact ih added

/-- Files that all go to one module open it once. -/
theorem eraseDups_append_same (prior : List Text) (name : Text) (occupied : more ≠ []) :
    (prior ++ more.map fun _ => name).eraseDups = (prior ++ [name]).eraseDups := by
  induction more using List.reverseRecOn with
  | nil => exact absurd rfl occupied
  | append_singleton rest file ih =>
    cases rest with
    | nil => rfl
    | cons first rest =>
      have again : name ∈ (prior ++ (first :: rest).map fun _ => name).eraseDups :=
        List.mem_eraseDups.mpr (List.mem_append_right _ List.mem_cons_self)
      rw [List.map_append, List.map_singleton, ← List.append_assoc, eraseDups_concat, if_pos again]
      exact ih (List.cons_ne_nil _ _)

theorem names_merge (names : modules.map SourceModule.name = prior.eraseDups)
    (inhabited : ∀ group ∈ groups, group.files.entries ≠ []) :
    (merge modules groups).map SourceModule.name =
      (prior ++ groups.map SourceModule.name).eraseDups := by
  induction groups generalizing modules prior with
  | nil =>
    rw [List.map_nil, List.append_nil]
    exact names
  | cons group rest ih =>
    have added : (addAll (fun _ => group.name) group.files.entries modules).map SourceModule.name =
        (prior ++ [group.name]).eraseDups := by
      rw [names_addAll _ _ names, eraseDups_append_same _ _ (inhabited group List.mem_cons_self)]
    rw [List.map_cons, List.append_cons]
    exact ih added fun g member => inhabited g (List.mem_cons_of_mem _ member)

theorem names_addAll_nil (nameOf : Text → Text) (files : Snapshot) :
    (addAll nameOf files.entries []).map SourceModule.name =
      (files.paths.map nameOf).eraseDups := by
  have names : ([] : List SourceModule).map SourceModule.name = [].eraseDups := rfl
  rw [names_addAll nameOf files.entries names, List.nil_append, Snapshot.paths, List.map_map]
  rfl

/-! ### Modules that hold the files of their name -/

/-- Each module is called as its files are. -/
def Labelled (nameOf : Text → Text) (modules : List SourceModule) : Prop :=
  ∀ m ∈ modules, ∀ f ∈ m.files.entries, nameOf f.1 = m.name

theorem Labelled.add (labelled : Labelled nameOf modules) (path content : Text) :
    Labelled nameOf (add (nameOf path) path content modules) := by
  induction modules with
  | nil =>
    intro m member f inside
    obtain rfl := List.mem_singleton.mp member
    rw [List.mem_singleton.mp inside]
  | cons head rest ih =>
    obtain ⟨here, later⟩ := List.forall_mem_cons.mp labelled
    unfold SourceModule.add
    split
    · rename_i called
      refine List.forall_mem_cons.mpr ⟨fun f inside => ?_, later⟩
      rcases Snapshot.mem_insertEntry inside with rfl | earlier
      · exact called.symm
      · exact here f earlier
    · exact List.forall_mem_cons.mpr ⟨here, ih later⟩

theorem Labelled.addAll {nameOf' : Text → Text} (labelled : Labelled nameOf modules)
    (agree : ∀ f ∈ more, nameOf' f.1 = nameOf f.1) :
    Labelled nameOf (addAll nameOf' more modules) := by
  induction more generalizing modules with
  | nil => exact labelled
  | cons file rest ih =>
    obtain ⟨here, later⟩ := List.forall_mem_cons.mp agree
    have added := labelled.add file.1 file.2
    rw [← here] at added
    exact ih added later

theorem Labelled.merge (labelled : Labelled nameOf modules) (labelled' : Labelled nameOf groups) :
    Labelled nameOf (merge modules groups) := by
  induction groups generalizing modules with
  | nil => exact labelled
  | cons group rest ih =>
    obtain ⟨here, later⟩ := List.forall_mem_cons.mp labelled'
    exact ih (labelled.addAll fun f inside => (here f inside).symm) later

theorem labelled_addAll_nil (nameOf : Text → Text) (files : Snapshot) :
    Labelled nameOf (addAll nameOf files.entries []) := by
  have empty : Labelled nameOf [] := fun _ => nofun
  exact empty.addAll fun _ _ => rfl

theorem partitions_addAll_nil (nameOf : Text → Text) (files : Snapshot) :
    Partitions (fun _ => True) (addAll nameOf files.entries []) files.entries := by
  have added := (partitions_nil fun _ => True).addAll nameOf
    (by simpa using files.distinct) fun _ _ => trivial
  rwa [List.append_nil] at added

/-- What a module holds is known from its name. -/
theorem entries_of_labelled (partitions : Partitions (fun _ => True) modules files.entries)
    (labelled : Labelled nameOf modules) (member : m ∈ modules) :
    m.files.entries = files.entries.filter fun f => nameOf f.1 = m.name := by
  have nodup : ∀ s : Snapshot, s.entries.Nodup := fun s => List.Nodup.of_map _ s.distinct
  have same : m.files.entries.Perm (files.entries.filter fun f => nameOf f.1 = m.name) := by
    refine (List.perm_ext_iff_of_nodup (nodup _) ((nodup _).filter _)).mpr fun f => ?_
    rw [List.mem_filter, decide_eq_true_eq, ← partitions.same.mem_iff]
    constructor
    · exact fun inside => ⟨List.mem_flatMap.mpr ⟨m, member, inside⟩, labelled m member f inside⟩
    · rintro ⟨somewhere, called⟩
      obtain ⟨m', member', inside⟩ := List.mem_flatMap.mp somewhere
      have names := (labelled m' member' f inside).symm.trans called
      rwa [← List.inj_on_of_nodup_map partitions.distinct member' member names]
  exact same.eq_of_pairwise (fun _ _ _ _ less more => absurd more (List.lt_asymm less))
    m.files.sorted (files.sorted.filter _)

end CodeWiki.SourceModule
