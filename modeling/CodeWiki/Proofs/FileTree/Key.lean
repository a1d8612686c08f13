import CodeWiki.Proofs.FileTree.Listing
import CodeWiki.Proofs.Text.Utf8
import Mathlib.Data.Finset.Card
import Mathlib.Data.Finset.Dedup

/-! The keys under which files are put into a snapshot. A key tells the components of a path apart,
but a component that is no text is displayed with replacement characters, and two such components
may be displayed alike. -/
namespace CodeWiki

/-- A path that names what it leads through is taken apart into just these names. -/
theorem Path.components_intercalate {names : List FileName} (occupied : names ≠ [])
    (named : ∀ name ∈ names, name ≠ [] ∧ name ≠ [dot] ∧ slash ∉ name) :
    components ([slash].intercalate names) = names := by
  have segments : ([slash].intercalate names).splitOn slash = names :=
    List.splitOn_intercalate slash (fun name member => (named name member).2.2) occupied
  have plain : names.filter (fun s => !s.isEmpty && s != [dot]) = names := by
    refine List.filter_eq_self.mpr fun name member => ?_
    simp [(named name member).1, (named name member).2.1]
  obtain ⟨first, rest, rfl⟩ := List.exists_cons_of_ne_nil occupied
  obtain ⟨something, undotted, -⟩ := named first List.mem_cons_self
  unfold components
  simp only [segments, plain]
  split
  · rename_i same
    exact absurd (List.cons.inj same).1 something
  · rename_i same
    rw [← (List.cons.inj same).1, if_neg undotted]
  · rfl

namespace FileTree

variable {settings : CheckoutSettings} {tree : FileTree} {limit : Nat} {s : Snapshot}
  {files : List (List FileName × Text)}

/-- The key and the content under which a file is put in. -/
def entryOf (file : List FileName × Text) : Text × Text := (Path.display file.1, file.2)

theorem display_eq_iff {a b : List FileName} (occupied : a ≠ [] ∧ b ≠ [])
    (unslashed : ∀ name ∈ a ++ b, Path.slash ∉ name) :
    Path.display a = Path.display b ↔ a.map Utf8.decodeLossy = b.map Utf8.decodeLossy := by
  constructor
  · intro same
    have parts {path : List FileName} (occupied : path ≠ []) (part : ∀ name ∈ path, name ∈ a ++ b) :
        (Path.display path).splitOn '/' = path.map Utf8.decodeLossy := by
      refine List.splitOn_intercalate '/' ?_ (by simpa using occupied)
      intro name member
      obtain ⟨name, occurs, rfl⟩ := List.mem_map.mp member
      exact Utf8.slash_not_mem_decodeLossy (unslashed name (part name occurs))
    rw [← parts occupied.1 (fun _ => List.mem_append_left b), same,
      parts occupied.2 (fun _ => List.mem_append_right a)]
  · intro same
    rw [Path.display, Path.display, same]

/-- Files with keys of their own are put in one after another, until there are as many as
allowed. -/
theorem foldl_addUpTo_perm
    (fresh : ∀ file ∈ files.take (limit - s.size), Path.display file.1 ∉ s.paths)
    (distinct : ((files.take (limit - s.size)).map fun file => Path.display file.1).Nodup) :
    (files.foldl (addUpTo limit) s).entries.Perm
      (s.entries ++ (files.take (limit - s.size)).map entryOf) := by
  induction files generalizing s with
  | nil => simp
  | cons file rest ih =>
    rw [List.foldl_cons, addUpTo]
    by_cases room : s.size < limit
    · obtain ⟨n, left⟩ : ∃ n, limit - s.size = n + 1 := ⟨limit - s.size - 1, by omega⟩
      rw [left, List.take_succ_cons] at fresh distinct
      obtain ⟨first, others⟩ := List.forall_mem_cons.mp fresh
      obtain ⟨apart, distinct⟩ := List.nodup_cons.mp distinct
      have added :
          (s.insert (Path.display file.1) file.2).entries.Perm (entryOf file :: s.entries) :=
        Snapshot.insertEntry_perm file.2 first
      have still : limit - (s.insert (Path.display file.1) file.2).size = n := by
        rw [Snapshot.size, added.length_eq, List.length_cons]
        change limit - (s.size + 1) = n
        omega
      rw [if_pos room, left, List.take_succ_cons, List.map_cons]
      refine (ih ?_ ?_).trans ?_ <;> rw [still]
      · intro other member
        rw [Snapshot.mem_paths_insert, not_or]
        exact ⟨fun same => apart (List.mem_map.mpr ⟨other, member, same⟩), others other member⟩
      · exact distinct
      · exact (added.append_right _).trans List.perm_middle.symm
    · have full := Nat.not_lt.mp room
      rw [if_neg room, foldl_addUpTo_full full, Nat.sub_eq_zero_of_le full]
      simp

/-- There are as many entries as different keys, and no more than allowed. -/
theorem size_foldl_addUpTo_eq (fits : s.size ≤ limit) :
    (files.foldl (addUpTo limit) s).size =
      min limit (s.paths ++ files.map fun file => Path.display file.1).toFinset.card := by
  have size_eq (s : Snapshot) : s.paths.toFinset.card = s.size := by
    have distinct : s.paths.Nodup := s.distinct
    rw [List.toFinset_card_of_nodup distinct, Snapshot.paths, List.length_map, Snapshot.size]
  induction files generalizing s with
  | nil => rw [List.map_nil, List.append_nil, size_eq, Nat.min_eq_right fits]; rfl
  | cons file rest ih =>
    rw [List.foldl_cons, addUpTo]
    by_cases room : s.size < limit
    · rw [if_pos room, ih (Nat.le_trans (Snapshot.size_insert_le s _ _) room)]
      refine congrArg (fun keys : Finset Text => min limit keys.card) ?_
      ext key
      simp only [List.mem_toFinset, List.mem_append, Snapshot.mem_paths_insert, List.map_cons,
        List.mem_cons]
      rw [or_assoc, or_left_comm]
    · have full := Nat.not_lt.mp room
      rw [if_neg room, foldl_addUpTo_full full, Nat.le_antisymm fits full, min_eq_left]
      rw [← Nat.le_antisymm fits full, ← size_eq, List.toFinset_append]
      exact Finset.card_le_card Finset.subset_union_left

theorem path_of_eligible (wf : tree.WellFormed) {file : List FileName × Text}
    (member : file ∈ eligibleFiles settings tree) :
    file.1 ≠ [] ∧ ∀ name ∈ file.1, Path.slash ∉ name := by
  obtain ⟨path, text⟩ := file
  obtain ⟨⟨path, content⟩, listed, selected⟩ := List.mem_filterMap.mp member
  obtain ⟨rfl, admitted, -⟩ := eligible?_eq_some_iff.mp selected
  obtain ⟨-, name, -, last, -⟩ := admits_iff.mp admitted
  obtain ⟨below, same, clean⟩ := path_of_mem_listing wf ((List.mergeSort_perm _ _).subset listed)
  refine ⟨?_, ?_⟩
  · rintro rfl
    cases last
  · rw [List.nil_append] at same
    exact same ▸ clean

theorem key_eq_iff (wf : tree.WellFormed) {a b : List FileName × Text}
    (first : a ∈ eligibleFiles settings tree) (second : b ∈ eligibleFiles settings tree) :
    Path.display a.1 = Path.display b.1 ↔
      a.1.map Utf8.decodeLossy = b.1.map Utf8.decodeLossy := by
  obtain ⟨occupied, clean⟩ := path_of_eligible wf first
  obtain ⟨occupied', clean'⟩ := path_of_eligible wf second
  exact display_eq_iff ⟨occupied, occupied'⟩ (List.forall_mem_append.mpr ⟨clean, clean'⟩)

theorem paths_distinct (settings : CheckoutSettings) (wf : tree.WellFormed) :
    (eligibleFiles settings tree).Pairwise fun a b => a.1 ≠ b.1 := by
  rw [eligibleFiles_eq settings wf, List.pairwise_filterMap]
  refine (sourceFiles_ordered wf).imp ?_
  rintro ⟨path, content⟩ ⟨path', content'⟩ before ⟨_, _⟩ selected ⟨_, _⟩ selected'
  obtain ⟨rfl, -⟩ := eligible?_eq_some_iff.mp selected
  obtain ⟨rfl, -⟩ := eligible?_eq_some_iff.mp selected'
  exact Std.ne_of_lt before

/-- Names that are text are told apart when they are displayed. -/
theorem eq_of_decodeLossy_eq {a b : List FileName}
    (texts : ∀ name ∈ a ++ b, ∃ t, Utf8.decode? name = some t)
    (same : a.map Utf8.decodeLossy = b.map Utf8.decodeLossy) : a = b := by
  have back (path : List FileName) (part : ∀ name ∈ path, name ∈ a ++ b) :
      (path.map Utf8.decodeLossy).map Utf8.encode = path := by
    rw [List.map_map]
    refine (List.map_congr_left ?_).trans (List.map_id path)
    intro name member
    obtain ⟨t, decoded⟩ := texts name (part name member)
    rw [Function.comp_apply, Utf8.decodeLossy_of_decode? decoded, Utf8.encode_of_decode? decoded]
    rfl
  rw [← back a (fun _ => List.mem_append_left b), same,
    back b (fun _ => List.mem_append_right a)]

theorem nodup_keys_iff (wf : tree.WellFormed) (part : files ⊆ eligibleFiles settings tree) :
    (files.map fun file => Path.display file.1).Nodup ↔
      (files.map fun file => file.1.map Utf8.decodeLossy).Nodup := by
  rw [List.Nodup, List.Nodup, List.pairwise_map, List.pairwise_map]
  exact List.Pairwise.iff_of_mem fun first second =>
    not_congr (key_eq_iff wf (part first) (part second))

theorem card_keys (settings : CheckoutSettings) (wf : tree.WellFormed) :
    ((eligibleFiles settings tree).map fun file => Path.display file.1).toFinset.card =
      ((eligibleFiles settings tree).map
        fun file => file.1.map Utf8.decodeLossy).toFinset.card := by
  have keys : ((eligibleFiles settings tree).map fun file => Path.display file.1).toFinset =
      ((eligibleFiles settings tree).map fun file => file.1.map Utf8.decodeLossy).toFinset.image
        (Text.join ['/']) := by
    ext key
    simp [Path.display]
  rw [keys]
  refine Finset.card_image_of_injOn ?_
  intro x first y second same
  simp only [List.coe_toFinset, List.mem_map, Set.mem_ofPred_eq] at first second
  obtain ⟨a, first, rfl⟩ := first
  obtain ⟨b, second, rfl⟩ := second
  exact (key_eq_iff wf first second).mp same

theorem snapshot_perm_iff (settings : CheckoutSettings) (wf : tree.WellFormed) :
    (snapshot settings tree).entries.Perm
        (((eligibleFiles settings tree).take settings.maxFiles).map entryOf) ↔
      (((eligibleFiles settings tree).take settings.maxFiles).map
        fun file => file.1.map Utf8.decodeLossy).Nodup := by
  rw [← nodup_keys_iff wf (List.take_subset _ _), snapshot_eq_gather settings wf]
  constructor
  · intro same
    simpa [entryOf, Function.comp_def] using
      (same.map Prod.fst).nodup_iff.mp (Snapshot.distinct _)
  · intro distinct
    exact foldl_addUpTo_perm (s := Snapshot.empty) (fun _ _ => List.not_mem_nil) distinct

/-- The snapshot holds each of the first `maxFiles` eligible files under a key of its own exactly if
no two of these are displayed alike, which cannot be where all names are text. In any case it has as
many entries as there are ways in which the eligible files are displayed, up to `maxFiles`. -/
theorem kept_apart_iff (settings : CheckoutSettings) (wf : tree.WellFormed) :
    ((snapshot settings tree).entries.Perm
        (((eligibleFiles settings tree).take settings.maxFiles).map entryOf) ↔
      (((eligibleFiles settings tree).take settings.maxFiles).map
        fun file => file.1.map Utf8.decodeLossy).Nodup) ∧
    (snapshot settings tree).size = min settings.maxFiles
      ((eligibleFiles settings tree).map fun file => file.1.map Utf8.decodeLossy).toFinset.card ∧
    ((∀ file ∈ eligibleFiles settings tree, ∀ name ∈ file.1, ∃ t, Utf8.decode? name = some t) →
      (snapshot settings tree).entries.Perm
          (((eligibleFiles settings tree).take settings.maxFiles).map entryOf) ∧
        (snapshot settings tree).size =
          min settings.maxFiles (eligibleFiles settings tree).length) := by
  have apart := snapshot_perm_iff settings wf
  refine ⟨apart, ?_, ?_⟩
  · rw [snapshot_eq_gather settings wf, gather, size_foldl_addUpTo_eq (Nat.zero_le _),
      ← card_keys settings wf]
    rfl
  · intro texts
    have distinct :
        ((eligibleFiles settings tree).map fun file => file.1.map Utf8.decodeLossy).Nodup := by
      refine List.pairwise_map.mpr ((paths_distinct settings wf).imp_of_mem ?_)
      intro a b first second different same
      exact different (eq_of_decodeLossy_eq
        (List.forall_mem_append.mpr ⟨texts a first, texts b second⟩) same)
    have same := apart.mpr (distinct.sublist ((List.take_sublist _ _).map _))
    exact ⟨same, by simpa [Snapshot.size] using same.length_eq⟩

/-- Three files, the last two of them with names that are no text and differ only where they are
none. -/
def accented : FileTree := .directory [
  ([0x63, 0x61, 0x66, 0xE9, 0x2E, 0x70, 0x79], .file (Utf8.encode "z")),
  (Utf8.encode "a.py", .file (Utf8.encode "x")),
  ([0x63, 0x61, 0x66, 0xE8, 0x2E, 0x70, 0x79], .file (Utf8.encode "y"))]

theorem accented_wellFormed : accented.WellFormed :=
  .directory (by decide) (by decide) (by simp [WellFormed.file])

theorem inPathOrder_accented : inPathOrder (listing [] accented) = [
    ([Utf8.encode "a.py"], Utf8.encode "x"),
    ([[0x63, 0x61, 0x66, 0xE8, 0x2E, 0x70, 0x79]], Utf8.encode "y"),
    ([[0x63, 0x61, 0x66, 0xE9, 0x2E, 0x70, 0x79]], Utf8.encode "z")] :=
  inPathOrder_eq (by decide) (by decide)

/-- The third file is not taken, so it does not matter that it is displayed like the second. -/
theorem kept_apart_up_to_limit :
    accented.WellFormed ∧ (snapshot { maxFiles := 2 } accented).size = 2 ∧
      (snapshot { maxFiles := 2 } accented).entries.Perm
        [("a.py".toList, "x".toList), ("caf\ufffd.py".toList, "y".toList)] := by
  obtain ⟨apart, size, -⟩ := kept_apart_iff { maxFiles := 2 } accented_wellFormed
  have taken : (eligibleFiles { maxFiles := 2 } accented).take 2 =
      [([Utf8.encode "a.py"], "x".toList),
      ([[0x63, 0x61, 0x66, 0xE8, 0x2E, 0x70, 0x79]], "y".toList)] := by
    rw [eligibleFiles, inPathOrder_accented]
    decide +kernel
  rw [taken] at apart
  refine ⟨accented_wellFormed, ?_, ?_⟩
  · rw [size, eligibleFiles, inPathOrder_accented]
    decide +kernel
  · exact apart.mpr (by decide)

/-- The second of two files that are displayed alike takes the place of the first. -/
theorem displayed_alike_overwritten :
    accented.WellFormed ∧
      eligibleFiles {} accented = [
        ([Utf8.encode "a.py"], "x".toList),
        ([[0x63, 0x61, 0x66, 0xE8, 0x2E, 0x70, 0x79]], "y".toList),
        ([[0x63, 0x61, 0x66, 0xE9, 0x2E, 0x70, 0x79]], "z".toList)] ∧
      (snapshot {} accented).entries =
        [("a.py".toList, "x".toList), ("caf\ufffd.py".toList, "z".toList)] ∧
      (snapshot {} accented).size ≠ min 40 (eligibleFiles {} accented).length := by
  have eligible : eligibleFiles {} accented = [
      ([Utf8.encode "a.py"], "x".toList),
      ([[0x63, 0x61, 0x66, 0xE8, 0x2E, 0x70, 0x79]], "y".toList),
      ([[0x63, 0x61, 0x66, 0xE9, 0x2E, 0x70, 0x79]], "z".toList)] := by
    rw [eligibleFiles, inPathOrder_accented]
    decide +kernel
  have entries : (snapshot {} accented).entries =
      [("a.py".toList, "x".toList), ("caf\ufffd.py".toList, "z".toList)] := by
    rw [snapshot_eq_gather {} accented_wellFormed, eligible]
    decide
  refine ⟨accented_wellFormed, eligible, entries, ?_⟩
  rw [Snapshot.size, entries, eligible]
  decide

end FileTree
end CodeWiki
