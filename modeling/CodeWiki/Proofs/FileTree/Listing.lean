import CodeWiki.FileTree.Listing
import CodeWiki.Proofs.Snapshot
import Mathlib.Data.List.Nodup
import Mathlib.Data.List.Perm.Basic

/-! Walking a tree and listing it come to the same files. What the walk leaves out has an ignored
component and would not be selected; what is left comes in the order of the paths, since the entries
of a directory come in the order of their names and everything below an entry begins with its
name. -/
namespace CodeWiki.FileTree

variable {settings : CheckoutSettings} {here : List FileName} {tree : FileTree} {name : FileName}
  {entries : List (FileName × FileTree)} {file : List FileName × Bytes}

/-- The files of one entry of a directory, as the walk comes to them. -/
def filesBelow (settings : CheckoutSettings) (here : List FileName) (name : FileName) :
    FileTree → List (List FileName × Bytes)
  | directory entries =>
    if settings.ignores name then []
    else sourceFiles settings (here ++ [name]) (directory entries)
  | tree => sourceFiles settings (here ++ [name]) tree

theorem entryFiles_eq (settings : CheckoutSettings) (here : List FileName)
    (entries : List (FileName × FileTree)) :
    entryFiles settings here entries =
      entries.map fun entry => (entry.1, filesBelow settings here entry.1 entry.2) := by
  induction entries with
  | nil => simp [entryFiles]
  | cons entry rest ih =>
    obtain ⟨name, tree⟩ := entry
    cases tree <;> simp [entryFiles, filesBelow, ih]

theorem listings_eq (here : List FileName) (entries : List (FileName × FileTree)) :
    listings here entries = entries.flatMap fun entry => listing (here ++ [entry.1]) entry.2 := by
  induction entries with
  | nil => simp [listings]
  | cons entry rest ih => simp [listings, ih]

theorem filesBelow_cases (settings : CheckoutSettings) (here : List FileName) (name : FileName)
    (tree : FileTree) :
    (settings.ignores name = true ∧ filesBelow settings here name tree = []) ∨
      filesBelow settings here name tree = sourceFiles settings (here ++ [name]) tree := by
  cases tree with
  | file | link => exact Or.inr rfl
  | directory entries =>
    by_cases pruned : settings.ignores name = true
    · exact Or.inl ⟨pruned, by simp [filesBelow, pruned]⟩
    · exact Or.inr (by simp [filesBelow, pruned])

theorem filesBelow_subset :
    filesBelow settings here name tree ⊆ sourceFiles settings (here ++ [name]) tree := by
  rcases filesBelow_cases settings here name tree with ⟨-, none⟩ | same
  · rw [none]
    exact List.nil_subset _
  · exact same ▸ List.Subset.refl _

theorem sourceFiles_directory (settings : CheckoutSettings) (here : List FileName)
    (entries : List (FileName × FileTree)) :
    (sourceFiles settings here (directory entries)).Perm
      (entries.flatMap fun entry => filesBelow settings here entry.1 entry.2) := by
  rw [sourceFiles, entryFiles_eq]
  refine ((List.mergeSort_perm _ _).flatMap_right _).trans ?_
  rw [List.flatMap_map]

theorem prefix_of_mem_sourceFiles (wf : tree.WellFormed)
    (member : file ∈ sourceFiles settings here tree) : here <+: file.1 := by
  induction wf generalizing here with
  | file =>
    rw [sourceFiles, List.mem_singleton] at member
    exact member ▸ List.prefix_refl here
  | link => simp [sourceFiles] at member
  | directory _ _ _ ih =>
    obtain ⟨entry, occurs, below⟩ :=
      List.mem_flatMap.mp ((sourceFiles_directory settings here _).subset member)
    exact (List.prefix_append here _).trans (ih entry occurs (filesBelow_subset below))

theorem path_of_mem_listing (wf : tree.WellFormed) (member : file ∈ listing here tree) :
    ∃ below, file.1 = here ++ below ∧ ∀ name ∈ below, Path.slash ∉ name := by
  induction wf generalizing here with
  | file =>
    rw [listing, List.mem_singleton] at member
    exact ⟨[], by simp [member], by simp⟩
  | link => simp [listing] at member
  | directory _ unslashed _ ih =>
    rw [listing, listings_eq] at member
    obtain ⟨entry, occurs, below⟩ := List.mem_flatMap.mp member
    obtain ⟨rest, path, clean⟩ := ih entry occurs below
    exact ⟨entry.1 :: rest, by simp [path],
      List.forall_mem_cons.mpr ⟨unslashed entry occurs, clean⟩⟩

theorem lt_of_prefix {a b : List FileName} {name other : FileName} (before : name < other)
    (first : here ++ [name] <+: a) (second : here ++ [other] <+: b) : a < b := by
  obtain ⟨x, rfl⟩ := first
  obtain ⟨y, rfl⟩ := second
  rw [List.append_assoc, List.append_assoc]
  exact List.append_left_lt (List.cons_lt_cons_iff.mpr (Or.inl before))

theorem ordered_mergeSort {κ α : Type} [LT κ] [LE κ] [DecidableLE κ] [Std.IsLinearOrder κ]
    (rows : List (κ × α)) :
    (rows.mergeSort fun a b => decide (a.1 ≤ b.1)).Pairwise fun a b => a.1 ≤ b.1 := by
  refine (List.pairwise_mergeSort ?_ ?_ rows).imp of_decide_eq_true
  · intro a b c ab bc
    exact decide_eq_true (Std.le_trans (of_decide_eq_true ab) (of_decide_eq_true bc))
  · intro a b
    simpa using Std.le_total (a := a.1) (b := b.1)

/-- Rows in the order of their names, which are distinct. -/
theorem names_increase {α : Type} {rows : List (FileName × α)}
    (distinct : (rows.map Prod.fst).Nodup) :
    (rows.mergeSort fun a b => nameLE a.1 b.1).Pairwise fun a b => a.1 < b.1 := by
  have apart : (rows.mergeSort fun a b => nameLE a.1 b.1).Pairwise fun a b => a.1 ≠ b.1 :=
    List.pairwise_map.mp (((List.mergeSort_perm rows _).map Prod.fst).nodup_iff.mpr distinct)
  exact ((ordered_mergeSort rows).and apart).imp fun both => Std.lt_of_le_of_ne both.1 both.2

/-- The walk comes to the files in the order of their paths. -/
theorem sourceFiles_ordered (wf : tree.WellFormed) :
    (sourceFiles settings here tree).Pairwise fun a b => a.1 < b.1 := by
  induction wf generalizing here with
  | file => simp [sourceFiles]
  | link => simp [sourceFiles]
  | @directory entries distinct _ wf ih =>
    let row (entry : FileName × FileTree) := (entry.1, filesBelow settings here entry.1 entry.2)
    have origin : ∀ r ∈ (entries.map row).mergeSort fun a b => nameLE a.1 b.1,
        ∃ entry ∈ entries, row entry = r := by
      intro r member
      simpa using (List.mergeSort_perm _ _).subset member
    have names : ((entries.map row).map Prod.fst).Nodup := by
      simpa [row, Function.comp_def] using distinct
    rw [sourceFiles, entryFiles_eq, List.pairwise_flatMap]
    constructor
    · intro r member
      obtain ⟨entry, occurs, rfl⟩ := origin r member
      rcases filesBelow_cases settings here entry.1 entry.2 with ⟨-, none⟩ | same
      · simp [row, none]
      · simpa only [row, same] using ih entry occurs
    · refine (names_increase names).imp_of_mem ?_
      intro r r' member member' before x below y below'
      obtain ⟨entry, occurs, rfl⟩ := origin r member
      obtain ⟨entry', occurs', rfl⟩ := origin r' member'
      exact lt_of_prefix before
        (prefix_of_mem_sourceFiles (wf entry occurs) (filesBelow_subset below))
        (prefix_of_mem_sourceFiles (wf entry' occurs') (filesBelow_subset below'))

theorem not_admits_of_ignores {path : List FileName} (member : name ∈ path)
    (ignored : settings.ignores name = true) : settings.admits path = false := by
  rw [CheckoutSettings.admits, List.any_eq_true.mpr ⟨name, member, ignored⟩]
  rfl

/-- The walk comes to every file that is admitted. -/
theorem filter_sourceFiles_perm (wf : tree.WellFormed) :
    ((sourceFiles settings here tree).filter (settings.admits ·.1)).Perm
      ((listing here tree).filter (settings.admits ·.1)) := by
  induction wf generalizing here with
  | file | link => exact List.Perm.refl _
  | @directory entries _ _ wf ih =>
    refine ((sourceFiles_directory settings here entries).filter _).trans ?_
    rw [listing, listings_eq, List.filter_flatMap, List.filter_flatMap]
    refine List.Perm.flatMap_left entries ?_
    intro entry occurs
    rcases filesBelow_cases settings here entry.1 entry.2 with ⟨ignored, none⟩ | same
    · have nothing : (listing (here ++ [entry.1]) entry.2).filter (settings.admits ·.1) = [] := by
        refine List.filter_eq_nil_iff.mpr ?_
        intro file member
        obtain ⟨rest, path, -⟩ := path_of_mem_listing (wf entry occurs) member
        have inside : entry.1 ∈ file.1 := by simp [path]
        simp [not_admits_of_ignores inside ignored]
      rw [none, nothing]
      exact List.Perm.refl _
    · rw [same]
      exact ih entry occurs

/-- There is one way to put files with paths of their own in order. -/
theorem eq_of_ordered {l l' : List (List FileName × Bytes)} (same : l.Perm l')
    (increases : l.Pairwise fun a b => a.1 < b.1) (ordered : l'.Pairwise fun a b => a.1 ≤ b.1) :
    l = l' := by
  refine List.Perm.eq_of_pairwise ?_ (increases.imp Std.le_of_lt) ordered same
  intro a b first second ab ba
  have distinct : (l.map Prod.fst).Nodup := List.pairwise_map.mpr (increases.imp Std.ne_of_lt)
  exact List.inj_on_of_nodup_map distinct first (same.symm.subset second) (Std.le_antisymm ab ba)

theorem inPathOrder_eq {files ordered : List (List FileName × Bytes)} (same : files.Perm ordered)
    (increases : ordered.Pairwise fun a b => a.1 < b.1) : inPathOrder files = ordered :=
  (eq_of_ordered (same.symm.trans (List.mergeSort_perm _ _).symm) increases
    (ordered_mergeSort _)).symm

/-- Among the admitted files it makes no difference whether the tree is walked or listed. -/
theorem filter_sourceFiles (wf : tree.WellFormed) :
    (sourceFiles settings here tree).filter (settings.admits ·.1) =
      (inPathOrder (listing here tree)).filter (settings.admits ·.1) := by
  apply eq_of_ordered
  · exact (filter_sourceFiles_perm wf).trans ((List.mergeSort_perm _ _).symm.filter _)
  · exact (sourceFiles_ordered wf).sublist List.filter_sublist
  · exact (ordered_mergeSort _).sublist List.filter_sublist

theorem readable?_eq (settings : CheckoutSettings) (content : Bytes) :
    readable? settings content =
      if content.length ≤ settings.maxFileBytes then
        (Utf8.decode? content).filter fun text => !Text.isBlank text
      else none := by
  unfold readable?
  by_cases small : content.length ≤ settings.maxFileBytes
  · rw [if_neg (Nat.not_lt.mpr small), if_pos small]
    cases Utf8.decode? content with
    | none => rfl
    | some text => cases blank : Text.isBlank text <;> simp [blank, Option.filter]
  · rw [if_pos (Nat.not_le.mp small), if_neg small]

theorem eligible?_eq (settings : CheckoutSettings) (path : List FileName) (content : Bytes) :
    eligible? settings (path, content) =
      (if settings.admits path then readable? settings content else none).map (path, ·) := by
  rw [readable?_eq, eligible?]
  cases settings.admits path
  · rfl
  · by_cases small : content.length ≤ settings.maxFileBytes <;> simp [small]

theorem foldl_addUpTo_full {limit : Nat} {s : Snapshot} (full : limit ≤ s.size)
    (files : List (List FileName × Text)) : files.foldl (addUpTo limit) s = s := by
  induction files with
  | nil => rfl
  | cons file rest ih => rw [List.foldl_cons, addUpTo, if_neg (Nat.not_lt.mpr full), ih]

/-- Taking files from the walk is gathering the eligible ones. -/
theorem takeFiles_eq (s : Snapshot) (files : List (List FileName × Bytes)) :
    takeFiles settings s files =
      (files.filterMap (eligible? settings)).foldl (addUpTo settings.maxFiles) s := by
  induction files generalizing s with
  | nil => rfl
  | cons file rest ih =>
    obtain ⟨path, content⟩ := file
    rw [takeFiles, List.filterMap_cons, eligible?_eq]
    split
    · rw [foldl_addUpTo_full ‹_›]
    · rename_i room
      cases if settings.admits path then readable? settings content else none with
      | none => exact ih s
      | some text =>
        simp only [Option.map_some, List.foldl_cons]
        rw [ih, addUpTo, if_pos (Nat.not_le.mp room)]

theorem filterMap_eligible? (files : List (List FileName × Bytes)) :
    files.filterMap (eligible? settings) =
      (files.filter (settings.admits ·.1)).filterMap (eligible? settings) := by
  rw [List.filterMap_filter]
  refine congrArg (List.filterMap · files) (funext fun file => ?_)
  cases admitted : settings.admits file.1 <;> simp [eligible?, admitted]

theorem eligibleFiles_eq (settings : CheckoutSettings) (wf : tree.WellFormed) :
    eligibleFiles settings tree =
      (sourceFiles settings [] tree).filterMap (eligible? settings) := by
  rw [eligibleFiles, filterMap_eligible?, ← filter_sourceFiles wf, ← filterMap_eligible?]

theorem snapshot_eq_gather (settings : CheckoutSettings) (wf : tree.WellFormed) :
    snapshot settings tree = gather settings.maxFiles (eligibleFiles settings tree) := by
  rw [snapshot, takeFiles_eq, gather, eligibleFiles_eq settings wf]

theorem size_foldl_addUpTo {limit : Nat} {s : Snapshot} (fits : s.size ≤ limit)
    (files : List (List FileName × Text)) : (files.foldl (addUpTo limit) s).size ≤ limit := by
  induction files generalizing s with
  | nil => exact fits
  | cons file rest ih =>
    refine ih ?_
    unfold addUpTo
    split
    · exact Nat.le_trans (Snapshot.size_insert_le s _ _) ‹_›
    · exact fits

theorem origin_of_foldl_addUpTo {limit : Nat} {s : Snapshot} {files : List (List FileName × Text)}
    {entry : Text × Text} (member : entry ∈ (files.foldl (addUpTo limit) s).entries) :
    entry ∈ s.entries ∨ ∃ file ∈ files, entry = (Path.display file.1, file.2) := by
  induction files generalizing s with
  | nil => exact Or.inl member
  | cons file rest ih =>
    rcases ih member with before | ⟨other, later, same⟩
    · unfold addUpTo at before
      split at before
      · rcases Snapshot.mem_insertEntry before with new | old
        · exact Or.inr ⟨file, List.mem_cons_self, new⟩
        · exact Or.inl old
      · exact Or.inl before
    · exact Or.inr ⟨other, List.mem_cons_of_mem _ later, same⟩

theorem eligible?_eq_some_iff {text : Text} {path path' : List FileName} {content : Bytes} :
    eligible? settings (path, content) = some (path', text) ↔
      path = path' ∧ settings.admits path = true ∧ content.length ≤ settings.maxFileBytes ∧
        Utf8.decode? content = some text ∧ Text.isBlank text = false := by
  simp only [eligible?, Bool.and_eq_true, decide_eq_true_eq, Option.ite_none_right_eq_some,
    Option.map_eq_some_iff, Option.filter_eq_some_iff, Bool.not_eq_true', Prod.mk.injEq]
  constructor
  · rintro ⟨⟨admitted, small⟩, _, ⟨decoded, inked⟩, rfl, rfl⟩
    exact ⟨rfl, admitted, small, decoded, inked⟩
  · rintro ⟨rfl, admitted, small, decoded, inked⟩
    exact ⟨⟨admitted, small⟩, text, ⟨decoded, inked⟩, rfl, rfl⟩

theorem admits_iff {path : List FileName} :
    settings.admits path = true ↔ (∀ name ∈ path, Utf8.decodeLossy name ∉ settings.ignore) ∧
      ∃ name extension, path.getLast? = some name ∧ Path.isName name = true ∧
        (Path.extension? name).bind Utf8.decode? = some extension ∧
        extension ∈ settings.extensions := by
  rw [CheckoutSettings.admits, Bool.and_eq_true]
  refine and_congr ?_ ?_
  · simp [CheckoutSettings.ignores]
  · cases last : path.getLast? with
    | none => simp [bind]
    | some name =>
      cases named : Path.isName name with
      | false => simp [bind, named]
      | true =>
        cases suffix : (Path.extension? name).bind Utf8.decode? <;> simp [bind, named, suffix]

/-- A snapshot is what the eligible files of the whole tree, directories on the ignore list
included, come to when they are put in one after another in the order of their paths until there are
as many as allowed. -/
theorem snapshot_eq_listing (settings : CheckoutSettings) (wf : tree.WellFormed) :
    snapshot settings tree =
        gather settings.maxFiles ((inPathOrder (listing [] tree)).filterMap (eligible? settings)) ∧
      (snapshot settings tree).size ≤ settings.maxFiles ∧
      ∀ entry ∈ (snapshot settings tree).entries, ∃ path content,
        (path, content) ∈ listing [] tree ∧
        entry.1 = Path.display path ∧ Utf8.decode? content = some entry.2 ∧
        content.length ≤ settings.maxFileBytes ∧ Text.isBlank entry.2 = false ∧
        (∀ name ∈ path, Utf8.decodeLossy name ∉ settings.ignore) ∧
        ∃ name extension, path.getLast? = some name ∧
          (Path.extension? name).bind Utf8.decode? = some extension ∧
          extension ∈ settings.extensions := by
  have gathered := snapshot_eq_gather settings wf
  refine ⟨gathered, ?_, ?_⟩
  · rw [gathered]
    exact size_foldl_addUpTo (Nat.zero_le _) _
  · intro entry member
    rw [gathered] at member
    rcases origin_of_foldl_addUpTo member with none | ⟨⟨path, text⟩, eligible, rfl⟩
    · cases none
    · obtain ⟨⟨path, content⟩, listed, selected⟩ := List.mem_filterMap.mp eligible
      obtain ⟨rfl, admitted, small, decoded, inked⟩ := eligible?_eq_some_iff.mp selected
      obtain ⟨clean, name, extension, last, -, suffix, allowed⟩ := admits_iff.mp admitted
      exact ⟨path, content, (List.mergeSort_perm _ _).subset listed, rfl, decoded, small, inked,
        clean, name, extension, last, suffix, allowed⟩

/-- A directory whose name begins the name of a file beside it, and one on the ignore list. -/
def branched : FileTree := .directory [
  (Utf8.encode "a-b.py", .file (Utf8.encode "x")),
  (Utf8.encode "node_modules", .directory [(Utf8.encode "a.js", .file (Utf8.encode "y"))]),
  (Utf8.encode "a", .directory [
    (Utf8.encode "c.py", .file (Utf8.encode "z")), (Utf8.encode "b.py", .link)])]

theorem directory_before_longer_name :
    branched.WellFormed ∧ (snapshot { maxFiles := 1 } branched).size ≤ 1 ∧
      (snapshot { maxFiles := 1 } branched).entries = [("a/c.py".toList, "z".toList)] := by
  have wf : branched.WellFormed := by
    refine .directory (by decide) (by decide) ?_
    simp only [List.forall_mem_cons, List.not_mem_nil, false_implies, implies_true, and_true]
    exact ⟨.file, .directory (by decide) (by decide) (by simp [WellFormed.file]),
      .directory (by decide) (by decide) (by simp [WellFormed.file, WellFormed.link])⟩
  obtain ⟨gathered, few, -⟩ := snapshot_eq_listing { maxFiles := 1 } wf
  refine ⟨wf, few, ?_⟩
  have ordered : inPathOrder (listing [] branched) = [
      ([Utf8.encode "a", Utf8.encode "c.py"], Utf8.encode "z"),
      ([Utf8.encode "a-b.py"], Utf8.encode "x"),
      ([Utf8.encode "node_modules", Utf8.encode "a.js"], Utf8.encode "y")] :=
    inPathOrder_eq (by decide) (by decide)
  rw [gathered, ordered]
  decide +kernel

end CodeWiki.FileTree
