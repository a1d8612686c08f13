import CodeWiki.Proofs.SourceModule.Grouping
import CodeWiki.Proofs.Text.Cut

/-! The module in which a file is found. A directory at the top keeps its files, but for a directory
that is called like the module of the files beside the directories: its files are taken for files at
the top. These stay together or are dealt out by topic; a topic that is called like a directory goes
to its module. -/
namespace CodeWiki.SourceModule

variable {settings : GroupingSettings} {files : Snapshot} {m : SourceModule} {f : Text × Text}
  {path first rest : Text}

/-! ### Groups by topic -/

def OneTopic (files : Snapshot) : Prop :=
  ∀ p ∈ files.paths, ∀ q ∈ files.paths, Topic.ofPath p = Topic.ofPath q

instance (files : Snapshot) : Decidable (OneTopic files) :=
  inferInstanceAs
    (Decidable (∀ p ∈ files.paths, ∀ q ∈ files.paths, Topic.ofPath p = Topic.ofPath q))

/-- The modules of the topics, each under its own name. -/
def topics (files : Snapshot) : List SourceModule := addAll Topic.ofPath files.entries []

theorem names_topics (files : Snapshot) :
    (topics files).map SourceModule.name = (files.paths.map Topic.ofPath).eraseDups :=
  names_addAll_nil Topic.ofPath files

theorem oneTopic_iff (files : Snapshot) : OneTopic files ↔ (topics files).length ≤ 1 := by
  rw [← List.length_map (f := SourceModule.name), names_topics, eraseDups_length_le_one_iff]
  simp only [List.forall_mem_map, OneTopic]

theorem byTopic_of_oneTopic (one : OneTopic files) : byTopic files = [⟨wholeName, files⟩] := by
  rw [oneTopic_iff, topics] at one
  unfold byTopic
  split
  · rename_i grouped
    rw [grouped] at one
    exact absurd one (by simp)
  · rfl

theorem byTopic_of_topics (several : ¬ OneTopic files) : byTopic files = topics files := by
  rw [oneTopic_iff] at several
  unfold byTopic
  split
  · rename_i grouped
    exact grouped.symm
  · rename_i few
    exfalso
    match shape : topics files with
    | [] => simp [shape] at several
    | [m] => simp [shape] at several
    | first :: second :: rest => exact few first second rest shape

theorem byTopic_eq_iff (files : Snapshot) :
    byTopic files = [⟨wholeName, files⟩] ↔ OneTopic files := by
  refine ⟨fun whole => ?_, byTopic_of_oneTopic⟩
  by_contra several
  have more := (oneTopic_iff files).not.mp several
  rw [← byTopic_of_topics several, whole] at more
  exact more (Nat.le_refl 1)

/-- The name of the group in which `byTopic` puts a file. -/
def groupName (files : Snapshot) (path : Text) : Text :=
  if OneTopic files then wholeName else Topic.ofPath path

theorem labelled_topics (files : Snapshot) : Labelled Topic.ofPath (topics files) :=
  labelled_addAll_nil Topic.ofPath files

theorem labelled_byTopic (files : Snapshot) : Labelled (groupName files) (byTopic files) := by
  by_cases one : OneTopic files
  · rw [byTopic_of_oneTopic one]
    intro m member f _
    rw [List.mem_singleton.mp member, groupName, if_pos one]
  · rw [byTopic_of_topics one]
    intro m member f inside
    rw [groupName, if_neg one]
    exact labelled_topics files m member f inside

theorem partitions_topics (files : Snapshot) :
    Partitions (fun _ => True) (topics files) files.entries :=
  partitions_addAll_nil Topic.ofPath files

theorem groupName_ne_rootName (files : Snapshot) (path : Text) :
    groupName files path ≠ rootName := by
  have other : ∀ topic ∈ topicNames, topic ≠ rootName := by decide
  unfold groupName
  split
  · decide
  · exact other _ (ofPath_mem_topicNames path)

/-! ### Directories -/

/-- Whether a file is taken for one at the top: it has no directory, or one that is called so. -/
def AtTop (path : Text) : Prop := '/' ∉ path ∨ rootName ++ ['/'] <+: path

instance (path : Text) : Decidable (AtTop path) :=
  inferInstanceAs (Decidable ('/' ∉ path ∨ rootName ++ ['/'] <+: path))

theorem directoryName_of_single (single : '/' ∉ path) : directoryName path = rootName := by
  have none : Text.cut? ['/'] path = none :=
    Text.cut?_eq_none_iff.mpr fun found => single (found.subset List.mem_cons_self)
  rw [directoryName, none]

theorem directoryName_append (simple : '/' ∉ first) (rest : Text) :
    directoryName (first ++ '/' :: rest) = first := by
  rw [directoryName, Text.cut?_singleton rest simple]

theorem directoryName_eq_rootName_iff : directoryName path = rootName ↔ AtTop path := by
  constructor
  · intro called
    by_cases nested : '/' ∈ path
    · obtain ⟨first, rest, rfl, simple⟩ := List.eq_append_cons_of_mem nested
      rw [directoryName_append simple] at called
      exact Or.inr ⟨rest, by rw [called, List.append_assoc, List.singleton_append]⟩
    · exact Or.inl nested
  · rintro (single | ⟨rest, rfl⟩)
    · exact directoryName_of_single single
    · rw [List.append_assoc]
      exact directoryName_append (by decide) rest

/-- The files that are taken for files at the top. -/
def topFiles (files : Snapshot) : Snapshot :=
  ⟨files.entries.filter fun f => AtTop f.1, files.sorted.filter _⟩

theorem mem_topFiles : f ∈ (topFiles files).entries ↔ f ∈ files.entries ∧ AtTop f.1 := by
  rw [topFiles, List.mem_filter, decide_eq_true_eq]

def byDirectory (files : Snapshot) : List SourceModule := addAll directoryName files.entries []

theorem names_byDirectory (files : Snapshot) :
    (byDirectory files).map SourceModule.name = (files.paths.map directoryName).eraseDups :=
  names_addAll_nil directoryName files

theorem labelled_byDirectory (files : Snapshot) : Labelled directoryName (byDirectory files) :=
  labelled_addAll_nil directoryName files

theorem partitions_byDirectory (files : Snapshot) :
    Partitions (fun _ => True) (byDirectory files) files.entries :=
  partitions_addAll_nil directoryName files

theorem files_of_root (member : m ∈ byDirectory files) (root : m.name = rootName) :
    m.files = topFiles files := by
  apply Snapshot.eq_of_entries
  rw [entries_of_labelled (partitions_byDirectory files) (labelled_byDirectory files) member, root,
    topFiles]
  simp only [directoryName_eq_rootName_iff]

theorem root_mem_byDirectory (some : (topFiles files).entries ≠ []) :
    ⟨rootName, topFiles files⟩ ∈ byDirectory files := by
  obtain ⟨f, inside⟩ := List.exists_mem_of_ne_nil _ some
  obtain ⟨listed, top⟩ := mem_topFiles.mp inside
  obtain ⟨m, member, within⟩ :=
    List.mem_flatMap.mp ((partitions_byDirectory files).same.mem_iff.mpr listed)
  have called := labelled_byDirectory files m member f within
  rw [directoryName_eq_rootName_iff.mpr top] at called
  have same : m = ⟨rootName, topFiles files⟩ := by rw [← files_of_root member called.symm, called]
  exact same ▸ member

/-! ### What becomes of the files at the top -/

/-- Whether the files at the top are dealt out by topic: there are no others, or there are many of
them. -/
def Regroups (settings : GroupingSettings) (files : Snapshot) : Prop :=
  (∀ path ∈ files.paths, AtTop path) ∨ settings.rootThreshold ≤ (topFiles files).size

instance (settings : GroupingSettings) (files : Snapshot) : Decidable (Regroups settings files) :=
  inferInstanceAs (Decidable ((∀ path ∈ files.paths, AtTop path) ∨
    settings.rootThreshold ≤ (topFiles files).size))

theorem topFiles_of_flat (flat : ∀ path ∈ files.paths, AtTop path) : topFiles files = files := by
  apply Snapshot.eq_of_entries
  rw [topFiles, List.filter_eq_self]
  exact fun f member => decide_eq_true (flat f.1 (List.mem_map_of_mem member))

theorem byDirectory_of_flat (occupied : files.entries ≠ [])
    (flat : ∀ path ∈ files.paths, AtTop path) : byDirectory files = [⟨rootName, files⟩] := by
  have few : (byDirectory files).length ≤ 1 := by
    rw [← List.length_map (f := SourceModule.name), names_byDirectory, eraseDups_length_le_one_iff]
    have root : ∀ name ∈ files.paths.map directoryName, name = rootName :=
      List.forall_mem_map.mpr fun p listed => directoryName_eq_rootName_iff.mpr (flat p listed)
    exact fun a first b second => (root a first).trans (root b second).symm
  have root := root_mem_byDirectory (topFiles_of_flat flat ▸ occupied)
  rw [topFiles_of_flat flat] at root
  match byDirectory files, few, root with
  | [m], _, root => rw [List.mem_singleton.mp root]

theorem ofSnapshot_of_flat (occupied : files.entries ≠ [])
    (flat : ∀ path ∈ files.paths, AtTop path) : ofSnapshot settings files = byTopic files := by
  have modules := byDirectory_of_flat occupied flat
  rw [byDirectory] at modules
  rw [ofSnapshot, modules]
  rfl

theorem ofSnapshot_of_nested (nested : ∃ path ∈ files.paths, ¬ AtTop path) :
    ofSnapshot settings files =
      ((byDirectory files).find?
        fun m => m.name = rootName && settings.rootThreshold ≤ m.files.size).elim
        (byDirectory files)
        fun root =>
          merge ((byDirectory files).eraseP (·.name = rootName)) (byTopic root.files) := by
  obtain ⟨path, listed, deep⟩ := nested
  obtain ⟨f, inside, rfl⟩ := List.mem_map.mp listed
  have others : ∀ m, byDirectory files = [m] → m.name ≠ rootName := by
    intro m alone root
    have held := (partitions_byDirectory files).same.mem_iff.mpr inside
    rw [alone, allFiles, List.flatMap_singleton] at held
    have called := labelled_byDirectory files m (alone ▸ List.mem_singleton_self m) f held
    exact deep (directoryName_eq_rootName_iff.mp (called.trans root))
  unfold ofSnapshot
  dsimp only
  rw [← byDirectory]
  rw [if_neg]
  · cases (byDirectory files).find?
      fun m => m.name = rootName && settings.rootThreshold ≤ m.files.size <;> rfl
  · split
    · rename_i m alone
      rw [decide_eq_true_eq]
      exact others m alone
    · exact Bool.false_ne_true

theorem ofSnapshot_of_few (nested : ∃ path ∈ files.paths, ¬ AtTop path)
    (few : (topFiles files).entries = [] ∨ (topFiles files).size < settings.rootThreshold) :
    ofSnapshot settings files = byDirectory files := by
  have none : (byDirectory files).find?
      (fun m => m.name = rootName && settings.rootThreshold ≤ m.files.size) = none := by
    refine List.find?_eq_none.mpr fun m member large => ?_
    rw [Bool.and_eq_true, decide_eq_true_eq, decide_eq_true_eq] at large
    have same := files_of_root member large.1
    rcases few with empty | small
    · exact (partitions_byDirectory files).inhabited m member (same ▸ empty)
    · exact Nat.not_le_of_lt small (same ▸ large.2)
  rw [ofSnapshot_of_nested nested, none, Option.elim_none]

theorem eraseP_eq_filter {modules : List SourceModule}
    (distinct : (modules.map SourceModule.name).Nodup) (name : Text) :
    modules.eraseP (·.name = name) = modules.filter (·.name ≠ name) := by
  induction modules with
  | nil => rfl
  | cons m rest ih =>
    obtain ⟨absent, distinct⟩ := List.nodup_cons.mp distinct
    by_cases here : m.name = name
    · have others : ∀ m' ∈ rest, decide (m'.name ≠ name) = true := fun m' member =>
        decide_eq_true fun same => absent (List.mem_map.mpr ⟨m', member, same.trans here.symm⟩)
      rw [List.eraseP_cons_of_pos (by simpa using here),
        List.filter_cons_of_neg (by simpa using here), List.filter_eq_self.mpr others]
    · rw [List.eraseP_cons_of_neg (by simpa using here),
        List.filter_cons_of_pos (by simpa using here), ih distinct]

theorem ofSnapshot_of_many (nested : ∃ path ∈ files.paths, ¬ AtTop path)
    (some : (topFiles files).entries ≠ []) (many : settings.rootThreshold ≤ (topFiles files).size) :
    ofSnapshot settings files =
      merge ((byDirectory files).filter (·.name ≠ rootName)) (byTopic (topFiles files)) := by
  rw [ofSnapshot_of_nested nested]
  cases found : (byDirectory files).find?
      fun m => m.name = rootName && settings.rootThreshold ≤ m.files.size with
  | none =>
    refine absurd ?_ (List.find?_eq_none.mp found _ (root_mem_byDirectory some))
    simpa using many
  | some root =>
    have large := List.find?_some found
    rw [Bool.and_eq_true, decide_eq_true_eq, decide_eq_true_eq] at large
    rw [Option.elim_some, files_of_root (List.mem_of_find?_eq_some found) large.1,
      eraseP_eq_filter (partitions_byDirectory files).distinct]

/-- The name of the module in which a file is found. -/
def placeName (settings : GroupingSettings) (files : Snapshot) (path : Text) : Text :=
  if AtTop path ∧ Regroups settings files then groupName (topFiles files) path
  else directoryName path

theorem placeName_of_regroups (top : AtTop path) (regroups : Regroups settings files) :
    placeName settings files path = groupName (topFiles files) path := if_pos ⟨top, regroups⟩

theorem placeName_of_directory (kept : ¬ (AtTop path ∧ Regroups settings files)) :
    placeName settings files path = directoryName path := if_neg kept

theorem placeName_eq_rootName_iff : placeName settings files path = rootName ↔
    AtTop path ∧ ¬ Regroups settings files := by
  unfold placeName
  split
  · rename_i both
    exact iff_of_false (groupName_ne_rootName _ _) fun kept => kept.2 both.2
  · rename_i kept
    rw [directoryName_eq_rootName_iff]
    exact ⟨fun top => ⟨top, fun regroups => kept ⟨top, regroups⟩⟩, And.left⟩

theorem mem_entries_of_mem (member : m ∈ ofSnapshot settings files) (inside : f ∈ m.files.entries) :
    f ∈ files.entries :=
  (partitions_modules settings files).same.mem_iff.mp (List.mem_flatMap.mpr ⟨m, member, inside⟩)

theorem partitions_groups (some : (topFiles files).entries ≠ []) :
    Partitions (fun _ => True) (byTopic (topFiles files)) (topFiles files).entries :=
  partitions_byTopic (topFiles files) some (fun _ => trivial) trivial

theorem labelled_groups (some : (topFiles files).entries ≠ [])
    (regroups : Regroups settings files) :
    Labelled (placeName settings files) (byTopic (topFiles files)) := by
  intro m member f inside
  have listed := (partitions_groups some).same.mem_iff.mp (List.mem_flatMap.mpr ⟨m, member, inside⟩)
  rw [placeName_of_regroups (mem_topFiles.mp listed).2 regroups]
  exact labelled_byTopic (topFiles files) m member f inside

theorem labelled_directories (settings : GroupingSettings) (files : Snapshot) :
    Labelled (placeName settings files) ((byDirectory files).filter (·.name ≠ rootName)) := by
  intro m member f inside
  obtain ⟨present, other⟩ := List.mem_filter.mp member
  have called := labelled_byDirectory files m present f inside
  rw [placeName_of_directory, called]
  rintro ⟨top, -⟩
  rw [directoryName_eq_rootName_iff.mpr top] at called
  exact of_decide_eq_true other called.symm

theorem labelled_ofSnapshot (settings : GroupingSettings) (files : Snapshot) :
    Labelled (placeName settings files) (ofSnapshot settings files) := by
  intro m member f inside
  have listed := mem_entries_of_mem member inside
  by_cases flat : ∀ path ∈ files.paths, AtTop path
  · rw [ofSnapshot_of_flat (List.ne_nil_of_mem listed) flat] at member
    rw [placeName_of_regroups (flat f.1 (List.mem_map_of_mem listed)) (Or.inl flat),
      topFiles_of_flat flat]
    exact labelled_byTopic files m member f inside
  · have nested : ∃ path ∈ files.paths, ¬ AtTop path := by simpa using flat
    by_cases many : (topFiles files).entries ≠ [] ∧ settings.rootThreshold ≤ (topFiles files).size
    · rw [ofSnapshot_of_many nested many.1 many.2] at member
      have merged :=
        (labelled_directories settings files).merge (labelled_groups many.1 (Or.inr many.2))
      exact merged m member f inside
    · have few : (topFiles files).entries = [] ∨
          (topFiles files).size < settings.rootThreshold := by
        rcases Decidable.not_and_iff_not_or_not.mp many with empty | small
        · exact Or.inl (Decidable.not_not.mp empty)
        · exact Or.inr (Nat.lt_of_not_le small)
      rw [ofSnapshot_of_few nested few] at member
      rw [placeName_of_directory]
      · exact labelled_byDirectory files m member f inside
      · rintro ⟨top, regroups⟩
        exact many ⟨List.ne_nil_of_mem (mem_topFiles.mpr ⟨listed, top⟩), regroups.resolve_left flat⟩

/-! ### Directories keep their files -/

theorem exists_module (settings : GroupingSettings) (listed : path ∈ files.paths) :
    ∃ m ∈ ofSnapshot settings files, path ∈ m.files.paths ∧
      ∀ m' ∈ ofSnapshot settings files, path ∈ m'.files.paths → m' = m := by
  obtain ⟨⟨path, content⟩, entry, rfl⟩ := List.mem_map.mp listed
  have found := Snapshot.get?_eq_some_iff.mpr entry
  obtain ⟨i, m, here, inside, only⟩ := (partitions_modules settings files).exists_unique found
  have holds : path ∈ m.files.paths :=
    List.mem_map_of_mem (Snapshot.get?_eq_some_iff.mp inside)
  refine ⟨m, List.mem_of_getElem? here, holds, ?_⟩
  intro m' member again
  obtain ⟨j, there⟩ := List.mem_iff_getElem?.mp member
  rw [only j m' there again, here] at there
  exact (Option.some.inj there).symm

theorem name_of_mem (member : m ∈ ofSnapshot settings files) (inside : path ∈ m.files.paths) :
    m.name = placeName settings files path := by
  obtain ⟨f, entry, rfl⟩ := List.mem_map.mp inside
  exact (labelled_ofSnapshot settings files m member f entry).symm

theorem atTop_append_iff (simple : '/' ∉ first) (rest : Text) :
    AtTop (first ++ '/' :: rest) ↔ first = rootName := by
  rw [← directoryName_eq_rootName_iff, directoryName_append simple]

/-- A file of a directory is in one module only. It is called like the directory, whatever other
modules and topics are called, unless the directory has the name of the module of files at the top
and these are dealt out: then its files go the same way, and none of them is in a module called like
the directory. -/
theorem directory_keeps_file_iff (settings : GroupingSettings) (files : Snapshot)
    (simple : '/' ∉ first) (found : first ++ '/' :: rest ∈ files.paths) :
    ∃ m ∈ ofSnapshot settings files, first ++ '/' :: rest ∈ m.files.paths ∧
      (∀ m' ∈ ofSnapshot settings files, first ++ '/' :: rest ∈ m'.files.paths → m' = m) ∧
      (m.name = first ↔ ¬ (first = rootName ∧ Regroups settings files)) ∧
      (first = rootName ∧ Regroups settings files →
        m.name = groupName (topFiles files) (first ++ '/' :: rest)) := by
  obtain ⟨m, member, inside, only⟩ := exists_module settings found
  have name := name_of_mem member inside
  have top := atTop_append_iff simple rest
  refine ⟨m, member, inside, only, ⟨?_, fun kept => ?_⟩, ?_⟩
  · rintro same ⟨rfl, regroups⟩
    rw [placeName_of_regroups (top.mpr rfl) regroups] at name
    exact groupName_ne_rootName _ _ (name.symm.trans same)
  · rw [← top] at kept
    rw [name, placeName_of_directory kept, directoryName_append simple]
  · rintro ⟨rfl, regroups⟩
    rw [name, placeName_of_regroups (top.mpr rfl) regroups]

/-- Files of directories called `root` and `src`, and one beside them. -/
def twoDirectories : Snapshot :=
  Snapshot.ofList [("root/a.py", "a"), ("b.py", "b"), ("src/c.py", "c")]

/-- The two files at the top are dealt out from a threshold of two on, and only then `root` loses
its file. -/
theorem root_directory_up_to_threshold :
    ('/' ∉ "root".toList ∧ "root/a.py".toList ∈ twoDirectories.paths) ∧
      (∃ m ∈ ofSnapshot { rootThreshold := 3 } twoDirectories, "root/a.py".toList ∈ m.files.paths ∧
        m.name = "root".toList) ∧
      ∃ m ∈ ofSnapshot { rootThreshold := 2 } twoDirectories, "root/a.py".toList ∈ m.files.paths ∧
        m.name = wholeName := by
  have simple : '/' ∉ "root".toList := by decide
  have listed : "root".toList ++ '/' :: "a.py".toList ∈ twoDirectories.paths := by decide
  obtain ⟨m, member, inside, -, kept, -⟩ :=
    directory_keeps_file_iff { rootThreshold := 3 } twoDirectories simple listed
  obtain ⟨m', member', inside', -, -, moved⟩ :=
    directory_keeps_file_iff { rootThreshold := 2 } twoDirectories simple listed
  refine ⟨⟨simple, listed⟩, ⟨m, member, inside, kept.mpr ?_⟩,
    ⟨m', member', inside', (moved ?_).trans ?_⟩⟩
  · decide
  · decide
  · decide

/-- A repository may have a directory of any name, so also of the name that the files at the top go
by. -/
theorem root_directory_dealt_out : ∃ m ∈ ofSnapshot {} (Snapshot.ofList [("root/a.py", "x")]),
    "root/a.py".toList ∈ m.files.paths ∧ m.name ≠ "root".toList := by
  decide

end CodeWiki.SourceModule
