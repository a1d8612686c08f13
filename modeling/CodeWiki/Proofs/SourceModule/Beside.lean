import CodeWiki.Proofs.SourceModule.Place
import CodeWiki.Proofs.Text.Trim

/-! Files that stand beside directories. By themselves they are grouped by topic; beside directories
they stay together while they are few, and when they are many each goes to the module of its group,
which stands behind the directories unless it is called like one of them. -/
namespace CodeWiki.SourceModule

variable {settings : GroupingSettings} {files : Snapshot} {path : Text}

/-- The files that have no directory. -/
def besideDirectories (files : Snapshot) : Snapshot :=
  ⟨files.entries.filter fun f => '/' ∉ f.1, files.sorted.filter _⟩

/-- The directories at the top, in the order of their first files. -/
def directoryNames (files : Snapshot) : List Text :=
  ((files.paths.filter ('/' ∈ ·)).map fun path => path.takeWhile (· ≠ '/')).eraseDups

/-- Without a directory called like the module of files at the top. -/
def Rootless (files : Snapshot) : Prop := ∀ path ∈ files.paths, ¬ rootName ++ ['/'] <+: path

theorem Rootless.atTop_iff (rootless : Rootless files) (listed : path ∈ files.paths) :
    AtTop path ↔ '/' ∉ path := or_iff_left (rootless path listed)

theorem Rootless.nested (rootless : Rootless files) (nested : ∃ path ∈ files.paths, '/' ∈ path) :
    ∃ path ∈ files.paths, ¬ AtTop path := by
  obtain ⟨path, listed, slash⟩ := nested
  exact ⟨path, listed, fun top => (rootless.atTop_iff listed).mp top slash⟩

theorem Rootless.topFiles_eq (rootless : Rootless files) :
    topFiles files = besideDirectories files := by
  apply Snapshot.eq_of_entries
  refine List.filter_congr fun f member => ?_
  rw [decide_eq_decide]
  exact rootless.atTop_iff (List.mem_map_of_mem member)

theorem directoryName_of_nested (nested : '/' ∈ path) :
    directoryName path = path.takeWhile (· ≠ '/') := by
  obtain ⟨first, rest, rfl, simple⟩ := List.eq_append_cons_of_mem nested
  rw [directoryName_append simple]
  refine (Text.takeWhile_append_of_head (fun c member => ?_) ?_).symm
  · exact decide_eq_true (ne_of_mem_of_not_mem member simple)
  · rintro _ ⟨⟩
    decide

/-- The modules of the directories are the directories, but for those that hold files at the top. -/
theorem Rootless.names_directories (rootless : Rootless files) :
    ((byDirectory files).filter (·.name ≠ rootName)).map SourceModule.name =
      directoryNames files := by
  have kept : files.paths.filter (fun path => directoryName path ≠ rootName) =
      files.paths.filter ('/' ∈ ·) := by
    refine List.filter_congr fun path listed => ?_
    rw [decide_eq_decide, ne_eq, directoryName_eq_rootName_iff, rootless.atTop_iff listed,
      Decidable.not_not]
  have named : (files.paths.filter ('/' ∈ ·)).map directoryName =
      (files.paths.filter ('/' ∈ ·)).map fun path => path.takeWhile (· ≠ '/') :=
    List.map_congr_left fun path member =>
      directoryName_of_nested (of_decide_eq_true (List.mem_filter.mp member).2)
  calc ((byDirectory files).filter (·.name ≠ rootName)).map SourceModule.name
      = ((byDirectory files).map SourceModule.name).filter (· ≠ rootName) := by
        rw [List.filter_map]
        rfl
    _ = ((files.paths.map directoryName).filter (· ≠ rootName)).eraseDups := by
        rw [names_byDirectory, eraseDups_filter]
    _ = ((files.paths.filter fun path => directoryName path ≠ rootName).map
          directoryName).eraseDups := by
        rw [List.filter_map]
        rfl
    _ = directoryNames files := by rw [kept, named, directoryNames]

theorem names_byTopic_nodup (files : Snapshot) : ((byTopic files).map SourceModule.name).Nodup := by
  by_cases one : OneTopic files
  · rw [byTopic_of_oneTopic one]
    exact List.pairwise_singleton _ _
  · rw [byTopic_of_topics one, names_topics]
    exact nodup_eraseDups _

/-- Files at the top that are dealt out beside directories: each is in the module that is called
like its group, and the groups that are called like no directory stand behind the directories. -/
structure DealtOut (directories : List Text) (groups modules : List SourceModule) : Prop where
  names : modules.map SourceModule.name =
    directories ++ (groups.map SourceModule.name).filter (· ∉ directories)
  rootless : ∀ m ∈ modules, m.name ≠ rootName
  placed : ∀ group ∈ groups, ∀ path ∈ group.files.paths, ∃ m ∈ modules, m.name = group.name ∧
    path ∈ m.files.paths ∧ ∀ m' ∈ modules, path ∈ m'.files.paths → m' = m

theorem names_dealtOut (rootless : Rootless files) (nested : ∃ path ∈ files.paths, ¬ AtTop path)
    (some : (topFiles files).entries ≠ []) (many : settings.rootThreshold ≤ (topFiles files).size) :
    (ofSnapshot settings files).map SourceModule.name = directoryNames files ++
      ((byTopic (topFiles files)).map SourceModule.name).filter (· ∉ directoryNames files) := by
  have distinct : (directoryNames files).eraseDups = directoryNames files :=
    eraseDups_of_nodup (nodup_eraseDups _)
  have groups := partitions_groups some
  have others :
      ((byTopic (topFiles files)).map SourceModule.name).removeAll (directoryNames files) =
        ((byTopic (topFiles files)).map SourceModule.name).filter (· ∉ directoryNames files) := by
    simp [List.removeAll]
  rw [ofSnapshot_of_many nested some many,
    names_merge (rootless.names_directories.trans distinct.symm) groups.inhabited,
    List.eraseDups_append, distinct, others,
    eraseDups_of_nodup ((names_byTopic_nodup _).filter _)]

theorem Rootless.dealtOut (rootless : Rootless files) (nested : ∃ path ∈ files.paths, '/' ∈ path)
    (some : (besideDirectories files).entries ≠ [])
    (many : settings.rootThreshold ≤ (besideDirectories files).size) :
    DealtOut (directoryNames files) (byTopic (besideDirectories files))
      (ofSnapshot settings files) := by
  rw [← rootless.topFiles_eq] at some many ⊢
  have regroups : Regroups settings files := Or.inr many
  have partitions := partitions_modules settings files
  refine ⟨names_dealtOut rootless (rootless.nested nested) some many, fun m member called => ?_, ?_⟩
  · obtain ⟨f, inside⟩ := List.exists_mem_of_ne_nil _ (partitions.inhabited m member)
    rw [name_of_mem member (List.mem_map_of_mem inside), placeName_eq_rootName_iff] at called
    exact called.2 regroups
  · intro group member path inside
    have groups := partitions_groups some
    obtain ⟨f, entry, rfl⟩ := List.mem_map.mp inside
    have top := groups.same.mem_iff.mp (List.mem_flatMap.mpr ⟨group, member, entry⟩)
    obtain ⟨listed, atTop⟩ := mem_topFiles.mp top
    obtain ⟨m, present, here, only⟩ := exists_module settings (List.mem_map_of_mem listed)
    refine ⟨m, present, ?_, here, only⟩
    rw [name_of_mem present here, placeName_of_regroups atTop regroups]
    exact labelled_byTopic (topFiles files) group member f entry

/-- Groups by topic are those of the topics that occur, in the order of their first files and with
the files that have the topic; a single one is called otherwise and has all files. A repository
without directories is grouped so. Beside directories a few files stay together, in a module of
their own, and many go where their groups go. -/
theorem files_beside_directories (settings : GroupingSettings) (files : Snapshot) :
    (byTopic files = [⟨wholeName, files⟩] ↔
      ∀ p ∈ files.paths, ∀ q ∈ files.paths, Topic.ofPath p = Topic.ofPath q) ∧
    (byTopic files ≠ [⟨wholeName, files⟩] →
      (byTopic files).map SourceModule.name = (files.paths.map Topic.ofPath).eraseDups ∧
      ∀ m ∈ byTopic files,
        m.files.entries = files.entries.filter fun f => Topic.ofPath f.1 = m.name) ∧
    (files.entries ≠ [] → (∀ p ∈ files.paths, '/' ∉ p) →
      ofSnapshot settings files = byTopic files) ∧
    ((∃ p ∈ files.paths, '/' ∈ p) → Rootless files → (besideDirectories files).entries ≠ [] →
      ((besideDirectories files).size < settings.rootThreshold →
        ⟨rootName, besideDirectories files⟩ ∈ ofSnapshot settings files ∧
          ∀ m ∈ ofSnapshot settings files, m.name = rootName → m.files = besideDirectories files) ∧
      (settings.rootThreshold ≤ (besideDirectories files).size →
        DealtOut (directoryNames files) (byTopic (besideDirectories files))
          (ofSnapshot settings files))) := by
  refine ⟨byTopic_eq_iff files, fun several => ?_, fun occupied flat => ?_,
    fun nested rootless some =>
      ⟨fun few => ?_, fun many => rootless.dealtOut nested some many⟩⟩
  · rw [byTopic_of_topics ((byTopic_eq_iff files).not.mp several)]
    exact ⟨names_topics files, fun m member =>
      entries_of_labelled (partitions_topics files) (labelled_topics files) member⟩
  · exact ofSnapshot_of_flat occupied fun p listed => Or.inl (flat p listed)
  · rw [← rootless.topFiles_eq] at some few ⊢
    rw [ofSnapshot_of_few (rootless.nested nested) (Or.inr few)]
    exact ⟨root_mem_byDirectory some, fun m => files_of_root⟩

/-- A directory called like a topic, and two files beside it. -/
def pythonDirectory : Snapshot :=
  Snapshot.ofList [("Python/a.go", "a"), ("b.py", "b"), ("test_c.py", "c")]

/-- The group of a topic joins the directory of its name. -/
theorem topic_called_like_directory :
    (Rootless pythonDirectory ∧ (besideDirectories pythonDirectory).size = 2) ∧
      (ofSnapshot { rootThreshold := 2 } pythonDirectory).map SourceModule.name =
        ["Python".toList, "Tests".toList] ∧
      ⟨rootName, besideDirectories pythonDirectory⟩ ∈
        ofSnapshot { rootThreshold := 3 } pythonDirectory ∧
      (ofSnapshot {} (besideDirectories pythonDirectory)).map SourceModule.name =
        ["Python".toList, "Tests".toList] := by
  have nested : ∃ p ∈ pythonDirectory.paths, '/' ∈ p := by decide
  have rootless : Rootless pythonDirectory := by
    unfold Rootless
    decide
  have some : (besideDirectories pythonDirectory).entries ≠ [] := by decide
  have two : (besideDirectories pythonDirectory).size = 2 := by decide
  obtain ⟨-, -, -, many⟩ := files_beside_directories { rootThreshold := 2 } pythonDirectory
  obtain ⟨-, -, -, few⟩ := files_beside_directories { rootThreshold := 3 } pythonDirectory
  have names := ((many nested rootless some).2 two.ge).names
  obtain ⟨-, several, flat, -⟩ := files_beside_directories {} (besideDirectories pythonDirectory)
  have groups : (byTopic (besideDirectories pythonDirectory)).map SourceModule.name =
      ["Python".toList, "Tests".toList] := (several (by decide)).1.trans (by decide)
  rw [groups] at names
  refine ⟨⟨rootless, two⟩, names.trans (by decide),
    ((few nested rootless some).1 (by rw [two]; decide)).1, ?_⟩
  rw [flat some (by decide), groups]

end CodeWiki.SourceModule
