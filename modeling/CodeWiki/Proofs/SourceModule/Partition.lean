import CodeWiki.Proofs.Snapshot
import CodeWiki.SourceModule.Partition

/-! The modules of a snapshot are a partition of it. Files are put into modules one at a time, and
each of them is new to all modules; so nothing is ever replaced, and what the modules hold together
is what has been put in. The names of the modules stay apart because a file goes to the module of
its name. -/
namespace CodeWiki.SourceModule

variable {allowed : Text → Prop} {modules groups : List SourceModule}
  {files more : List (Text × Text)} {name path content : Text}

/-- The files of all modules. -/
def allFiles (modules : List SourceModule) : List (Text × Text) :=
  modules.flatMap fun m => m.files.entries

/-- Modules with different names that hold the given files, each of them some. -/
structure Partitions (allowed : Text → Prop) (modules : List SourceModule)
    (files : List (Text × Text)) : Prop where
  same : (allFiles modules).Perm files
  distinct : (modules.map SourceModule.name).Nodup
  inhabited : ∀ m ∈ modules, m.files.entries ≠ []
  named : ∀ m ∈ modules, allowed m.name

theorem allFiles_add (fresh : path ∉ (allFiles modules).map Prod.fst) :
    (allFiles (add name path content modules)).Perm ((path, content) :: allFiles modules) := by
  induction modules with
  | nil => exact List.Perm.refl _
  | cons m rest ih =>
    simp only [allFiles, List.flatMap_cons, List.map_append, List.mem_append, not_or] at fresh
    unfold add
    split
    · exact (Snapshot.insertEntry_perm content fresh.1).append_right _
    · exact ((ih fresh.2).append_left m.files.entries).trans List.perm_middle

theorem names_add : (add name path content modules).map SourceModule.name =
    if name ∈ modules.map SourceModule.name then modules.map SourceModule.name
    else modules.map SourceModule.name ++ [name] := by
  induction modules with
  | nil => rfl
  | cons m rest ih =>
    unfold add
    split
    · rename_i here
      rw [if_pos (here ▸ List.mem_cons_self)]
      rfl
    · rename_i different
      rw [List.map_cons, ih, List.map_cons]
      by_cases later : name ∈ rest.map SourceModule.name
      · rw [if_pos later, if_pos (List.mem_cons_of_mem _ later)]
      · have absent : name ∉ m.name :: rest.map SourceModule.name :=
          fun found => (List.mem_cons.mp found).elim (Ne.symm different) later
        rw [if_neg later, if_neg absent, List.cons_append]

theorem mem_add {m : SourceModule} (member : m ∈ add name path content modules) :
    (m.name = name ∧ m.files.entries ≠ []) ∨ m ∈ modules := by
  induction modules with
  | nil =>
    obtain rfl := List.mem_singleton.mp member
    exact Or.inl ⟨rfl, List.cons_ne_nil _ _⟩
  | cons head rest ih =>
    unfold add at member
    split at member
    · rename_i here
      rcases List.mem_cons.mp member with rfl | later
      · exact Or.inl ⟨here, Snapshot.insertEntry_ne_nil _ _ _⟩
      · exact Or.inr (List.mem_cons_of_mem _ later)
    · rcases List.mem_cons.mp member with rfl | later
      · exact Or.inr List.mem_cons_self
      · exact (ih later).imp id (List.mem_cons_of_mem _)

theorem partitions_nil (allowed : Text → Prop) : Partitions allowed [] [] :=
  ⟨List.Perm.refl _, List.nodup_nil, fun _ => nofun, fun _ => nofun⟩

theorem Partitions.perm (partitions : Partitions allowed modules files) (same : files.Perm more) :
    Partitions allowed modules more :=
  { partitions with same := partitions.same.trans same }

/-- One more file. -/
theorem Partitions.add (partitions : Partitions allowed modules files) (name content : Text)
    (fresh : path ∉ files.map Prod.fst) (allow : allowed name) :
    Partitions allowed (add name path content modules) ((path, content) :: files) where
  same := by
    have unseen : path ∉ (allFiles modules).map Prod.fst :=
      fun seen => fresh ((partitions.same.map Prod.fst).mem_iff.mp seen)
    exact (allFiles_add unseen).trans (partitions.same.cons _)
  distinct := by
    rw [names_add]
    split
    · exact partitions.distinct
    · rename_i absent
      refine List.nodup_append.mpr ⟨partitions.distinct, List.pairwise_singleton _ _, ?_⟩
      intro n present other last
      rw [List.mem_singleton.mp last]
      exact fun same => absent (same ▸ present)
  inhabited m member := by
    rcases mem_add member with ⟨-, nonempty⟩ | earlier
    · exact nonempty
    · exact partitions.inhabited m earlier
  named m member := by
    rcases mem_add member with ⟨rfl, -⟩ | earlier
    · exact allow
    · exact partitions.named m earlier

/-- More files, put into the modules one after another. -/
theorem Partitions.addAll (partitions : Partitions allowed modules files) (nameOf : Text → Text)
    (distinct : ((more ++ files).map Prod.fst).Nodup) (allow : ∀ f ∈ more, allowed (nameOf f.1)) :
    Partitions allowed (addAll nameOf more modules) (more ++ files) := by
  induction more generalizing modules files with
  | nil => exact partitions
  | cons head rest ih =>
    obtain ⟨path, content⟩ := head
    have reordered : (rest ++ (path, content) :: files).Perm ((path, content) :: rest ++ files) :=
      List.perm_middle
    have fresh : path ∉ files.map Prod.fst := by
      rw [List.cons_append, List.map_cons, List.nodup_cons, List.map_append, List.mem_append,
        not_or] at distinct
      exact distinct.1.2
    have added := partitions.add (nameOf path) content fresh (allow _ List.mem_cons_self)
    refine Partitions.perm (ih added ?_ fun f member => allow f (List.mem_cons_of_mem _ member))
      reordered
    exact (reordered.map Prod.fst).nodup_iff.mpr distinct

theorem Partitions.nodup (partitions : Partitions allowed modules files)
    (distinct : (files.map Prod.fst).Nodup) : ((allFiles modules).map Prod.fst).Nodup :=
  (partitions.same.map Prod.fst).nodup_iff.mpr distinct

/-- A module is set aside, and its files with it. -/
theorem Partitions.setAside {m : SourceModule} {before after : List SourceModule}
    (partitions : Partitions allowed (before ++ m :: after) files) :
    Partitions allowed (before ++ after) (allFiles (before ++ after)) where
  same := List.Perm.refl _
  distinct := partitions.distinct.sublist
    ((List.Sublist.append_left (List.sublist_cons_self m after) before).map _)
  inhabited other member := partitions.inhabited other
    ((List.Sublist.append_left (List.sublist_cons_self m after) before).mem member)
  named other member := partitions.named other
    ((List.Sublist.append_left (List.sublist_cons_self m after) before).mem member)

theorem partitions_byTopic (files : Snapshot) (nonempty : files.entries ≠ [])
    (topics : ∀ path, allowed (Topic.ofPath path)) (whole : allowed wholeName) :
    Partitions allowed (byTopic files) files.entries := by
  have added := (partitions_nil allowed).addAll Topic.ofPath
    (by simpa using files.distinct) (fun f _ => topics f.1)
  rw [List.append_nil] at added
  unfold byTopic
  split
  · rename_i grouped
    exact grouped ▸ added
  · refine ⟨?_, List.pairwise_singleton _ _, ?_, ?_⟩
    · simp only [allFiles, List.flatMap_cons, List.flatMap_nil, List.append_nil]
      exact List.Perm.refl _
    · intro m member
      rwa [List.mem_singleton.mp member]
    · intro m member
      rwa [List.mem_singleton.mp member]

theorem Partitions.merge (partitions : Partitions allowed modules files)
    (distinct : ((allFiles groups ++ files).map Prod.fst).Nodup)
    (named : ∀ group ∈ groups, allowed group.name) :
    Partitions allowed (merge modules groups) (allFiles groups ++ files) := by
  induction groups generalizing modules files with
  | nil => exact partitions
  | cons group rest ih =>
    have reordered : (allFiles rest ++ (group.files.entries ++ files)).Perm
        (allFiles (group :: rest) ++ files) := by
      rw [allFiles, allFiles, List.flatMap_cons, ← List.append_assoc]
      exact List.perm_append_comm.append_right files
    have rearranged := (reordered.map Prod.fst).nodup_iff.mpr distinct
    have inner : ((group.files.entries ++ files).map Prod.fst).Nodup := by
      rw [List.map_append] at rearranged
      exact (List.nodup_append.mp rearranged).2.1
    have added := partitions.addAll (fun _ => group.name) inner
      (fun _ _ => named group List.mem_cons_self)
    have later := ih added rearranged fun g member => named g (List.mem_cons_of_mem _ member)
    exact later.perm reordered

/-- The files of the module at the root are taken out of it and dealt out by topic. -/
theorem Partitions.splitRoot {root : SourceModule} {large : SourceModule → Bool}
    (partitions : Partitions allowed modules files) (unique : (files.map Prod.fst).Nodup)
    (found : modules.find? (fun m => m.name = rootName && large m) = some root)
    (topics : ∀ path, allowed (Topic.ofPath path)) (whole : allowed wholeName) :
    Partitions allowed
      (SourceModule.merge (modules.eraseP (·.name = rootName)) (byTopic root.files)) files := by
  obtain ⟨holds, before, after, rfl, -⟩ := List.find?_eq_some_iff_append.mp found
  have isRoot : root.name = rootName := by
    simp only [Bool.and_eq_true, decide_eq_true_eq] at holds
    exact holds.1
  have others : ∀ m ∈ before, ¬ decide (m.name = rootName) = true := by
    intro m member same
    have apart := partitions.distinct
    rw [List.map_append, List.map_cons, List.nodup_append] at apart
    exact apart.2.2 m.name (List.mem_map.mpr ⟨m, member, rfl⟩) root.name List.mem_cons_self
      ((of_decide_eq_true same).trans isRoot.symm)
  have nonempty := partitions.inhabited root (List.mem_append_right _ List.mem_cons_self)
  have grouped := partitions_byTopic root.files nonempty topics whole
  have total : (allFiles (byTopic root.files) ++ allFiles (before ++ after)).Perm files := by
    refine ((grouped.same.append_right _).trans ?_).trans partitions.same
    simp only [allFiles, List.flatMap_append, List.flatMap_cons]
    rw [← List.append_assoc, ← List.append_assoc]
    exact List.perm_append_comm.append_right _
  have merged := partitions.setAside.merge ((total.map Prod.fst).nodup_iff.mpr unique) grouped.named
  have left : (before ++ root :: after).eraseP (·.name = rootName) = before ++ after := by
    rw [List.eraseP_append_right _ others, List.eraseP_cons, decide_eq_true isRoot, cond_true]
  rw [left]
  exact merged.perm total

theorem partitions_ofSnapshot (settings : GroupingSettings) (files : Snapshot)
    (directories : ∀ f ∈ files.entries, allowed (directoryName f.1))
    (topics : ∀ path, allowed (Topic.ofPath path)) (whole : allowed wholeName) :
    Partitions allowed (ofSnapshot settings files) files.entries := by
  have grouped := (partitions_nil allowed).addAll directoryName (by simpa using files.distinct)
    directories
  rw [List.append_nil] at grouped
  unfold ofSnapshot
  dsimp only
  generalize addAll directoryName files.entries [] = modules at grouped ⊢
  refine iteInduction (motive := fun modules => Partitions allowed modules files.entries) ?_ ?_
  · intro flat
    refine partitions_byTopic files ?_ topics whole
    intro empty
    split at flat
    · rename_i m
      have held := grouped.same
      rw [empty, List.perm_nil, allFiles, List.flatMap_cons, List.append_eq_nil_iff] at held
      exact grouped.inhabited m List.mem_cons_self held.1
    · cases flat
  · intro _
    split
    · exact grouped
    · rename_i root found
      exact grouped.splitRoot files.distinct found topics whole

theorem partitions_modules (settings : GroupingSettings) (files : Snapshot) :
    Partitions (fun _ => True) (ofSnapshot settings files) files.entries :=
  partitions_ofSnapshot settings files (fun _ _ => trivial) (fun _ => trivial) trivial

theorem directoryName_ne_nil {path : Text} (relative : path.head? ≠ some '/') :
    directoryName path ≠ [] := by
  unfold directoryName
  split
  · rename_i first rest cut
    rintro rfl
    cases path with
    | nil => cases cut
    | cons c t =>
      unfold Text.cut? at cut
      split at cut
      · rename_i behind
        unfold Text.after? at behind
        split at behind
        · rename_i slash
          exact relative (congrArg some slash.symm)
        · cases behind
      · obtain ⟨⟨left, right⟩, -, same⟩ := Option.map_eq_some_iff.mp cut
        cases same
  · decide

/-- The names that `Topic.ofPath` gives. -/
def topicNames : List Text :=
  (Topic.byKeyword ++ Topic.byExtension).map (fun (topic, _) => topic.toList) ++
    [Topic.miscellaneous]

theorem ofPath_mem_topicNames (path : Text) : Topic.ofPath path ∈ topicNames := by
  have listed : ∀ entry ∈ Topic.byKeyword ++ Topic.byExtension, entry.1.toList ∈ topicNames :=
    fun entry member => List.mem_append_left _ (List.mem_map.mpr ⟨entry, member, rfl⟩)
  unfold Topic.ofPath
  dsimp only
  split
  · rename_i topic words found
    rcases Option.or_eq_some_iff.mp found with byKeyword | ⟨-, byExtension⟩
    · exact listed _ (List.mem_append_left _ (List.mem_of_find?_eq_some byKeyword))
    · obtain ⟨extension, -, within⟩ := Option.bind_eq_some_iff.mp byExtension
      exact listed _ (List.mem_append_right _ (List.mem_of_find?_eq_some within))
  · exact List.mem_append_right _ (List.mem_singleton_self _)

theorem ofPath_ne_nil (path : Text) : Topic.ofPath path ≠ [] := by
  have occupied : ∀ topic ∈ topicNames, topic ≠ [] := by decide
  exact occupied _ (ofPath_mem_topicNames path)

theorem Partitions.exists_unique {files : Snapshot}
    (partitions : Partitions allowed modules files.entries)
    (found : files.get? path = some content) :
    ∃ (i : Nat) (m : SourceModule), modules[i]? = some m ∧ m.files.get? path = some content ∧
      ∀ (j : Nat) (m' : SourceModule), modules[j]? = some m' → path ∈ m'.files.paths → j = i := by
  have member := partitions.same.mem_iff.mpr (Snapshot.get?_eq_some_iff.mp found)
  obtain ⟨m, present, inside⟩ := List.mem_flatMap.mp member
  obtain ⟨i, here⟩ := List.mem_iff_getElem?.mp present
  refine ⟨i, m, here, Snapshot.get?_eq_some_iff.mpr inside, ?_⟩
  intro j m' there again
  obtain ⟨entry, inside', called⟩ := List.mem_map.mp again
  obtain ⟨-, apart⟩ := List.pairwise_flatMap.mp
    (List.pairwise_map.mp (partitions.nodup files.distinct))
  rw [List.pairwise_iff_getElem] at apart
  obtain ⟨within, rfl⟩ := List.getElem?_eq_some_iff.mp here
  obtain ⟨within', rfl⟩ := List.getElem?_eq_some_iff.mp there
  rcases Nat.lt_trichotomy i j with less | same | more
  · exact absurd called.symm (apart i j within within' less _ inside _ inside')
  · exact same.symm
  · exact absurd called (apart j i within' within more _ inside' _ inside)

/-- The modules are a partition of the snapshot, however it is laid out and whatever its directories
are called. -/
theorem ofSnapshot_divides (settings : GroupingSettings) (files : Snapshot) :
    (∀ path content, files.get? path = some content → ∃ (i : Nat) (m : SourceModule),
      (ofSnapshot settings files)[i]? = some m ∧ m.files.get? path = some content ∧
      ∀ (j : Nat) (m' : SourceModule), (ofSnapshot settings files)[j]? = some m' →
        path ∈ m'.files.paths → j = i) ∧
    (∀ m ∈ ofSnapshot settings files, ∀ path content, m.files.get? path = some content →
      files.get? path = some content) ∧
    (∀ m ∈ ofSnapshot settings files, 0 < m.files.size) ∧
    ((ofSnapshot settings files).map SourceModule.name).Nodup ∧
    ((∀ path ∈ files.paths, path.head? ≠ some '/') →
      ∀ m ∈ ofSnapshot settings files, m.name ≠ []) := by
  have partitions : Partitions (fun _ => True) (ofSnapshot settings files) files.entries :=
    partitions_ofSnapshot settings files (fun _ _ => trivial) (fun _ => trivial) trivial
  refine ⟨fun path content => partitions.exists_unique, ?_, ?_, partitions.distinct, ?_⟩
  · intro m member path content inside
    rw [Snapshot.get?_eq_some_iff] at inside ⊢
    exact partitions.same.mem_iff.mp (List.mem_flatMap.mpr ⟨m, member, inside⟩)
  · intro m member
    exact List.length_pos_iff.mpr (partitions.inhabited m member)
  · intro relative
    have named : Partitions (· ≠ []) (ofSnapshot settings files) files.entries := by
      refine partitions_ofSnapshot settings files (fun f member => ?_) ofPath_ne_nil (by decide)
      exact directoryName_ne_nil (relative f.1 (List.mem_map.mpr ⟨f, member, rfl⟩))
    exact named.named

/-- A directory may be called like a topic, or like the module of the files beside the
directories. -/
theorem directories_called_like_modules :
    (∀ path ∈ (Snapshot.ofList [("Tests/a.go", "a"), ("root/b.py", "b"), ("c.go", "c"),
      ("test.py", "d")]).paths, path.head? ≠ some '/') ∧
    ∀ m ∈ ofSnapshot { rootThreshold := 2 } (Snapshot.ofList [("Tests/a.go", "a"),
      ("root/b.py", "b"), ("c.go", "c"), ("test.py", "d")]), m.name ≠ [] ∧ 0 < m.files.size := by
  obtain ⟨-, -, inhabited, -, named⟩ := ofSnapshot_divides { rootThreshold := 2 }
    (Snapshot.ofList [("Tests/a.go", "a"), ("root/b.py", "b"), ("c.go", "c"), ("test.py", "d")])
  have relative : ∀ path ∈ (Snapshot.ofList [("Tests/a.go", "a"), ("root/b.py", "b"), ("c.go", "c"),
      ("test.py", "d")]).paths, path.head? ≠ some '/' := by decide
  exact ⟨relative, fun m member => ⟨named relative m member, inhabited m member⟩⟩

end CodeWiki.SourceModule
