import CodeWiki.Proofs.Ranking
import CodeWiki.Proofs.Snapshot
import CodeWiki.SourceModule.Brief
import CodeWiki.Text.Utf8

/-! The text about a module. The files shown are known from the module and the number of files that
may be shown: no file left out is larger than one of them, nor as large with a smaller path. Their
blocks are cut at a number of characters, so no character is cut. -/
namespace CodeWiki.Brief

variable {count : Nat} {files : Snapshot} {chosen other : List (Text × Text)} {a b : Text × Text}

/-! ### The largest files -/

/-- The number of bytes of a file. -/
def bytes (file : Text × Text) : Nat := (Utf8.encode file.2).length

theorem utf8Length_eq (t : Text) : Text.utf8Length t = (Utf8.encode t).length := by
  induction t with
  | nil => rfl
  | cons c t ih =>
    rw [Utf8.encode, List.flatMap_cons, List.length_append, String.length_utf8EncodeChar]
    exact congrArg (c.utf8Size + ·) ih

/-- Larger than another file, or as large and of a smaller path. -/
def Precedes (a b : Text × Text) : Prop := bytes b < bytes a ∨ bytes b = bytes a ∧ a.1 < b.1

theorem Precedes.asymm (first : Precedes a b) : ¬ Precedes b a := by
  rintro (larger | ⟨same, smaller⟩)
  · rcases first with larger' | ⟨same, -⟩
    · exact Nat.lt_asymm larger larger'
    · exact Nat.ne_of_gt larger same
  · rcases first with larger' | ⟨-, smaller'⟩
    · exact Nat.ne_of_lt larger' same.symm
    · exact List.lt_asymm smaller smaller'

/-- The files that should be shown of a module when `count` files may be: all of them or that many,
in order of size and path, and none that comes after one that is left out. -/
structure IsLargest (count : Nat) (files : Snapshot) (chosen : List (Text × Text)) : Prop where
  size : chosen.length = min count files.size
  listed : chosen ⊆ files.entries
  inOrder : chosen.Pairwise Precedes
  best : ∀ file ∈ chosen, ∀ omitted ∈ files.entries, omitted ∉ chosen → Precedes file omitted

theorem largest_eq (count : Nat) (files : Snapshot) :
    largest count files = (ranked bytes files.entries).take count := by
  have key : bytes = fun file => Text.utf8Length file.2 :=
    funext fun file => (utf8Length_eq file.2).symm
  rw [key]
  rfl

theorem isLargest_largest (count : Nat) (files : Snapshot) :
    IsLargest count files (largest count files) := by
  have same := ranked_perm bytes files.entries
  have pairs : (ranked bytes files.entries).Pairwise Precedes := ranked_pairwise bytes files.sorted
  rw [largest_eq]
  refine ⟨?_, fun file member => same.mem_iff.mp (List.mem_of_mem_take member),
    pairs.sublist (List.take_sublist _ _), ?_⟩
  · rw [List.length_take, same.length_eq, Snapshot.size]
  · intro file member omitted listed absent
    rw [← List.take_append_drop count (ranked bytes files.entries)] at pairs
    have place := same.mem_iff.mpr listed
    rw [← List.take_append_drop count (ranked bytes files.entries), List.mem_append] at place
    exact (List.pairwise_append.mp pairs).2.2 file member omitted (place.resolve_left absent)

/-- Of two such selections neither can hold a file that the other leaves out: each of the two files
would have to come before the other. -/
theorem IsLargest.unique (largest : IsLargest count files chosen)
    (largest' : IsLargest count files other) : other = chosen :=
  eq_of_no_exchange (fun _ _ => Precedes.asymm) largest.inOrder largest'.inOrder
    (largest.size.trans largest'.size.symm) fun file member absent file' member' absent' =>
      (largest.best file member file' (largest'.listed member') absent').asymm
        (largest'.best file' member' file (largest.listed member) absent)

/-! ### The text -/

theorem truncate_eq (limit : Nat) (t : Text) :
    truncate limit t = if t.length ≤ limit then t else t.take limit ++ truncationMarker := by
  unfold truncate
  split
  · rename_i longer
    rw [if_neg (Nat.not_le_of_lt longer)]
  · rename_i fits
    rw [if_pos (Nat.le_of_not_lt fits)]

theorem length_truncate_le (limit : Nat) (t : Text) :
    (truncate limit t).length ≤ limit + truncationMarker.length := by
  rw [truncate_eq]
  split
  · omega
  · rw [List.length_append, List.length_take]
    omega

/-- The text about a module shows its largest files, the one selection of them that can be meant. It
stands as it is up to the limit, and is cut there and marked when it is longer. -/
theorem ofModule_shows_largest (settings : GroupingSettings) (excerpts : ExcerptSettings)
    (m : SourceModule) : ∃ chosen, IsLargest settings.filesPerModule m.files chosen ∧
      (∀ other, IsLargest settings.filesPerModule m.files other → other = chosen) ∧
      ∃ whole : Text, whole = "### MODULE: " ++ m.name ++ ['\n'] ++
          Text.join ['\n', '\n'] (chosen.map fun file =>
            "File: " ++ file.1 ++ ['\n'] ++ Excerpt.ofFile excerpts file.1 file.2) ∧
        ofModule settings excerpts m = ⟨m.name, if whole.length ≤ settings.maxModuleChars then whole
          else whole.take settings.maxModuleChars ++ truncationMarker⟩ ∧
        (ofModule settings excerpts m).text.length ≤ settings.maxModuleChars +
          truncationMarker.length := by
  have best := isLargest_largest settings.filesPerModule m.files
  refine ⟨_, best, fun other best' => best.unique best', full settings excerpts m, rfl, ?_, ?_⟩
  · rw [ofModule, truncate_eq]
  · exact length_truncate_le _ _

end CodeWiki.Brief
