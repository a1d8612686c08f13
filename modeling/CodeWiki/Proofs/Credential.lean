import CodeWiki.Credential
import CodeWiki.Proofs.Text.Cut
import CodeWiki.Proofs.Text.Visible

/-! Keys in a list with commas. However the list is spaced and wherever blank entries stand in it,
the keys come out of it one by one as they are, and a pool takes them over as they are. -/
namespace CodeWiki

/-- What can be an entry of a list: one key alone. -/
structure IsSecret (t : Text) : Prop where
  nonempty : t ≠ []
  trimmed : Text.trim t = t
  undivided : ',' ∉ t

/-- An entry of a list as it is written. -/
inductive KeyEntry where
  | blank (space : Text)
  | key (before secret after : Text)

namespace KeyEntry

def write : KeyEntry → Text
  | blank space => space
  | key before secret after => before ++ secret ++ after

def secret? : KeyEntry → Option Text
  | blank _ => none
  | key _ secret _ => some secret

/-- White space of any kind may stand in a blank entry and around a key. -/
inductive Admissible : KeyEntry → Prop
  | blank {space : Text} (white : Text.isBlank space = true) : Admissible (.blank space)
  | key {before secret after : Text} (white : Text.isBlank before = true)
      (isSecret : IsSecret secret) (white' : Text.isBlank after = true) :
      Admissible (.key before secret after)

end KeyEntry

/-- The text is one of the ways to write the keys as a list. -/
inductive Lists : List Text → Text → Prop
  | entries (entries : List KeyEntry) (admissible : ∀ e ∈ entries, e.Admissible) :
      Lists (entries.filterMap KeyEntry.secret?) (Text.join [','] (entries.map KeyEntry.write))

/-- Whether a variable is set and has an entry that is not blank. -/
def HasKey (value : Option Text) : Prop :=
  ∃ t, value = some t ∧ ∃ entry ∈ t.splitOn ',', Text.isBlank entry = false

/-- Whether a variable is set, is not blank and yet has blank entries only, with commas between
them. -/
def IsBarren (value : Option Text) : Prop :=
  (∃ t, value = some t ∧ Text.isBlank t = false) ∧ ¬ HasKey value

variable {keys : List Text} {t space : Text} {e : KeyEntry}

theorem comma_not_mem_of_isBlank (white : Text.isBlank space = true) : ',' ∉ space := fun member =>
  absurd (Text.isBlank_iff.mp white ',' member) (by decide)

namespace KeyEntry

theorem Admissible.undivided (admissible : e.Admissible) : ',' ∉ e.write := by
  cases admissible with
  | blank white => exact comma_not_mem_of_isBlank white
  | key white isSecret white' =>
    simp only [write, List.mem_append, not_or]
    exact ⟨⟨comma_not_mem_of_isBlank white, isSecret.undivided⟩, comma_not_mem_of_isBlank white'⟩

/-- White space around an entry is all that trimming takes away. -/
theorem Admissible.trim_write (admissible : e.Admissible) :
    Text.trim e.write = e.secret?.getD [] := by
  cases admissible with
  | blank white => exact Text.trim_eq_nil_iff.mpr white
  | key white isSecret white' =>
    rw [write, Text.trim, Text.trimWhile_append_right (Text.isBlank_iff.mp white'),
      Text.trimWhile_append_left (Text.isBlank_iff.mp white)]
    exact isSecret.trimmed

theorem Admissible.isSecret {secret : Text} (admissible : e.Admissible)
    (present : e.secret? = some secret) : IsSecret secret := by
  cases admissible with
  | blank _ => cases present
  | key _ isSecret _ =>
    cases present
    exact isSecret

end KeyEntry

namespace Credential

theorem splitList_eq_nil_iff :
    splitList t = [] ↔ ∀ entry ∈ t.splitOn ',', Text.isBlank entry = true := by
  simp [splitList, List.filter_eq_nil_iff, Text.trim_eq_nil_iff]

theorem hasKey_some_iff : HasKey (some t) ↔ splitList t ≠ [] := by
  rw [Ne, splitList_eq_nil_iff]
  simp [HasKey]

theorem hasKey_iff {value : Option Text} : HasKey value ↔ splitList (value.getD []) ≠ [] := by
  cases value with
  | none =>
    have empty : splitList [] = [] := by decide
    simp [HasKey, empty]
  | some t => exact hasKey_some_iff

/-- A blank text has no entries but blank ones. -/
theorem not_hasKey_of_isBlank (white : Text.isBlank t = true) : ¬ HasKey (some t) := by
  have whole : t.splitOn ',' = [t] := List.splitOn_eq_singleton (comma_not_mem_of_isBlank white)
  rw [hasKey_some_iff, not_not, splitList_eq_nil_iff, whole]
  simpa using white

theorem filter_entries {entries : List KeyEntry} (admissible : ∀ e ∈ entries, e.Admissible) :
    ((entries.map KeyEntry.write).map Text.trim).filter (!·.isEmpty) =
      entries.filterMap KeyEntry.secret? := by
  induction entries with
  | nil => rfl
  | cons e entries ih =>
    rw [List.forall_mem_cons] at admissible
    rw [List.map_cons, List.map_cons, admissible.1.trim_write, List.filterMap_cons,
      ← ih admissible.2]
    cases present : e.secret? with
    | none => rfl
    | some secret =>
      exact List.filter_cons_of_pos (by simpa using (admissible.1.isSecret present).nonempty)

/-- The keys are read back from every way to write them. -/
theorem splitList_of_lists (listed : Lists keys t) : splitList t = keys := by
  cases listed with
  | entries entries admissible =>
    cases entries with
    | nil => rfl
    | cons e entries =>
      have parts : (Text.join [','] ((e :: entries).map KeyEntry.write)).splitOn ',' =
          (e :: entries).map KeyEntry.write := by
        refine List.splitOn_intercalate ',' ?_ (List.cons_ne_nil _ _)
        intro part member
        obtain ⟨e', inside, rfl⟩ := List.mem_map.mp member
        exact (admissible e' inside).undivided
      rw [splitList, parts, filter_entries admissible]

end Credential

theorem Lists.isSecret (listed : Lists keys t) : ∀ secret ∈ keys, IsSecret secret := by
  cases listed with
  | entries entries admissible =>
    intro secret member
    obtain ⟨e, inside, present⟩ := List.mem_filterMap.mp member
    exact (admissible e inside).isSecret present

namespace KeyPool

variable {pool : KeyPool}

theorem filter_trim (secrets : ∀ secret ∈ keys, IsSecret secret) :
    (keys.map Text.trim).filter (!·.isEmpty) = keys := by
  have trimmed : keys.map Text.trim = keys := by
    rw [List.map_congr_left fun secret member => (secrets secret member).trimmed, List.map_id']
  rw [trimmed]
  exact List.filter_eq_self.mpr fun secret member => by simpa using (secrets secret member).nonempty

theorem exists_ofSecrets? (secrets : ∀ secret ∈ keys, IsSecret secret) (occupied : keys ≠ []) :
    ∃ pool, ofSecrets? keys = some pool ∧ pool.keys.map Credential.secret = keys := by
  have kept := filter_trim secrets
  have positive : 0 < (((keys.map Text.trim).filter (!·.isEmpty)).map Credential.mk).length := by
    rw [kept, List.length_map]
    exact List.length_pos_of_ne_nil occupied
  refine ⟨⟨_, positive⟩, ?_, ?_⟩
  · rw [ofSecrets?, dif_pos positive]
  · rw [List.map_map, kept]
    exact List.map_id keys

/-- The tasks get the secrets in turn, from the beginning again when all are dealt out. -/
theorem getElem?_roundRobin (secrets : pool.keys.map Credential.secret = keys) (i : Nat) :
    keys[i % keys.length]? = some (pool.roundRobin i).secret := by
  subst secrets
  rw [List.length_map, List.getElem?_map, List.getElem?_eq_getElem (Nat.mod_lt i pool.nonempty)]
  rfl

end KeyPool

namespace Credential

theorem backend_eq_groq_iff (key : Credential) :
    key.backend = .groq ↔ "gsk_".toList <+: key.secret := by
  rw [backend, ← List.isPrefixOf_iff_prefix]
  change (if groqMark.isPrefixOf key.secret then Backend.groq else .gemini) = .groq ↔
    groqMark.isPrefixOf key.secret = true
  split
  · rename_i marked
    exact iff_of_true rfl marked
  · rename_i unmarked
    exact iff_of_false Backend.noConfusion unmarked

end Credential
end CodeWiki
