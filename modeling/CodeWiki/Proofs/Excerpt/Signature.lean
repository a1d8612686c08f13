import CodeWiki.Excerpt.Signature
import CodeWiki.Proofs.Text.Pattern

/-! What the signature lines of a language look like, apart from the patterns by which they are
found. -/
namespace CodeWiki.Signature

open Pattern Unicode

/-- White space, at least one character of it, behind the word. -/
def Leads (word line rest : Text) : Prop :=
  ∃ gap, line = word ++ gap ++ rest ∧ gap ≠ [] ∧ ∀ c ∈ gap, isWhiteSpace c = true

/-- The line begins with a word that stands apart, and then a name. -/
def Names (word line : Text) : Prop :=
  ∃ c rest, Leads word line (c :: rest) ∧ isWord c = true

variable {t line : Text} {p : Pattern}

theorem matches_blanks_iff :
    Matches blanks t ↔ t ≠ [] ∧ ∀ c ∈ t, isWhiteSpace c = true := by
  simp only [blanks, matches_some_one_iff, CharSet.has, Bool.false_and, Bool.true_and,
    Bool.false_or, List.contains_nil, Bool.or_false, Bool.bne_false]

theorem matches_keyword_iff (word : Text) : Matches (seq (keyword word []) p) line ↔
    ∃ rest, Leads word line rest ∧ Matches p rest := by
  constructor
  · intro matched
    obtain ⟨head, rest, rfl, head, tail⟩ := matches_seq_iff.mp matched
    obtain ⟨own, gap, rfl, own, blank⟩ := matches_seq_iff.mp head
    obtain rfl := (matches_text_iff word).mp own
    exact ⟨rest, ⟨gap, rfl, matches_blanks_iff.mp blank⟩, tail⟩
  · rintro ⟨rest, ⟨gap, rfl, blank⟩, tail⟩
    exact .seq (.seq ((matches_text_iff word).mpr rfl) (matches_blanks_iff.mpr blank)) tail

theorem matches_name_iff :
    Matches (seq word anything) t ↔ ∃ c rest, t = c :: rest ∧ isWord c = true := by
  have single : ∀ c, ({ word := true } : CharSet).has c = isWord c := by
    simp [CharSet.has]
  rw [matches_seq_iff]
  constructor
  · rintro ⟨name, rest, rfl, name, -⟩
    obtain ⟨occupied, members⟩ := matches_some_one_iff.mp name
    obtain ⟨c, others, rfl⟩ := List.exists_cons_of_ne_nil occupied
    exact ⟨c, others ++ rest, rfl, single c ▸ members c List.mem_cons_self⟩
  · rintro ⟨c, rest, rfl, member⟩
    refine ⟨[c], rest, rfl, matches_some_one_iff.mpr ⟨List.cons_ne_nil c [], ?_⟩,
      matches_anything rest⟩
    simpa [single] using member

theorem matches_named_iff (word : Text) :
    Matches (all [keyword word [], Signature.word, anything]) line ↔ Names word line := by
  unfold all
  rw [matches_keyword_iff]
  simp only [all, matches_name_iff]
  constructor
  · rintro ⟨-, leads, c, rest, rfl, member⟩
    exact ⟨c, rest, leads, member⟩
  · rintro ⟨c, rest, leads, member⟩
    exact ⟨c :: rest, leads, c, rest, rfl, member⟩

/-- A line of Python is a signature if it names a class or a function, the latter possibly after
`async`. -/
theorem isSignature_python_iff (line : Text) : isSignature .python line = true ↔
    Names "class" line ∨ Names "def" line ∨ ∃ rest, Leads "async" line rest ∧ Names "def" rest := by
  have found : isSignature .python line = true ↔
      Matches (all [keyword "class" [], word, anything]) line ∨
      Matches
        (seq (optional (keyword "async" [])) (all [keyword "def" [], word, anything])) line := by
    simp [isSignature, patterns, python, accepts_iff, all]
  rw [found, matches_optional_seq_iff, matches_keyword_iff]
  simp only [matches_named_iff]

end CodeWiki.Signature
