import CodeWiki.Excerpt.Basic
import CodeWiki.Proofs.Excerpt.Density

/-! The excerpt of a file can be taken apart again. Signatures and busy lines are rows with
something in them, so the only blank line of an excerpt is the one in the separator. -/
namespace CodeWiki

namespace Signature

theorem isRows_find (language : Language) (code : Text) :
    Text.IsRows (find language code) (Text.join ['\n'] (find language code)) := by
  refine ⟨rfl, fun row member => ?_, fun row member => ?_⟩ <;>
    obtain ⟨listed, given⟩ := List.mem_filter.mp member
  · intro empty
    rw [empty] at given
    cases given
  · obtain ⟨line, inside, rfl⟩ := List.mem_map.mp listed
    exact fun newline => Text.newline_not_mem_of_mem_lines inside
      ((Text.trimWhile_infix Unicode.isWhiteSpace line).subset newline)

/-- Signatures are trimmed, so none ends in what might be taken for a part of the line end. -/
theorem getLast?_ne_of_mem_find {language : Language} {code row : Text}
    (member : row ∈ find language code) : row.getLast? ≠ some '\r' := by
  obtain ⟨line, -, rfl⟩ := List.mem_map.mp (List.mem_filter.mp member).1
  exact fun last => absurd (Text.getLast?_dropEndWhile last) (by decide)

end Signature

namespace Excerpt

variable {settings : ExcerptSettings} {path code before after t : Text}
  {rows signatures : List Text}

/-- The separator up to its first dash. -/
def opening : Text := ['\n', '\n'] ++ ['-']

/-- What stands in the row of the separator behind its first dash. -/
def heading : Text := "-- CORE LOGIC SNIPPETS ---"

theorem separator_eq : separator = opening ++ (heading ++ ['\n']) := by decide +kernel

theorem blankLine_infix_opening : ['\n', '\n'] <:+: opening := ⟨[], ['-'], rfl⟩

theorem not_separator_of_isRows (isRows : Text.IsRows rows t) : ¬ separator <:+: t := by
  have inside : opening <:+: separator := ⟨[], heading ++ ['\n'], separator_eq.symm⟩
  exact fun found => isRows.not_infix_blankLine ((blankLine_infix_opening.trans inside).trans found)

/-- The blank line of the separator is the only one between rows, so the text comes apart there
alone. -/
theorem append_separator_inj {before' after' : Text} (above : Text.IsRows signatures before)
    (below : Text.IsRows rows after)
    (same : before' ++ separator ++ after' = before ++ separator ++ after) :
    before' = before ∧ after' = after := by
  have early : ¬ opening <:+: before := fun found =>
    above.not_infix_blankLine (blankLine_infix_opening.trans found)
  have late : ¬ opening <:+: heading ++ '\n' :: after := fun found =>
    Text.not_infix_blankLine (by decide +kernel) below.head?_ne below.not_infix_blankLine
      (blankLine_infix_opening.trans found)
  have split : ∀ left right : Text, left ++ separator ++ right =
      left ++ (opening ++ (heading ++ '\n' :: right)) := by
    intro left right
    rw [separator_eq]
    simp only [List.append_assoc, List.singleton_append]
  rw [split, split] at same
  obtain ⟨first, second⟩ := Text.append_mark_inj (by decide) early late same
  exact ⟨first, (List.cons.inj (List.append_cancel_left second)).2⟩

/-- A text with the separator in it, in one place only. -/
structure IsDivided (t before after : Text) : Prop where
  whole : t = before ++ separator ++ after
  unique : ∀ before' after', t = before' ++ separator ++ after' → before' = before ∧ after' = after

/-- Lines that may be shown of a file without its comments. -/
structure IsCore (limit : Nat) (stripped : Text) (rows : List Text) : Prop where
  few : rows.length ≤ limit
  seen : ∀ row ∈ rows, Text.isBlank row = false
  inOrder : rows.Sublist (Text.lines stripped)

theorem isCore_select (limit : Nat) (code : Text) :
    IsCore limit code ((Density.select limit (Density.scored code)).map Density.Scored.line) := by
  refine ⟨?_, fun _ member => Density.not_isBlank_of_mem_select member,
    Density.select_sublist limit code⟩
  rw [List.length_map, Density.length_select]
  exact Nat.min_le_left _ _

theorem ofFile_of_rich
    (rich : settings.signatureThreshold ≤ (Signature.find (Language.ofPath path) code).length) :
    ofFile settings path code =
      Text.join ['\n']
        ((Signature.find (Language.ofPath path) code).take settings.signatureCap) := by
  simp only [ofFile, if_pos rich]

theorem ofFile_of_poor
    (poor : (Signature.find (Language.ofPath path) code).length < settings.signatureThreshold) :
    ofFile settings path code =
      Text.join ['\n'] (Signature.find (Language.ofPath path) code) ++ separator ++
        Density.busiest settings.excerptLines (Comment.strip (Language.ofPath path) code) := by
  simp only [ofFile, if_neg (Nat.not_le_of_lt poor)]

/-- An excerpt says by itself what it holds. The separator is in it just if the file has too few
signatures, and then once, whatever is in the file. The lines of the excerpt, or those above the
separator, are the signatures; below it stand lines of the file without comments, in order and not
blank. These are told from one another by the line ends alone, so that a carriage return before a
line end still belongs to the line. -/
theorem ofFile_separator (settings : ExcerptSettings) (path code : Text) :
    (separator <:+: ofFile settings path code ↔
      (Signature.find (Language.ofPath path) code).length < settings.signatureThreshold) ∧
    (settings.signatureThreshold ≤ (Signature.find (Language.ofPath path) code).length →
      Text.lines (ofFile settings path code) =
        (Signature.find (Language.ofPath path) code).take settings.signatureCap) ∧
    ((Signature.find (Language.ofPath path) code).length < settings.signatureThreshold →
      ∃ before after rows, IsDivided (ofFile settings path code) before after ∧
        Text.IsRows (Signature.find (Language.ofPath path) code) before ∧
        Text.lines before = Signature.find (Language.ofPath path) code ∧
        Text.IsRows rows after ∧
        IsCore settings.excerptLines (Comment.strip (Language.ofPath path) code) rows) := by
  have signatures := Signature.isRows_find (Language.ofPath path) code
  have ends : ∀ row ∈ Signature.find (Language.ofPath path) code, row.getLast? ≠ some '\r' :=
    fun _ member => Signature.getLast?_ne_of_mem_find member
  refine ⟨⟨fun found => ?_, fun poor => ?_⟩, fun rich => ?_, fun poor => ?_⟩
  · by_contra rich
    rw [ofFile_of_rich (Nat.le_of_not_lt rich)] at found
    exact not_separator_of_isRows (signatures.sublist (List.take_sublist _ _)) found
  · rw [ofFile_of_poor poor]
    exact ⟨_, _, rfl⟩
  · rw [ofFile_of_rich rich]
    have shown :=
      List.take_sublist settings.signatureCap (Signature.find (Language.ofPath path) code)
    exact (signatures.sublist shown).lines_eq fun row member => ends row (shown.mem member)
  · have busy := Density.isRows_busiest settings.excerptLines
      (Comment.strip (Language.ofPath path) code)
    have whole := ofFile_of_poor poor
    refine ⟨_, _, _, ⟨whole, fun before' after' same => ?_⟩, signatures, signatures.lines_eq ends,
      busy, isCore_select settings.excerptLines _⟩
    exact append_separator_inj signatures busy (same.symm.trans whole)

/-- A file in which the separator stands, and carriage returns around it. -/
def quoting : Text :=
  "a = 1\r\r\n\n--- CORE LOGIC SNIPPETS ---\n\n\n--- CORE LOGIC SNIPPETS ---\r\n"

/-- The separator of a file is no separator of its excerpt, and a limit may leave no signatures at
all. -/
theorem quoted_separator_is_content :
    (Signature.find (Language.ofPath "notes.md") quoting).length <
      ({} : ExcerptSettings).signatureThreshold ∧
      (∃ after rows, IsDivided (ofFile {} "notes.md" quoting) [] after ∧ Text.IsRows rows after ∧
        IsCore 50 (Comment.strip .other quoting) rows) ∧
      (1 ≤ (Signature.find (Language.ofPath "a.py") "class A:\r\n  def b():\r").length ∧
        Text.lines (ofFile ⟨1, 1, 50⟩ "a.py" "class A:\r\n  def b():\r") =
          ["class A:".toList]) := by
  have none : Signature.find (Language.ofPath "notes.md") quoting = [] := by decide +kernel
  have poor : (Signature.find (Language.ofPath "notes.md") quoting).length <
      ({} : ExcerptSettings).signatureThreshold := by
    rw [none]
    decide
  have rich : 1 ≤ (Signature.find (Language.ofPath "a.py") "class A:\r\n  def b():\r").length := by
    decide +kernel
  have cut : (Signature.find (Language.ofPath "a.py") "class A:\r\n  def b():\r").take 1 =
      ["class A:".toList] := by
    decide +kernel
  obtain ⟨-, -, divides⟩ := ofFile_separator {} "notes.md" quoting
  obtain ⟨-, shows, -⟩ := ofFile_separator ⟨1, 1, 50⟩ "a.py" "class A:\r\n  def b():\r"
  obtain ⟨before, after, rows, divided, above, -, below, core⟩ := divides poor
  rw [none] at above
  obtain rfl := above.eq_nil_iff.mpr rfl
  exact ⟨poor, ⟨after, rows, divided, below, core⟩, rich, (shows rich).trans cut⟩

end Excerpt
end CodeWiki
