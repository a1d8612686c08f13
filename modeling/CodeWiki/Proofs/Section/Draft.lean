import CodeWiki.Proofs.Section.Paragraph
import CodeWiki.Proofs.Section.Title

/-! Reading undoes writing: the section of a reply that was written from a draft says what the draft
says. Each marker stands behind a blank line and none is in a paragraph, so the reply falls apart
where it was put together. -/
namespace CodeWiki

open WikiSection

theorem newline_not_mem_subsectionMarker : '\n' ∉ subsectionMarker := by decide

theorem unmarked_join {paragraphs : List Text} (all : ∀ p ∈ paragraphs, IsParagraph p) :
    ¬ subsectionMarker <:+: Text.join ['\n', '\n'] paragraphs := by
  induction paragraphs with
  | nil => decide
  | cons p rest ih =>
    have first := (all p List.mem_cons_self).unmarked
    cases rest with
    | nil => rwa [Text.join_singleton]
    | cons q rest =>
      have later := ih fun r member => all r (List.mem_cons_of_mem p member)
      have joined : Text.join ['\n', '\n'] (p :: q :: rest) =
          p ++ '\n' :: ([] ++ '\n' :: Text.join ['\n', '\n'] (q :: rest)) := by
        simp only [Text.join, List.intercalate_cons_cons, List.append_assoc, List.cons_append,
          List.nil_append]
      rw [joined]
      apply Text.not_infix_append first _ newline_not_mem_subsectionMarker
      exact Text.not_infix_append (by decide) later newline_not_mem_subsectionMarker

/-- A title in its line is read without the blank before it. -/
theorem splitTitle_title {title : Text} (isTitle : IsTitle title) (body : Text) :
    splitTitle (' ' :: title ++ '\n' :: body) = (title, body) := by
  have line : '\n' ∉ ' ' :: title := by simp [isTitle.line]
  have blank : ∀ c ∈ [' '], Unicode.isWhiteSpace c = true := List.all_eq_true.mp (by decide)
  have bare : Text.trim (' ' :: title) = title :=
    (Text.trimWhile_append_left blank title).trans isTitle.trimmed
  rw [splitTitle_eq, Text.firstLine_append line, Text.laterLines_append line, bare]

namespace SubsectionDraft

/-- The section that a subsection of a module's reply should become. -/
def asSection (module : Text) (s : SubsectionDraft) : WikiSection :=
  .mk (Identifier.slugify (module ++ ['-'] ++ s.title)) s.title s.paragraphs none

theorem Admissible.unmarked_block {s : SubsectionDraft} (admissible : s.Admissible) :
    ¬ subsectionMarker <:+: s.block := by
  have heading : ¬ subsectionMarker <:+: ' ' :: s.title :=
    Text.not_infix_append (t := []) (by decide) admissible.unmarked (by decide)
  exact Text.not_infix_append heading (unmarked_join admissible.paragraphs)
    newline_not_mem_subsectionMarker

theorem Admissible.subsection? {s : SubsectionDraft} (admissible : s.Admissible) (module : Text)
    {tail : Text} (ends : Paragraph.IsTail tail) :
    WikiSection.subsection? module (s.block ++ tail) = some (s.asSection module) := by
  have split := splitTitle_title admissible.title (Text.join ['\n', '\n'] s.paragraphs ++ tail)
  have content := Paragraph.ofText_join admissible.paragraphs ends
  have titled : s.title.isEmpty = false := by simpa using admissible.title.nonempty
  have filled : s.paragraphs.isEmpty = false := by simpa using admissible.nonempty
  have written : s.block ++ tail =
      ' ' :: s.title ++ '\n' :: (Text.join ['\n', '\n'] s.paragraphs ++ tail) := by
    simp only [block, List.append_assoc, List.cons_append]
  rw [written]
  simp only [WikiSection.subsection?, split, content, titled, filled, orElseContent, asSection,
    Bool.false_eq_true, if_false]

end SubsectionDraft

namespace Draft

/-- The pieces between the markers are the blocks that were put there, but for what ends them. -/
theorem pieces_blocks {subsections : List SubsectionDraft} (module : Text)
    (admissible : ∀ s ∈ subsections, s.Admissible) {first : Text}
    (unmarked : ¬ subsectionMarker <:+: first) :
    ∃ tail, Paragraph.IsTail tail ∧
      (Text.pieces subsectionMarker (first ++ blocks subsections)).1 = first ++ tail ∧
      (Text.pieces subsectionMarker (first ++ blocks subsections)).2.filterMap
        (WikiSection.subsection? module) = subsections.map (·.asSection module) := by
  induction subsections generalizing first with
  | nil =>
    have whole := Text.pieces_of_not_infix unmarked
    refine ⟨[], Or.inl rfl, ?_, ?_⟩ <;> simp only [blocks, List.flatMap_nil, List.append_nil, whole]
    rfl
  | cons s rest ih =>
    have here := admissible s List.mem_cons_self
    obtain ⟨tail, ends, next, later⟩ := ih
      (fun s' member => admissible s' (List.mem_cons_of_mem s member)) here.unmarked_block
    have line : ¬ subsectionMarker <:+: first ++ ['\n'] :=
      Text.not_infix_append unmarked (by decide) newline_not_mem_subsectionMarker
    have pieces := Text.pieces_append_mark line newline_not_mem_subsectionMarker
      (s.block ++ blocks rest)
    have written : first ++ blocks (s :: rest) =
        first ++ ['\n'] ++ '\n' :: (subsectionMarker ++ (s.block ++ blocks rest)) := by
      simp only [blocks, List.flatMap_cons, List.append_assoc, List.cons_append, List.nil_append]
    rw [written, pieces]
    refine ⟨['\n', '\n'], Or.inr rfl, ?_, ?_⟩
    · simp only [List.append_assoc, List.cons_append, List.nil_append]
    · rw [next, List.filterMap_cons, here.subsection? module ends]
      simp only [later, List.map_cons]

/-- The section of a written draft has its title, its paragraphs and its subsections, in order; it
has no list of subsections if there are none. -/
theorem ofReply_write (module : Text) (d : Draft) (admissible : d.Admissible) :
    ofReply module d.write = .mk (Identifier.slugify module) d.title d.main
      (if d.subsections.isEmpty then none
        else some (d.subsections.map (·.asSection module))) := by
  obtain ⟨tail, ends, first, later⟩ := pieces_blocks module admissible.subsections
    (unmarked_join admissible.main)
  have content := Paragraph.ofText_join admissible.main ends
  have titled : d.title.isEmpty = false := by simpa using admissible.title.nonempty
  have split := splitTitle_title admissible.title
    (Text.join ['\n', '\n'] d.main ++ blocks d.subsections)
  have opened : titleAndBody module d.write =
      (d.title, Text.join ['\n', '\n'] d.main ++ blocks d.subsections) := by
    have marked : d.write = moduleMarker ++ (' ' :: d.title ++ '\n' ::
        (Text.join ['\n', '\n'] d.main ++ blocks d.subsections)) := by
      simp only [write, List.append_assoc, List.cons_append]
    rw [titleAndBody, marked, Text.cut?_append_self]
    simp only [split, titled, Bool.false_eq_true, if_false]
  have occupied : (d.main.isEmpty && d.subsections.isEmpty) = false := by
    rw [Bool.and_eq_false_iff]
    exact admissible.nonempty.imp (by simp) (by simp)
  simp only [ofReply, opened, first, content, later, List.isEmpty_map, occupied,
    Bool.false_eq_true, if_false]

/-- A break takes two line ends, so that text with fewer of them is a paragraph if it is one but for
that. -/
theorem isParagraph_of_count {p : Text} (few : p.count '\n' < 2)
    (whole : p ≠ [] ∧ Text.trim p = p ∧ ¬ subsectionMarker <:+: p) : IsParagraph p := by
  refine ⟨whole.1, whole.2.1, ?_, whole.2.2⟩
  rintro b ⟨blanks, rfl, -⟩ inside
  have fewer := inside.sublist.count_le '\n'
  simp only [List.cons_append, List.count_cons_self, List.count_append] at fewer
  omega

theorem isTitle_iff {t : Text} : IsTitle t ↔ t ≠ [] ∧ Text.trim t = t ∧ '\n' ∉ t :=
  ⟨fun ⟨nonempty, trimmed, line⟩ => ⟨nonempty, trimmed, line⟩,
    fun ⟨nonempty, trimmed, line⟩ => ⟨nonempty, trimmed, line⟩⟩

/-- Markers in titles, and line ends in paragraphs, lead nobody astray. -/
theorem ofReply_write_markers_in_titles :
    ofReply "core" (write ⟨"A SUBSECTION: of MODULE: texts", ["One\n line."],
      [⟨"On MODULE: marks", ["Two.", "Three."]⟩]⟩) =
    .mk "core" "A SUBSECTION: of MODULE: texts" ["One\n line."]
      (some [.mk "core-on-module-marks" "On MODULE: marks" ["Two.", "Three."] none]) := by
  have title : IsTitle "A SUBSECTION: of MODULE: texts" := isTitle_iff.mpr (by decide +kernel)
  have title' : IsTitle "On MODULE: marks" := isTitle_iff.mpr (by decide +kernel)
  have main : ∀ p ∈ ["One\n line.".toList], IsParagraph p :=
    List.forall_mem_singleton.mpr (isParagraph_of_count (by decide) (by decide +kernel))
  have paragraphs : ∀ p ∈ ["Two.".toList, "Three."], IsParagraph p := by
    intro p member
    simp only [List.mem_cons, List.not_mem_nil, or_false] at member
    rcases member with rfl | rfl <;> exact isParagraph_of_count (by decide) (by decide +kernel)
  have subsection : SubsectionDraft.Admissible ⟨"On MODULE: marks", ["Two.", "Three."]⟩ :=
    ⟨title', by decide +kernel, List.cons_ne_nil _ _, paragraphs⟩
  have read := ofReply_write "core"
    ⟨"A SUBSECTION: of MODULE: texts", ["One\n line."], [⟨"On MODULE: marks", ["Two.", "Three."]⟩]⟩
    ⟨title, main, List.forall_mem_singleton.mpr subsection, Or.inl (List.cons_ne_nil _ _)⟩
  have module : Identifier.slugify "core" = "core".toList := by decide +kernel
  have identifier : Identifier.slugify ("core" ++ ['-'] ++ "On MODULE: marks") =
      "core-on-module-marks".toList := by decide +kernel
  rw [read, module]
  simp only [List.isEmpty_cons, Bool.false_eq_true, if_false, List.map_cons, List.map_nil,
    SubsectionDraft.asSection, identifier]

end Draft
end CodeWiki
