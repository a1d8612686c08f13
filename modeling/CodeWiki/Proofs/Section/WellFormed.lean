import CodeWiki.Proofs.Section.Identifier
import CodeWiki.Proofs.Section.Reply
import CodeWiki.Proofs.Unicode

/-! Whatever a language model answers, the sections can be shown. Titles and placeholders stand in
for what a reply leaves out, so nothing is empty that a reader would look at. -/
namespace CodeWiki

theorem Text.capitalize_ne_nil {t : Text} (occupied : t ≠ []) : Text.capitalize t ≠ [] := by
  cases t with
  | nil => exact absurd rfl occupied
  | cons c rest => exact List.append_ne_nil_of_left_ne_nil (Unicode.upper_ne_nil c) _

namespace WikiSection

/-- A subsection as it can be shown: one line for a title, some content, and nothing below it. -/
structure IsSubsection (s : WikiSection) : Prop where
  title : IsTitle s.title
  occupied : s.content ≠ []
  content : ∀ p ∈ s.content, Paragraph.IsWhole p
  children : s.children = none

/-- A section of the top level as it can be shown. -/
structure WellFormed (s : WikiSection) : Prop where
  title : s.title ≠ []
  content : ∀ p ∈ s.content, Paragraph.IsWhole p
  occupied : s.children = none → s.content ≠ []
  children : ∀ children, s.children = some children →
    children ≠ [] ∧ ∀ child ∈ children, child.IsSubsection

variable {module reply block t : Text} {s s' child : WikiSection}

/-! ### Titles and contents -/

theorem isWhole_emptyModule : Paragraph.IsWhole emptyModule :=
  ⟨by decide +kernel, by decide +kernel, Paragraph.unbroken_of_line (by decide +kernel)⟩

theorem isWhole_emptyOverview : Paragraph.IsWhole emptyOverview :=
  ⟨by decide +kernel, by decide +kernel, Paragraph.unbroken_of_line (by decide +kernel)⟩

theorem isTitle_firstLine (seen : Text.trim (Text.firstLine t) ≠ []) :
    IsTitle (Text.trim (Text.firstLine t)) := by
  refine ⟨seen, Text.trimWhile_trimWhile _ _, fun member => ?_⟩
  have inLine := (Text.trimWhile_infix Unicode.isWhiteSpace (Text.firstLine t)).subset member
  have kept := List.all_eq_true.mp List.all_takeWhile _ inLine
  exact absurd rfl (of_decide_eq_true kept)

theorem title_ofReply_ne_nil (named : module ≠ []) (reply : Text) :
    (ofReply module reply).title ≠ [] := by
  change (titleAndBody module reply).1 ≠ []
  unfold titleAndBody
  split
  · exact Text.capitalize_ne_nil named
  · dsimp only
    split
    · exact Text.capitalize_ne_nil named
    · rename_i given
      simpa using given

/-- Paragraphs with a placeholder where there are none. -/
theorem orElseContent_placeholder {placeholder : Text} (whole : Paragraph.IsWhole placeholder)
    (t : Text) : orElseContent (Paragraph.ofText t) [placeholder] ≠ [] ∧
      ∀ p ∈ orElseContent (Paragraph.ofText t) [placeholder], Paragraph.IsWhole p := by
  unfold orElseContent
  split
  · refine ⟨List.cons_ne_nil _ _, fun p member => ?_⟩
    obtain rfl := List.mem_singleton.mp member
    exact whole
  · rename_i given
    exact ⟨by simpa using given, fun p member => Paragraph.isWhole_of_mem_ofText member⟩

/-! ### What is parsed -/

theorem isSubsection_of_subsection? (found : subsection? module block = some child) :
    child.IsSubsection := by
  simp only [subsection?, splitTitle_eq] at found
  split at found
  · cases found
  · rename_i titled
    obtain ⟨occupied, whole⟩ :=
      orElseContent_placeholder isWhole_emptyModule (Text.laterLines block)
    cases found
    exact ⟨isTitle_firstLine (by simpa using titled), occupied, whole, rfl⟩

theorem wellFormed_ofOverview (reply : Text) : (ofOverview reply).WellFormed := by
  obtain ⟨body, -, content⟩ := content_ofOverview reply
  have shown := orElseContent_placeholder isWhole_emptyOverview body
  have same :
      (ofOverview reply).content = orElseContent (Paragraph.ofText body) [emptyOverview] := by
    rw [content]
    simp only [orElseContent, List.isEmpty_iff, Paragraph.ofText_eq_nil_iff]
  rw [← same] at shown
  exact ⟨List.cons_ne_nil _ _, shown.2, fun _ => shown.1, by rintro _ ⟨⟩⟩

theorem wellFormed_ofReply (named : module ≠ []) (reply : Text) :
    (ofReply module reply).WellFormed := by
  have titled := title_ofReply_ne_nil named reply
  have cut := isCut_pieces module reply
  generalize (Text.pieces subsectionMarker (titleAndBody module reply).2).1 = main at cut
  generalize (Text.pieces subsectionMarker (titleAndBody module reply).2).2 = blocks at cut
  have whole : ∀ p ∈ Paragraph.ofText main, Paragraph.IsWhole p :=
    fun _ member => Paragraph.isWhole_of_mem_ofText member
  rw [cut.ofReply_eq module] at titled ⊢
  cases childless : (blocks.filter isTitled).isEmpty with
  | true =>
    cases blank : Text.isBlank main with
    | true =>
      refine ⟨titled, fun p member => ?_, fun _ => List.cons_ne_nil _ _, by rintro _ ⟨⟩⟩
      obtain rfl := List.mem_singleton.mp member
      exact isWhole_emptyModule
    | false =>
      refine ⟨titled, whole, fun _ empty => ?_, by rintro _ ⟨⟩⟩
      rw [Paragraph.ofText_eq_nil_iff.mp empty] at blank
      cases blank
  | false =>
    rw [Bool.and_false]
    refine ⟨titled, whole, by rintro ⟨⟩, ?_⟩
    rintro _ ⟨⟩
    rw [← isEmpty_filterMap module, List.isEmpty_eq_false_iff] at childless
    refine ⟨childless, fun child member => ?_⟩
    obtain ⟨block, -, found⟩ := List.mem_filterMap.mp member
    exact isSubsection_of_subsection? found

/-! ### What does not depend on identifiers -/

theorem children_withoutIds (s : WikiSection) :
    s.withoutIds.children = s.children.map (List.map withoutIds) := by
  obtain ⟨id, title, content, _ | children⟩ := s
  · rfl
  · exact congrArg some (withoutIdsAll_eq_map children)

theorem title_eq_of_withoutIds (same : s.withoutIds = s'.withoutIds) : s.title = s'.title := by
  rw [← title_withoutIds, same, title_withoutIds]

theorem content_eq_of_withoutIds (same : s.withoutIds = s'.withoutIds) :
    s.content = s'.content := by
  rw [← content_withoutIds, same, content_withoutIds]

theorem children_eq_of_withoutIds (same : s.withoutIds = s'.withoutIds) :
    s.children.map (List.map withoutIds) = s'.children.map (List.map withoutIds) := by
  rw [← children_withoutIds, same, children_withoutIds]

theorem childless_iff_of_withoutIds (same : s.withoutIds = s'.withoutIds) :
    s.children = none ↔ s'.children = none := by
  rw [← Option.map_eq_none_iff, children_eq_of_withoutIds same, Option.map_eq_none_iff]

theorem IsSubsection.of_withoutIds (shown : s.IsSubsection) (same : s.withoutIds = s'.withoutIds) :
    s'.IsSubsection := by
  have content := content_eq_of_withoutIds same
  refine ⟨?_, ?_, ?_, (childless_iff_of_withoutIds same).mp shown.children⟩
  · rw [← title_eq_of_withoutIds same]
    exact shown.title
  · rw [← content]
    exact shown.occupied
  · rw [← content]
    exact shown.content

theorem WellFormed.of_withoutIds (shown : s.WellFormed) (same : s.withoutIds = s'.withoutIds) :
    s'.WellFormed := by
  have content := content_eq_of_withoutIds same
  refine ⟨?_, ?_, ?_, ?_⟩
  · rw [← title_eq_of_withoutIds same]
    exact shown.title
  · rw [← content]
    exact shown.content
  · rw [← content, ← childless_iff_of_withoutIds same]
    exact shown.occupied
  · intro later here
    have below := children_eq_of_withoutIds same
    rw [here, Option.map_some, Option.map_eq_some_iff] at below
    obtain ⟨given, found, erased⟩ := below
    obtain ⟨occupied, each⟩ := shown.children given found
    refine ⟨?_, fun child member => ?_⟩
    · rintro rfl
      exact occupied (List.map_eq_nil_iff.mp erased)
    · have inside := List.mem_map_of_mem (f := withoutIds) member
      rw [← erased] at inside
      obtain ⟨original, listed, alike⟩ := List.mem_map.mp inside
      exact (each original listed).of_withoutIds alike

/-- Whatever the replies, the sections of a wiki can be shown. Behind the overview stands one
section for each module, in their order, with at most one level below it; titles and paragraphs have
something in them, and so has every section. -/
theorem assemble_wellFormed {modules : List (Text × Text)} (overview : Text)
    (named : ∀ m ∈ modules, m.1 ≠ []) :
    ∃ sections, assemble overview modules = ofOverview overview :: sections ∧
      List.Forall₂ (fun m s => (ofReply m.1 m.2).withoutIds = s.withoutIds) modules sections ∧
      ∀ s ∈ ofOverview overview :: sections, s.WellFormed := by
  have parsed := map_withoutIds_assemble overview modules
  have first := assemble_overview overview modules
  cases whole : assemble overview modules with
  | nil =>
    rw [whole] at first
    cases first
  | cons head sections =>
    rw [whole] at first parsed
    obtain rfl : head = ofOverview overview := Option.some.inj first
    obtain ⟨-, later⟩ := List.cons.inj parsed
    have each : List.Forall₂ Eq (modules.map fun m => (ofReply m.1 m.2).withoutIds)
        (sections.map withoutIds) := by
      rw [List.forall₂_eq_eq_eq]
      exact later.symm
    refine ⟨sections, rfl, List.forall₂_map_left_iff.mp (List.forall₂_map_right_iff.mp each),
      List.forall_mem_cons.mpr ⟨wellFormed_ofOverview overview, ?_⟩⟩
    intro s member
    have erased := List.mem_map_of_mem (f := withoutIds) member
    rw [later] at erased
    obtain ⟨m, given, same⟩ := List.mem_map.mp erased
    exact (wellFormed_ofReply (named m given) m.2).of_withoutIds same

/-- A reply without a title whose only subsection is dropped, and one that is nothing but the title
of a subsection. -/
def bareReplies : List (Text × Text) :=
  [("core", "MODULE:\t\n\r\nSUBSECTION: \nlost"), ("io", "SUBSECTION: Disk\r")]

theorem bare_replies_can_be_shown : (∀ m ∈ bareReplies, m.1 ≠ []) ∧
    ∃ core io disk : WikiSection, assemble [] bareReplies = [ofOverview [], core, io] ∧
      core.title = "Core".toList ∧ core.content = [emptyModule] ∧ core.children = none ∧
      io.title = "Io".toList ∧ io.content = [] ∧ io.children = some [disk] ∧
      disk.title = "Disk".toList ∧ disk.IsSubsection := by
  have named : ∀ m ∈ bareReplies, m.1 ≠ [] := by decide +kernel
  obtain ⟨sections, whole, each, shown⟩ := assemble_wellFormed [] named
  obtain ⟨core, rest, first, others, rfl⟩ := List.forall₂_cons_left_iff.mp each
  obtain ⟨io, rest, second, ended, rfl⟩ := List.forall₂_cons_left_iff.mp others
  obtain rfl := List.forall₂_nil_left_iff.mp ended
  have wellFormed : io.WellFormed := shown io (by simp)
  have childless := congrArg children first
  have below := congrArg children second
  rw [children_withoutIds core] at childless
  rw [children_withoutIds io] at below
  obtain ⟨given, found, erased⟩ := Option.map_eq_some_iff.mp below.symm
  obtain ⟨disk, rfl, name⟩ := List.map_eq_singleton_iff.mp erased
  have title : disk.title = "Disk".toList := by
    rw [← title_withoutIds, name]
    decide +kernel
  refine ⟨named, core, io, disk, whole, ?_, ?_, ?_, ?_, ?_, found, title, ?_⟩
  · rw [← title_withoutIds, ← first]
    decide +kernel
  · rw [← content_withoutIds, ← first]
    decide +kernel
  · exact Option.map_eq_none_iff.mp childless.symm
  · rw [← title_withoutIds, ← second]
    decide +kernel
  · rw [← content_withoutIds, ← second]
    decide +kernel
  · exact (wellFormed.children [disk] found).2 disk List.mem_cons_self

end WikiSection
end CodeWiki
