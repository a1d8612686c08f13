import CodeWiki.Section.Reply

/-!
Drafts: sections as a language model is asked to write them. The marker and the title of the section
come first, then its paragraphs with blank lines between them, then the subsections in the same
manner.
-/
namespace CodeWiki

/-- One line that can stand as a title. -/
structure IsTitle (t : Text) : Prop where
  nonempty : t ≠ []
  trimmed : Text.trim t = t
  line : '\n' ∉ t

/-- Text that holds together as one paragraph of a reply. -/
structure IsParagraph (t : Text) : Prop where
  nonempty : t ≠ []
  trimmed : Text.trim t = t
  unbroken : ∀ b, Paragraph.IsBreak b → ¬ b <:+: t
  unmarked : ¬ WikiSection.subsectionMarker <:+: t

structure SubsectionDraft where
  title : Text
  paragraphs : List Text
deriving DecidableEq, Repr

structure Draft where
  title : Text
  main : List Text
  subsections : List SubsectionDraft
deriving DecidableEq, Repr

namespace SubsectionDraft

/-- What is written behind the marker of a subsection. -/
def block (s : SubsectionDraft) : Text :=
  ' ' :: s.title ++ '\n' :: Text.join ['\n', '\n'] s.paragraphs

structure Admissible (s : SubsectionDraft) : Prop where
  title : IsTitle s.title
  unmarked : ¬ WikiSection.subsectionMarker <:+: s.title
  nonempty : s.paragraphs ≠ []
  paragraphs : ∀ p ∈ s.paragraphs, IsParagraph p

end SubsectionDraft

namespace Draft

/-- The subsections, each with its marker behind a blank line. -/
def blocks (subsections : List SubsectionDraft) : Text :=
  subsections.flatMap fun s => ['\n', '\n'] ++ WikiSection.subsectionMarker ++ s.block

/-- The reply that says what the draft says. -/
def write (d : Draft) : Text :=
  WikiSection.moduleMarker ++ ' ' :: d.title ++ '\n' :: Text.join ['\n', '\n'] d.main ++
    blocks d.subsections

structure Admissible (d : Draft) : Prop where
  title : IsTitle d.title
  main : ∀ p ∈ d.main, IsParagraph p
  subsections : ∀ s ∈ d.subsections, s.Admissible
  nonempty : d.main ≠ [] ∨ d.subsections ≠ []

end Draft
end CodeWiki
