import Mathlib.Data.List.Forall2
import CodeWiki.Proofs.Section.Conservation
import CodeWiki.Proofs.Section.Title

/-! What becomes of the reply about a module: every piece of its body with a title is a subsection,
and nothing else is; what can be seen in a piece can be seen in the section that comes from it. -/
namespace CodeWiki.WikiSection

/-! ### Taking a reply apart -/

/-- A reply whose body is `main` and the `blocks`, each behind the marker of a subsection. -/
structure IsCut (reply main : Text) (blocks : List Text) : Prop where
  body : IsBody reply (Text.join subsectionMarker (main :: blocks))
  unmarked : ∀ piece ∈ main :: blocks, ¬ subsectionMarker <:+: piece

/-- A block has a title if something can be seen in its first line. -/
def isTitled (block : Text) : Bool := !Text.isBlank (Text.firstLine block)

/-- The subsection that a block should become. -/
structure Shows (block : Text) (child : WikiSection) : Prop where
  title : child.title = Text.trim (Text.firstLine block)
  kept : Text.isBlank (Text.laterLines block) = false →
    Text.visible (child.title ++ child.content.flatten) = Text.visible block
  placeholder : Text.isBlank (Text.laterLines block) = true → child.content = [emptyModule]
  leaf : child.children = none

variable {module reply main block : Text} {blocks : List Text}

theorem subsectionMarker_ends_in_colon : subsectionMarker = "SUBSECTION".toList ++ [':'] := by
  decide +kernel

/-- The pieces that are read are a cut of the reply. -/
theorem isCut_pieces (module reply : Text) :
    IsCut reply (Text.pieces subsectionMarker (titleAndBody module reply).2).1
      (Text.pieces subsectionMarker (titleAndBody module reply).2).2 := by
  refine ⟨?_, Text.not_infix_of_mem_piecesFrom (by decide) 0 _⟩
  rw [Text.join_pieces (by decide)]
  exact isBody_titleAndBody module reply

/-- There is no other cut, whatever stands around the markers. -/
theorem IsCut.pieces (cut : IsCut reply main blocks) (module : Text) :
    Text.pieces subsectionMarker (titleAndBody module reply).2 = (main, blocks) := by
  have unmarked := cut.unmarked
  rw [titleAndBody_of_isBody module cut.body]
  rw [subsectionMarker_ends_in_colon] at unmarked ⊢
  exact Text.pieces_join (by decide) unmarked

theorem IsCut.unique {main' : Text} {blocks' : List Text} (cut : IsCut reply main blocks)
    (cut' : IsCut reply main' blocks') : main' = main ∧ blocks' = blocks := by
  have same := (cut'.pieces []).symm.trans (cut.pieces [])
  exact Prod.mk.inj same

/-! ### What the pieces become -/

theorem visible_lines (t : Text) :
    Text.visible (Text.firstLine t ++ Text.laterLines t) = Text.visible t := by
  rcases Text.line_cases t with single | ⟨line, rest, single, rfl⟩
  · rw [Text.firstLine_of_single single, Text.laterLines_of_single single, List.append_nil]
  · rw [Text.firstLine_append single, Text.laterLines_append single, Text.visible_append,
      Text.visible_append, Text.visible_cons_of_white (by decide)]

theorem subsection?_of_not_titled (module : Text) (untitled : isTitled block = false) :
    subsection? module block = none := by
  rw [isTitled, Bool.not_eq_false'] at untitled
  simp only [subsection?, splitTitle_eq, Text.trim_eq_nil_iff.mpr untitled, List.isEmpty_nil,
    if_true]

theorem subsection?_of_titled (module : Text) (titled : isTitled block = true) :
    ∃ child, subsection? module block = some child ∧ Shows block child := by
  have occupied : (Text.trim (Text.firstLine block)).isEmpty = false := by
    rw [isTitled, Bool.not_eq_true'] at titled
    rw [List.isEmpty_eq_false_iff, ne_eq, Text.trim_eq_nil_iff, titled]
    exact Bool.false_ne_true
  refine ⟨_, by simp only [subsection?, splitTitle_eq, occupied, Bool.false_eq_true, if_false]; rfl,
    rfl, ?_, ?_, rfl⟩
  · intro seen
    have filled : Paragraph.ofText (Text.laterLines block) ≠ [] := fun none => by
      rw [Paragraph.ofText_eq_nil_iff.mp none] at seen
      cases seen
    have content : orElseContent (Paragraph.ofText (Text.laterLines block)) [emptyModule] =
        Paragraph.ofText (Text.laterLines block) := by simp [orElseContent, filled]
    calc Text.visible (Text.trim (Text.firstLine block) ++
          (orElseContent (Paragraph.ofText (Text.laterLines block)) [emptyModule]).flatten)
        = Text.visible (Text.firstLine block ++ Text.laterLines block) := by
          rw [content, Text.visible_append, Text.visible_trim, Paragraph.visible_ofText,
            Text.visible_append]
      _ = Text.visible block := visible_lines block
  · intro blank
    have empty := Paragraph.ofText_eq_nil_iff.mpr blank
    change orElseContent (Paragraph.ofText (Text.laterLines block)) [emptyModule] = [emptyModule]
    rw [empty]
    rfl

/-- Block by block: each with a title gives the next subsection, each without gives none. -/
theorem shows_filterMap (module : Text) (blocks : List Text) :
    List.Forall₂ Shows (blocks.filter isTitled) (blocks.filterMap (subsection? module)) := by
  induction blocks with
  | nil => exact List.Forall₂.nil
  | cons block blocks ih =>
    cases titled : isTitled block with
    | true =>
      obtain ⟨child, found, shows⟩ := subsection?_of_titled module titled
      rw [List.filter_cons_of_pos titled, List.filterMap_cons_some found]
      exact List.Forall₂.cons shows ih
    | false =>
      rw [List.filter_cons_of_neg (by simp [titled]),
        List.filterMap_cons_none (subsection?_of_not_titled module titled)]
      exact ih

theorem isEmpty_filterMap (module : Text) (blocks : List Text) :
    (blocks.filterMap (subsection? module)).isEmpty = (blocks.filter isTitled).isEmpty := by
  have same := (shows_filterMap module blocks).length_eq
  rw [Bool.eq_iff_iff, List.isEmpty_iff_length_eq_zero, List.isEmpty_iff_length_eq_zero, same]

theorem IsCut.ofReply_eq (cut : IsCut reply main blocks) (module : Text) :
    ofReply module reply = .mk (Identifier.slugify module) (titleAndBody module reply).1
      (if Text.isBlank main && (blocks.filter isTitled).isEmpty then [emptyModule]
        else Paragraph.ofText main)
      (if (blocks.filter isTitled).isEmpty then none
        else some (blocks.filterMap (subsection? module))) := by
  have blank : (Paragraph.ofText main).isEmpty = Text.isBlank main := by
    rw [Bool.eq_iff_iff, List.isEmpty_iff, Paragraph.ofText_eq_nil_iff]
  simp only [ofReply, cut.pieces module, isEmpty_filterMap, blank]

/-- A reply loses no text and gains no subsections. It is cut in one way into the text before the
first marker of a subsection and the blocks behind the markers; the subsections are the blocks with
a title, in order, and what is visible in each of them, and in the text before, is what is visible
in its section. -/
theorem ofReply_keeps_text (module reply : Text) : ∃ main blocks,
    IsCut reply main blocks ∧
    (∀ main' blocks', IsCut reply main' blocks' → main' = main ∧ blocks' = blocks) ∧
    List.Forall₂ Shows (blocks.filter isTitled) ((ofReply module reply).children.getD []) ∧
    ((ofReply module reply).children = none ↔ blocks.filter isTitled = []) ∧
    (Text.isBlank main = false →
      Text.visible (ofReply module reply).content.flatten = Text.visible main) ∧
    (Text.isBlank main = true → (ofReply module reply).content =
      if blocks.filter isTitled = [] then [emptyModule] else []) := by
  have cut := isCut_pieces module reply
  refine ⟨_, _, cut, fun _ _ other => cut.unique other, ?_⟩
  generalize (Text.pieces subsectionMarker (titleAndBody module reply).2).1 = main at cut ⊢
  generalize (Text.pieces subsectionMarker (titleAndBody module reply).2).2 = blocks at cut ⊢
  have shows := shows_filterMap module blocks
  rw [cut.ofReply_eq module]
  simp only [children, content]
  by_cases untitled : blocks.filter isTitled = []
  · rw [untitled] at shows ⊢
    refine ⟨List.Forall₂.nil, by simp, ?_, ?_⟩
    · intro seen
      rw [seen]
      exact Paragraph.visible_ofText main
    · intro blank
      rw [blank]
      rfl
  · have titled : (blocks.filter isTitled).isEmpty = false := List.isEmpty_eq_false_iff.mpr untitled
    rw [titled, Bool.and_false]
    refine ⟨shows, by simp [untitled], fun _ => Paragraph.visible_ofText main, ?_⟩
    intro blank
    rw [if_neg untitled]
    exact Paragraph.ofText_eq_nil_iff.mpr blank

/-- A reply with markers in the middle of lines, one of them without a title. -/
def crowded : Text :=
  "MODULE: Core\nFirst,SUBSECTION: One\r\nthen.SUBSECTION:\t\nlost SUBSECTION:Two"

theorem isCut_crowded : IsCut crowded "First," [" One\r\nthen.", "\t\nlost ", "Two"] := by
  have whole : crowded = [] ++ moduleMarker ++
      " Core\nFirst,SUBSECTION: One\r\nthen.SUBSECTION:\t\nlost SUBSECTION:Two".toList := by
    decide +kernel
  have later : Text.join subsectionMarker ["First,", " One\r\nthen.", "\t\nlost ", "Two"] =
      Text.laterLines
      " Core\nFirst,SUBSECTION: One\r\nthen.SUBSECTION:\t\nlost SUBSECTION:Two".toList := by
    decide +kernel
  refine ⟨?_, by decide +kernel⟩
  rw [whole, later]
  exact .behind (by decide +kernel)

theorem ofReply_crowded : ∃ one two : WikiSection,
    (ofReply "core" crowded).children = some [one, two] ∧
    one.title = "One".toList ∧ Text.visible (one.title ++ one.content.flatten) = "Onethen.".toList ∧
    two.title = "Two".toList ∧ two.content = [emptyModule] := by
  obtain ⟨main, blocks, -, unique, shows, -, -, -⟩ := ofReply_keeps_text "core" crowded
  obtain ⟨rfl, rfl⟩ := unique _ _ isCut_crowded
  have titled : [" One\r\nthen.".toList, "\t\nlost ".toList, "Two".toList].filter isTitled =
      [" One\r\nthen.".toList, "Two".toList] := by decide +kernel
  rw [titled] at shows
  cases found : (ofReply "core" crowded).children with
  | none =>
    rw [found] at shows
    cases shows
  | some sections =>
    rw [found] at shows
    obtain ⟨one, rest, first, others, rfl⟩ := List.forall₂_cons_left_iff.mp shows
    obtain ⟨two, rest, second, ended, rfl⟩ := List.forall₂_cons_left_iff.mp others
    obtain rfl := List.forall₂_nil_left_iff.mp ended
    have name :
      Text.trim (Text.firstLine " One\r\nthen.".toList) = "One".toList := by decide +kernel
    have seen : Text.visible " One\r\nthen.".toList = "Onethen.".toList := by decide +kernel
    have name' : Text.trim (Text.firstLine "Two".toList) = "Two".toList := by decide +kernel
    exact ⟨one, two, rfl, first.title.trans name, (first.kept (by decide +kernel)).trans seen,
      second.title.trans name', second.placeholder (by decide +kernel)⟩

end CodeWiki.WikiSection
