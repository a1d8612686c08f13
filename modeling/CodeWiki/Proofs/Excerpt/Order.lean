import CodeWiki.Excerpt.Scan
import CodeWiki.Proofs.Excerpt.Separator

/-! What an excerpt shows stands in the file, in the same order. Each pass over source text only
leaves characters out, and so does what picks and trims the lines that are shown. -/
namespace CodeWiki

variable {language : Language} {settings : ExcerptSettings} {path code t line : Text}

namespace Comment

/-! ### Passes leave characters out -/

theorem hashFrom_sublist (hidden : Bool) (t : Text) : (hashFrom hidden t).Sublist t := by
  fun_induction hashFrom hidden t with
  | case1 => exact List.Sublist.refl []
  | case2 _ t ih => exact ih.cons_cons '\n'
  | case3 _ c t newline hides ih => exact ih.cons c
  | case4 _ c t newline shows ih => exact ih.cons_cons c

/-- What opens a comment goes, and what stands behind it is passed over up to the end of the
line. -/
theorem hash_not_mem_hashFrom (hidden : Bool) (t : Text) : '#' ∉ hashFrom hidden t := by
  fun_induction hashFrom hidden t with
  | case1 => exact List.not_mem_nil
  | case2 _ t ih =>
    rw [List.mem_cons, not_or]
    exact ⟨by decide, ih⟩
  | case3 _ c t newline hides ih => exact ih
  | case4 _ c t newline shows ih =>
    rw [Bool.or_eq_true, not_or, decide_eq_true_eq] at shows
    rw [List.mem_cons, not_or]
    exact ⟨Ne.symm shows.2, ih⟩

theorem slashFrom_sublist (place : Place) (t : Text) : (slashFrom place t).Sublist t := by
  fun_induction slashFrom place t with
  | case1 => exact List.Sublist.refl []
  | case2 _ c t hides ih => exact ih.cons c
  | case3 _ c t shows opens ih => exact ih.cons c
  | case4 _ c t shows other opens ih => exact ih.cons_cons c
  | case5 _ c t shows other plain ih => exact ih.cons_cons c

theorem blocksFrom_sublist (opening closing : Text) (left : Nat) (t : Text) :
    (blocksFrom opening closing left t).Sublist t := by
  fun_induction blocksFrom opening closing left t with
  | case1 => exact List.Sublist.refl []
  | case2 left c t ih => exact ih.cons c
  | case3 c t left found ih => exact ih.cons c
  | case4 c t other ih => exact ih.cons_cons c

theorem ite_sublist {p : Prop} [Decidable p] {u : Text} (shorter : u.Sublist t) :
    (if p then u else t).Sublist t := by
  split
  · exact shorter
  · exact List.Sublist.refl t

/-- Behind the first pass there is only less. -/
theorem exists_strip_eq (language : Language) (code : Text) :
    ∃ t, strip language code = withoutBlankLines t ∧
    t.Sublist (if language.hasHashComments then removeHash code else code) := by
  refine ⟨_, rfl, (ite_sublist ?_).trans (ite_sublist ?_)⟩
  · exact (blocksFrom_sublist _ _ 0 _).trans (blocksFrom_sublist _ _ 0 _)
  · exact (blocksFrom_sublist _ _ 0 _).trans (slashFrom_sublist .lineStart _)

/-! ### Lines that are left -/

theorem isRows_withoutBlankLines (t : Text) :
    Text.IsRows ((Text.lines t).filter (!Text.isBlank ·)) (withoutBlankLines t) := by
  refine ⟨rfl, fun row member empty => ?_, fun row member => ?_⟩
  · rw [empty] at member
    cases (List.mem_filter.mp member).2
  · exact Text.newline_not_mem_of_mem_lines (List.mem_filter.mp member).1

theorem not_isBlank_of_mem_withoutBlankLines (member : line ∈ Text.lines (withoutBlankLines t)) :
    Text.isBlank line = false := by
  obtain ⟨row, listed, same⟩ := (isRows_withoutBlankLines t).mem_lines member
  have seen := (List.mem_filter.mp listed).2
  have white : Unicode.isWhiteSpace '\r' = true := by decide
  rcases same with rfl | rfl
  · simpa using seen
  · simpa [Text.isBlank, white] using seen

theorem withoutBlankLines_sublist (t : Text) : (withoutBlankLines t).Sublist t :=
  Text.join_sublist List.filter_sublist

theorem strip_sublist_first (language : Language) (code : Text) :
    (strip language code).Sublist (if language.hasHashComments then removeHash code else code) := by
  obtain ⟨t, stripped, shorter⟩ := exists_strip_eq language code
  rw [stripped]
  exact (withoutBlankLines_sublist t).trans shorter

theorem strip_sublist (language : Language) (code : Text) : (strip language code).Sublist code :=
  (strip_sublist_first language code).trans (ite_sublist (hashFrom_sublist false code))

theorem hash_not_mem_strip (hashes : language.hasHashComments = true) (code : Text) :
    '#' ∉ strip language code := by
  have shorter := strip_sublist_first language code
  rw [if_pos hashes] at shorter
  exact fun member => hash_not_mem_hashFrom false code (shorter.mem member)

end Comment

/-! ### Lines that are shown -/

theorem Signature.join_sublist {shown : List Text} (found : shown.Sublist (find language code)) :
    (Text.join ['\n'] shown).Sublist code := by
  obtain ⟨whole, listed, rfl⟩ := List.sublist_map_iff.mp (found.trans List.filter_sublist)
  have shorter : List.Forall₂ List.Sublist (whole.map Text.trim) whole := by
    rw [List.forall₂_map_left_iff, List.forall₂_same]
    exact fun line _ => (Text.trimWhile_infix Unicode.isWhiteSpace line).sublist
  exact (Text.join_sublist_join shorter).trans (Text.join_sublist listed)

theorem Density.busiest_sublist (limit : Nat) (code : Text) : (busiest limit code).Sublist code :=
  Text.join_sublist (select_sublist limit code)

namespace Excerpt

open Comment

/-- A line of two texts with the separator between them is one of the separator's or belongs to one
of the two. -/
theorem mem_lines_separated {above below : Text}
    (member : line ∈ Text.lines (above ++ separator ++ below)) :
    line.Sublist above ∨ line ∈ Text.lines separator ∨ line.Sublist below := by
  have whole : separator = '\n' :: (['\n', '-'] ++ heading ++ ['\n']) := separator_eq
  have split : above ++ separator ++ below =
      above ++ '\n' :: (['\n', '-'] ++ heading ++ '\n' :: below) := by
    rw [whole]
    simp only [List.append_assoc, List.cons_append, List.nil_append]
  have own :
      Text.lines separator =
        Text.lines ['\n'] ++ Text.lines (['\n', '-'] ++ heading ++ ['\n']) := by
    rw [whole]
    exact Text.lines_append_newline [] _
  have single := Text.newline_not_mem_of_mem_lines member
  rw [split, Text.lines_append_newline above, Text.lines_append_newline (_ ++ heading) below,
    List.mem_append, List.mem_append] at member
  rcases member with early | inside | late
  · obtain ⟨front, last, rfl, shorter, ended⟩ :=
      List.sublist_append_iff.mp (Text.sublist_of_mem_lines early)
    rcases List.sublist_singleton.mp ended with rfl | rfl
    · exact Or.inl (by rwa [List.append_nil])
    · exact absurd (List.mem_append_right front List.mem_cons_self) single
  · exact Or.inr (Or.inl (own ▸ List.mem_append_right _ inside))
  · exact Or.inr (Or.inr (Text.sublist_of_mem_lines late))

theorem mem_lines_ofFile (settings : ExcerptSettings) (path code : Text) :
    ∀ line ∈ Text.lines (ofFile settings path code),
      line ∈ Text.lines separator ∨ line.Sublist code := by
  intro line member
  by_cases rich : settings.signatureThreshold ≤ (Signature.find (Language.ofPath path) code).length
  · rw [ofFile_of_rich rich] at member
    exact Or.inr
      ((Text.sublist_of_mem_lines member).trans (Signature.join_sublist (List.take_sublist _ _)))
  · rw [ofFile_of_poor (Nat.lt_of_not_le rich)] at member
    rcases mem_lines_separated member with above | between | below
    · exact Or.inr (above.trans (Signature.join_sublist (List.Sublist.refl _)))
    · exact Or.inl between
    · exact Or.inr (below.trans ((Density.busiest_sublist _ _).trans (strip_sublist _ code)))

/-- Source text without its comments is the source text with characters left out. It has no blank
line and no line end around it, and no `#` in the languages where that opens a comment. So the lines
of an excerpt, but for its separator, are made of characters of the file in their order, and the
busiest lines even all together. -/
theorem excerpt_in_file_order :
    (∀ (language : Language) (code : Text),
      (strip language code).Sublist code ∧
      (∀ line ∈ Text.lines (strip language code), Text.isBlank line = false) ∧
      (strip language code).head? ≠ some '\n' ∧ (strip language code).getLast? ≠ some '\n' ∧
      (language = .python ∨ language = .other → '#' ∉ strip language code)) ∧
    ∀ (settings : ExcerptSettings) (path code : Text),
      (Density.busiest settings.excerptLines (strip (Language.ofPath path) code)).Sublist code ∧
      ∀ line ∈ Text.lines (ofFile settings path code), line ∈ Text.lines separator ∨
        line.Sublist code := by
  constructor
  · intro language code
    obtain ⟨t, stripped, -⟩ := exists_strip_eq language code
    have isRows := stripped ▸ isRows_withoutBlankLines t
    refine ⟨strip_sublist language code, fun line member => ?_, isRows.head?_ne, isRows.getLast?_ne,
      fun hashes => ?_⟩
    · exact not_isBlank_of_mem_withoutBlankLines (stripped ▸ member)
    · refine hash_not_mem_strip ?_ code
      rcases hashes with rfl | rfl <;> rfl
  · intro settings path code
    exact ⟨(Density.busiest_sublist _ _).trans (strip_sublist _ code),
      mem_lines_ofFile settings path code⟩

/-- A line with a comment behind it, and comments of other kinds with blanks and line ends around
them. -/
def commented : Text := "a = 1 # x\r\n/* y\n*/ \t\n// z\r"

theorem commented_line_shown :
    ("a = 1 ".toList ∈ Text.lines (strip .other commented) ∧ Text.isBlank "a = 1 " = false) ∧
      ((Language.other = .python ∨ Language.other = .other) ∧ '#' ∉ strip .other commented) ∧
      "a = 1 ".toList ∈ Text.lines (ofFile {} "notes" commented) ∧
        "a = 1 ".toList.Sublist commented := by
  have stripped : strip .other commented = "a = 1 ".toList := by decide
  have listed : "a = 1 ".toList ∈ Text.lines (strip .other commented) := by
    rw [stripped]
    decide
  have poor : (Signature.find (Language.ofPath "notes") commented).length <
      ({} : ExcerptSettings).signatureThreshold := by
    decide
  have busy : Density.busiest 50 (strip .other commented) = "a = 1 ".toList := by
    have scored : Density.scored (strip .other commented) = [⟨0, 8, "a = 1 "⟩] := by decide
    simp [Density.busiest, Density.select, scored, Text.join_singleton]
  have shown : "a = 1 ".toList ∈ Text.lines (ofFile {} "notes" commented) := by
    have whole : ofFile {} "notes" commented = separator ++ "a = 1 ".toList := by
      have none : Signature.find (Language.ofPath "notes") commented = [] := by decide
      have above : Text.join ['\n'] [] = [] := rfl
      rw [ofFile_of_poor poor, none, above, List.nil_append]
      exact congrArg (separator ++ ·) busy
    rw [whole]
    decide
  obtain ⟨-, notBlank, -, -, noHash⟩ := excerpt_in_file_order.1 .other commented
  have other : "a = 1 ".toList ∉ Text.lines separator := by decide
  exact ⟨⟨listed, notBlank _ listed⟩, ⟨Or.inr rfl, noHash (Or.inr rfl)⟩, shown,
    ((excerpt_in_file_order.2 {} "notes" commented).2 _ shown).resolve_left other⟩

end Excerpt
end CodeWiki
