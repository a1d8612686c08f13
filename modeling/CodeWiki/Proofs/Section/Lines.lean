import CodeWiki.Proofs.Section.Paragraph
import CodeWiki.Proofs.Text.Line
import CodeWiki.Proofs.Text.Visible
import CodeWiki.Section.Reply

/-! Paragraphs line by line. A break takes the line ends on both sides of a blank line with it, so a
part may still begin or end with a blank line; trimming removes these, and what remains of the part
is a run of lines that are not blank. -/
namespace CodeWiki.Paragraph

open Unicode

/-- Whether a line holds nothing but the white space that a blank line may hold. -/
def isBlankLine (line : Text) : Bool := line.all isLineBlank

/-- The stretches of lines between blank lines. A stretch is empty where blank lines follow one
another. -/
def stretches (t : Text) : List (List Text) := (t.splitOn '\n').splitOnP isBlankLine

/-- The maximal runs of lines that are not blank. -/
def runs (t : Text) : List (List Text) := (stretches t).filter (!·.isEmpty)

def joinLines (lines : List Text) : Text := Text.join ['\n'] lines

/-- Texts trimmed, without the empty ones. -/
def tidy (texts : List Text) : List Text := (texts.map Text.trim).filter (!·.isEmpty)

/-- The parts of a text between breaks. -/
def parts (t : Text) : List Text := (partsFrom 0 t).1 :: (partsFrom 0 t).2

theorem ofText_eq_tidy (t : Text) : ofText t = tidy (parts t) := rfl

variable {t u line blanks rest : Text} {texts texts' : List Text} {c : Char}

theorem isBlankLine_iff : isBlankLine line = true ↔ ∀ c ∈ line, isLineBlank c = true :=
  List.all_eq_true

theorem white_of_isBlankLine (blank : isBlankLine line = true) :
    ∀ c ∈ line, isWhiteSpace c = true :=
  fun c member => isWhiteSpace_of_isLineBlank (isBlankLine_iff.mp blank c member)

theorem white_of_lineEnd (white : ∀ c ∈ t, isWhiteSpace c = true) :
    ∀ c ∈ t ++ ['\n'], isWhiteSpace c = true := by
  intro c member
  rcases List.mem_append.mp member with inside | last
  · exact white c inside
  · obtain rfl := List.mem_singleton.mp last
    decide

/-! ### Tidying -/

theorem tidy_cons (t : Text) (texts : List Text) :
    tidy (t :: texts) = if Text.isBlank t then tidy texts else Text.trim t :: tidy texts := by
  cases blank : Text.isBlank t with
  | true => simp [tidy, Text.trim_eq_nil_iff.mpr blank]
  | false =>
    have kept : Text.trim t ≠ [] := fun empty => by
      rw [Text.trim_eq_nil_iff.mp empty] at blank
      cases blank
    simp [tidy, kept]

theorem tidy_cons_of_white (white : ∀ c ∈ t, isWhiteSpace c = true) (texts : List Text) :
    tidy (t :: texts) = tidy texts := by
  rw [tidy_cons, if_pos (Text.isBlank_iff.mpr white)]

theorem tidy_cons_congr (first : Text.trim t = Text.trim u) (later : tidy texts = tidy texts') :
    tidy (t :: texts) = tidy (u :: texts') := by
  simp only [tidy, List.map_cons, first, List.filter_cons] at later ⊢
  rw [later]

/-! ### Breaks at the ends of lines -/

theorem takeWhile_isLineBlank (blank : isBlankLine line = true) (rest : Text) :
    (line ++ '\n' :: rest).takeWhile isLineBlank = line :=
  Text.takeWhile_append_of_head (isBlankLine_iff.mp blank) (by rintro _ ⟨⟩; decide)

theorem dropWhile_isLineBlank (blank : isBlankLine line = true) (rest : Text) :
    (line ++ '\n' :: rest).dropWhile isLineBlank = '\n' :: rest :=
  Text.dropWhile_append_of_head (isBlankLine_iff.mp blank) (by rintro _ ⟨⟩; decide)

theorem breakLength?_blankLine (blank : isBlankLine line = true) (rest : Text) :
    breakLength? ('\n' :: (line ++ '\n' :: rest)) = some (line.length + 2) := by
  simp only [breakLength?, dropWhile_isLineBlank blank, takeWhile_isLineBlank blank]

theorem breakLength?_of_no_blankLine
    (none : ∀ line rest, isBlankLine line = true → t ≠ line ++ '\n' :: rest) :
    breakLength? ('\n' :: t) = Option.none := by
  cases found : breakLength? ('\n' :: t) with
  | none => rfl
  | some n =>
    obtain ⟨_, ⟨blanks, rfl, blank⟩, rest, same⟩ := prefix_of_breakLength? found
    refine absurd ?_ (none blanks rest (isBlankLine_iff.mpr blank))
    simpa using (List.cons.inj same).2.symm

theorem partsFrom_skip (skipped t : Text) :
    partsFrom skipped.length (skipped ++ t) = partsFrom 0 t := by
  induction skipped with
  | nil => rfl
  | cons c skipped ih => exact ih

theorem partsFrom_cons (unbroken : breakLength? (c :: t) = none) :
    partsFrom 0 (c :: t) = (c :: (partsFrom 0 t).1, (partsFrom 0 t).2) := by
  simp only [partsFrom, unbroken]

theorem partsFrom_line (single : '\n' ∉ line) (t : Text) :
    partsFrom 0 (line ++ t) = (line ++ (partsFrom 0 t).1, (partsFrom 0 t).2) := by
  induction line with
  | nil => rfl
  | cons c line ih =>
    rw [List.mem_cons, not_or] at single
    have unbroken : breakLength? (c :: (line ++ t)) = none := by
      unfold breakLength?
      split
      · rename_i same
        exact absurd (List.cons.inj same).1.symm single.1
      · rfl
    rw [List.cons_append, partsFrom_cons unbroken, ih single.2, List.cons_append]

theorem parts_line (single : '\n' ∉ line) : parts line = [line] := by
  have whole := partsFrom_line single []
  rw [List.append_nil] at whole
  rw [parts, whole]
  simp [partsFrom]

/-- A blank line between two line ends is the end of a part. -/
theorem parts_blankLine (single : '\n' ∉ line) (blank : isBlankLine blanks = true) (rest : Text) :
    parts (line ++ '\n' :: (blanks ++ '\n' :: rest)) = line :: parts rest := by
  have skipped := partsFrom_skip (blanks ++ ['\n']) rest
  rw [List.length_append, List.length_singleton, List.append_assoc,
    List.singleton_append] at skipped
  have ended : partsFrom 0 ('\n' :: (blanks ++ '\n' :: rest)) = ([], parts rest) := by
    simp only [partsFrom, breakLength?_blankLine blank, skipped, parts]
  rw [parts, partsFrom_line single, ended, List.append_nil]

theorem parts_lineEnd (single : '\n' ∉ line)
    (none : ∀ blanks rest', isBlankLine blanks = true → rest ≠ blanks ++ '\n' :: rest') :
    parts (line ++ '\n' :: rest) = (line ++ '\n' :: (partsFrom 0 rest).1) ::
      (partsFrom 0 rest).2 := by
  rw [parts, partsFrom_line single, partsFrom_cons (breakLength?_of_no_blankLine none)]

/-! ### Stretches of lines -/

theorem stretches_line (single : '\n' ∉ line) :
    stretches line = if isBlankLine line then [[], []] else [[line]] := by
  rw [stretches, List.splitOn_eq_singleton single, List.splitOnP_cons_eq_if_modifyHead]
  rfl

theorem stretches_cons (single : '\n' ∉ line) (rest : Text) :
    stretches (line ++ '\n' :: rest) =
      if isBlankLine line then [] :: stretches rest
      else (stretches rest).modifyHead (line :: ·) := by
  rw [stretches, Text.splitOn_line single, List.splitOnP_cons_eq_if_modifyHead]
  rfl

/-- The first part is the first stretch, but for white space behind it, and the others come to the
same as the other stretches. -/
def Opens (t : Text) : Prop := ∃ line lines white later later',
  parts t = (joinLines (line :: lines) ++ white) :: later ∧
  stretches t = (line :: lines) :: later' ∧
    (∀ c ∈ white, isWhiteSpace c = true) ∧ tidy later = tidy (later'.map joinLines)

theorem Opens.tidy_eq (opens : Opens t) : tidy (parts t) = tidy ((stretches t).map joinLines) := by
  obtain ⟨line, lines, white, later, later', parts, stretches, blank, same⟩ := opens
  rw [parts, stretches, List.map_cons]
  exact tidy_cons_congr (Text.trimWhile_append_right blank _) same

theorem joinLines_cons (first second : Text) (lines : List Text) :
    joinLines (first :: second :: lines) = first ++ '\n' :: joinLines (second :: lines) :=
  Text.join_cons_cons ['\n'] first second lines

theorem joinLines_singleton (line : Text) : joinLines [line] = line :=
  Text.join_singleton ['\n'] line

theorem ne_of_single (single : '\n' ∉ t) : t ≠ line ++ '\n' :: rest := by
  rintro rfl
  simp at single

theorem single_of_isBlankLine (blank : isBlankLine line = true) : '\n' ∉ line := by
  intro member
  have lineBlank := isBlankLine_iff.mp blank '\n' member
  revert lineBlank
  decide

theorem Opens.ne_blankLine (opens : Opens t) (blank : isBlankLine line = true) (rest : Text) :
    t ≠ line ++ '\n' :: rest := by
  rintro rfl
  obtain ⟨_, _, _, _, _, -, stretches, -⟩ := opens
  rw [stretches_cons (single_of_isBlankLine blank), if_pos blank] at stretches
  cases stretches

theorem opens_line (single : '\n' ∉ line) (solid : isBlankLine line = false) : Opens line := by
  refine ⟨line, [], [], [], [], ?_, ?_, by simp, rfl⟩
  · rw [parts_line single, joinLines_singleton, List.append_nil]
  · rw [stretches_line single, solid]
    rfl

theorem Opens.cons (opens : Opens rest) (single : '\n' ∉ line) (solid : isBlankLine line = false) :
    Opens (line ++ '\n' :: rest) := by
  have ended := parts_lineEnd single fun blanks rest' blank => opens.ne_blankLine blank rest'
  obtain ⟨second, lines, white, later, later', parts, stretches, blank, same⟩ := opens
  obtain ⟨first, others⟩ := List.cons.inj parts
  refine ⟨line, second :: lines, white, later, later', ?_, ?_, blank, same⟩
  · rw [ended, first, others, joinLines_cons, List.append_assoc, List.cons_append]
  · rw [stretches_cons single, solid, stretches]
    rfl

/-- A blank last line stays with the part before it. -/
theorem opens_blank_last (single : '\n' ∉ line) (solid : isBlankLine line = false)
    (blank : isBlankLine blanks = true) : Opens (line ++ '\n' :: blanks) := by
  have last := single_of_isBlankLine blank
  have alone := parts_line last
  obtain ⟨first, others⟩ := List.cons.inj alone
  refine ⟨line, [], '\n' :: blanks, [], [[]], ?_, ?_, ?_, rfl⟩
  · rw [parts_lineEnd single fun _ _ _ => ne_of_single last, first, others, joinLines_singleton]
  · rw [stretches_cons single, solid, stretches_line last, blank]
    rfl
  · intro c member
    rcases List.mem_cons.mp member with rfl | inside
    · decide
    · exact white_of_isBlankLine blank c inside

theorem tidy_parts_cons_blank (opens : Opens rest) (blank : isBlankLine line = true) :
    tidy (parts (line ++ '\n' :: rest)) =
      tidy ((stretches (line ++ '\n' :: rest)).map joinLines) := by
  have single := single_of_isBlankLine blank
  have white := white_of_lineEnd (white_of_isBlankLine blank)
  have ended := parts_lineEnd single fun blanks rest' blank => opens.ne_blankLine blank rest'
  have moved : line ++ '\n' :: (partsFrom 0 rest).1 = (line ++ ['\n']) ++ (partsFrom 0 rest).1 := by
    simp
  calc tidy (parts (line ++ '\n' :: rest))
      = tidy (parts rest) := by
        rw [ended, moved]
        exact tidy_cons_congr (Text.trimWhile_append_left white _) rfl
    _ = tidy ((stretches rest).map joinLines) := opens.tidy_eq
    _ = tidy ((stretches (line ++ '\n' :: rest)).map joinLines) := by
        rw [stretches_cons single, if_pos blank]
        rfl

/-- Two blank lines at the end of the text. -/
theorem tidy_parts_blank_last (blank : isBlankLine line = true) (last : isBlankLine blanks = true) :
    tidy (parts (line ++ '\n' :: blanks)) =
      tidy ((stretches (line ++ '\n' :: blanks)).map joinLines) := by
  have single := single_of_isBlankLine last
  obtain ⟨first, others⟩ := List.cons.inj (parts_line single)
  have white : ∀ c ∈ line ++ '\n' :: blanks, isWhiteSpace c = true := by
    rw [List.append_cons]
    intro c member
    rcases List.mem_append.mp member with before | after
    · exact white_of_lineEnd (white_of_isBlankLine blank) c before
    · exact white_of_isBlankLine last c after
  rw [parts_lineEnd (single_of_isBlankLine blank) fun _ _ _ => ne_of_single single, first, others,
    tidy_cons_of_white white, stretches_cons (single_of_isBlankLine blank), if_pos blank,
    stretches_line single, if_pos last]
  rfl

/-- A blank line that is not the last ends the part, and takes its line end along. -/
theorem opens_blankLine (single : '\n' ∉ line) (solid : isBlankLine line = false)
    (blank : isBlankLine blanks = true)
    (later : tidy (parts rest) = tidy ((stretches rest).map joinLines)) :
    Opens (line ++ '\n' :: (blanks ++ '\n' :: rest)) := by
  refine ⟨line, [], [], parts rest, stretches rest, ?_, ?_, by simp, later⟩
  · rw [parts_blankLine single blank, joinLines_singleton, List.append_nil]
  · rw [stretches_cons single, solid, stretches_cons (single_of_isBlankLine blank), if_pos blank]
    rfl

theorem tidy_parts_cons_blankLine (blank : isBlankLine line = true)
    (second : isBlankLine blanks = true)
    (later : tidy (parts rest) = tidy ((stretches rest).map joinLines)) :
    tidy (parts (line ++ '\n' :: (blanks ++ '\n' :: rest))) =
      tidy ((stretches (line ++ '\n' :: (blanks ++ '\n' :: rest))).map joinLines) := by
  have single := single_of_isBlankLine blank
  rw [parts_blankLine single second, tidy_cons_of_white (white_of_isBlankLine blank), later,
    stretches_cons single, if_pos blank, stretches_cons (single_of_isBlankLine second),
    if_pos second]
  rfl

/-- By induction on the length of the text. Where a break is found the induction goes on behind the
blank line that it takes along; a text that begins with a blank line says nothing about its first
part. -/
theorem tidy_parts (t : Text) : tidy (parts t) = tidy ((stretches t).map joinLines) ∧
    (isBlankLine (Text.firstLine t) = false → Opens t) := by
  induction size : t.length using Nat.strongRecOn generalizing t with
  | ind n ih =>
    subst size
    rcases Text.line_cases t with single | ⟨line, rest, single, rfl⟩
    · rw [Text.firstLine_of_single single]
      cases blank : isBlankLine t with
      | true =>
        refine ⟨?_, Bool.noConfusion⟩
        rw [parts_line single, stretches_line single, if_pos blank,
          tidy_cons_of_white (white_of_isBlankLine blank)]
        rfl
      | false =>
        have opens := opens_line single blank
        exact ⟨opens.tidy_eq, fun _ => opens⟩
    · rw [Text.firstLine_append single]
      have shorter : rest.length < (line ++ '\n' :: rest).length := by simp; omega
      cases next : isBlankLine (Text.firstLine rest) with
      | false =>
        have opens := (ih _ shorter rest rfl).2 next
        cases blank : isBlankLine line with
        | true => exact ⟨tidy_parts_cons_blank opens blank, Bool.noConfusion⟩
        | false => exact ⟨(opens.cons single blank).tidy_eq, fun _ => opens.cons single blank⟩
      | true =>
        rcases Text.line_cases rest with last | ⟨blanks, rest', last, rfl⟩
        · rw [Text.firstLine_of_single last] at next
          cases blank : isBlankLine line with
          | true => exact ⟨tidy_parts_blank_last blank next, Bool.noConfusion⟩
          | false =>
            have opens := opens_blank_last single blank next
            exact ⟨opens.tidy_eq, fun _ => opens⟩
        · rw [Text.firstLine_append last] at next
          have later := (ih rest'.length (by simp; omega) rest' rfl).1
          cases blank : isBlankLine line with
          | true => exact ⟨tidy_parts_cons_blankLine blank next later, Bool.noConfusion⟩
          | false =>
            have opens := opens_blankLine single blank next later
            exact ⟨opens.tidy_eq, fun _ => opens⟩

theorem tidy_stretches (t : Text) :
    tidy ((stretches t).map joinLines) = tidy ((runs t).map joinLines) := by
  rw [runs]
  induction stretches t with
  | nil => rfl
  | cons lines later ih =>
    cases lines with
    | nil =>
      rw [List.map_cons, tidy_cons_of_white (by simp [joinLines, Text.join]), ih]
      rfl
    | cons line lines =>
      rw [List.filter_cons_of_pos rfl, List.map_cons, List.map_cons]
      exact tidy_cons_congr rfl ih

/-- The paragraphs of a text are its runs of lines that are not blank, each joined and trimmed. -/
theorem ofText_eq_tidy_runs (t : Text) : ofText t = tidy ((runs t).map joinLines) :=
  (tidy_parts t).1.trans (tidy_stretches t)

example : runs "one\r\n\r\n \t\n\n two\nthree" =
    [["one\r".toList], [" two".toList, "three".toList]] := by decide

end CodeWiki.Paragraph
