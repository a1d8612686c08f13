import Mathlib.Data.List.Forall2
import CodeWiki.Proofs.Text.Line

/-! Texts line by line, and texts that are written row by row. Rows with something in them and
without line ends can be told from the text, and no blank line comes between them. -/
namespace CodeWiki.Text

variable {rows rows' : List Text} {line row rest t u : Text}

/-! ### Lines -/

/-- A statement about texts goes from line to line. -/
theorem induction_lines {statement : Text → Prop} (single : ∀ line, '\n' ∉ line → statement line)
    (more : ∀ line rest, '\n' ∉ line → statement rest → statement (line ++ '\n' :: rest))
    (t : Text) : statement t := by
  induction size : t.length using Nat.strongRecOn generalizing t with
  | ind n ih =>
    rcases line_cases t with alone | ⟨line, rest, alone, rfl⟩
    · exact single t alone
    · refine more line rest alone (ih rest.length ?_ rest rfl)
      rw [← size, List.length_append, List.length_cons]
      omega

/-- A line without the carriage return that belongs to its end. -/
def withoutReturn (line : Text) : Text := (before? ['\r'] line).getD line

theorem lines_of_single (single : '\n' ∉ line) : lines line = if line = [] then [] else [line] := by
  rw [lines, List.splitOn_eq_singleton single]
  cases line <;> rfl

theorem lines_line (single : '\n' ∉ line) (rest : Text) :
    lines (line ++ '\n' :: rest) = withoutReturn line :: lines rest := by
  obtain ⟨first, later, parts⟩ := List.exists_cons_of_ne_nil (List.splitOn_ne_nil '\n' rest)
  rw [lines, lines, splitOn_line single, parts, List.dropLast_cons_cons, List.getLast?_cons_cons,
    List.map_cons]
  split <;> rfl

theorem withoutReturn_cases (line : Text) :
    line = withoutReturn line ∨ line = withoutReturn line ++ ['\r'] := by
  unfold withoutReturn
  cases found : before? ['\r'] line with
  | none => exact Or.inl rfl
  | some shorter => exact Or.inr (before?_eq_some_iff.mp found)

theorem isPrefix_withoutReturn (line : Text) : withoutReturn line <+: line := by
  rcases withoutReturn_cases line with same | longer
  · exact ⟨[], (List.append_nil _).trans same.symm⟩
  · exact ⟨['\r'], longer.symm⟩

theorem newline_not_mem_of_mem_lines (member : line ∈ lines t) : '\n' ∉ line := by
  induction t using induction_lines with
  | single whole alone =>
    rw [lines_of_single alone] at member
    split at member
    · cases member
    · rwa [List.mem_singleton.mp member]
  | more whole rest alone ih =>
    rw [lines_line alone] at member
    rcases List.mem_cons.mp member with rfl | later
    · exact fun inside => alone ((isPrefix_withoutReturn whole).mem inside)
    · exact ih later

/-- Some of the lines of a text, written row by row, are in the text. -/
theorem join_sublist (kept : rows.Sublist (lines t)) : (join ['\n'] rows).Sublist t := by
  induction t using induction_lines generalizing rows with
  | single line alone =>
    rw [lines_of_single alone] at kept
    split at kept
    · rw [List.sublist_nil.mp kept]
      exact List.nil_sublist _
    · rcases List.sublist_singleton.mp kept with rfl | rfl
      · exact List.nil_sublist _
      · rw [join_singleton]
  | more line rest alone ih =>
    rw [lines_line alone] at kept
    have first : (withoutReturn line).Sublist line := (isPrefix_withoutReturn line).sublist
    rcases List.sublist_cons_iff.mp kept with later | ⟨others, rfl, later⟩
    · exact (ih later).trans ((List.sublist_cons_self '\n' rest).trans
        (List.sublist_append_right line _))
    · cases others with
      | nil =>
        rw [join_singleton]
        exact first.trans (List.sublist_append_left line _)
      | cons second others =>
        rw [join_cons_cons, List.singleton_append]
        exact first.append ((ih later).cons_cons '\n')

theorem sublist_of_mem_lines (member : line ∈ lines t) : line.Sublist t := by
  have alone := join_sublist (List.singleton_sublist.mpr member)
  rwa [join_singleton] at alone

/-- Rows that are parts of other rows make up a part of the text that these do. -/
theorem join_sublist_join {sep : Text} (each : List.Forall₂ List.Sublist rows rows') :
    (join sep rows).Sublist (join sep rows') := by
  induction each with
  | nil => exact List.Sublist.refl _
  | cons first later ih =>
    cases later with
    | nil => simpa only [join_singleton] using first
    | cons second others =>
      rw [join_cons_cons, join_cons_cons]
      exact first.append (ih.append_left sep)

/-- A line end divides the lines of a text. -/
theorem lines_append_newline (t u : Text) :
    lines (t ++ '\n' :: u) = lines (t ++ ['\n']) ++ lines u := by
  induction t using induction_lines with
  | single line alone =>
    rw [lines_line alone, lines_line alone]
    rfl
  | more line rest alone ih =>
    rw [List.append_assoc, List.append_assoc, List.cons_append, List.cons_append, lines_line alone,
      lines_line alone, ih]
    rfl

/-! ### Rows -/

/-- A text that is written in these rows, each with something in it. -/
structure IsRows (rows : List Text) (t : Text) : Prop where
  text : t = join ['\n'] rows
  occupied : ∀ row ∈ rows, row ≠ []
  single : ∀ row ∈ rows, '\n' ∉ row

theorem join_eq_nil_iff (occupied : ∀ row ∈ rows, row ≠ []) :
    join ['\n'] rows = [] ↔ rows = [] := by
  constructor
  · intro empty
    cases rows with
    | nil => rfl
    | cons row rest =>
      have first := occupied row List.mem_cons_self
      obtain ⟨c, row, rfl⟩ := List.exists_cons_of_ne_nil first
      rw [cons_join] at empty
      cases empty
  · rintro rfl
    rfl

theorem IsRows.splitOn (isRows : IsRows rows t) (more : rows ≠ []) : t.splitOn '\n' = rows := by
  rw [isRows.text]
  exact List.splitOn_intercalate '\n' isRows.single more

theorem IsRows.eq_nil_iff (isRows : IsRows rows t) : t = [] ↔ rows = [] := by
  rw [isRows.text]
  exact join_eq_nil_iff isRows.occupied

/-- The rows are known from the text. -/
theorem IsRows.unique (isRows : IsRows rows t) (isRows' : IsRows rows' t) : rows' = rows := by
  by_cases more : rows = []
  · have empty := isRows.eq_nil_iff.mpr more
    rw [more, isRows'.eq_nil_iff.mp empty]
  · have more' : rows' ≠ [] := fun none => more (isRows.eq_nil_iff.mp (isRows'.eq_nil_iff.mpr none))
    rw [← isRows.splitOn more, isRows'.splitOn more']

theorem IsRows.sublist (isRows : IsRows rows t) (fewer : rows'.Sublist rows) :
    IsRows rows' (join ['\n'] rows') :=
  ⟨rfl, fun other member => isRows.occupied other (fewer.mem member),
    fun other member => isRows.single other (fewer.mem member)⟩

theorem IsRows.tail (isRows : IsRows (row :: rows) t) : IsRows rows (join ['\n'] rows) :=
  isRows.sublist (List.sublist_cons_self row rows)

/-- The lines of a text are its rows, but for a carriage return that is taken to belong to a line's
end. -/
theorem IsRows.forall₂_lines (isRows : IsRows rows t) :
    List.Forall₂ (fun row line => row = line ∨ row = line ++ ['\r']) rows (lines t) := by
  rw [isRows.text]
  induction rows generalizing t with
  | nil => exact List.Forall₂.nil
  | cons row rest ih =>
    have single := isRows.single row List.mem_cons_self
    have later := ih isRows.tail
    cases rest with
    | nil =>
      rw [join_singleton, lines_of_single single, if_neg (isRows.occupied row List.mem_cons_self)]
      exact List.Forall₂.cons (Or.inl rfl) List.Forall₂.nil
    | cons second rest =>
      rw [join_cons_cons, List.singleton_append, lines_line single]
      exact List.Forall₂.cons (withoutReturn_cases row) later

theorem IsRows.lines_eq (isRows : IsRows rows t) (ends : ∀ row ∈ rows, row.getLast? ≠ some '\r') :
    lines t = rows := by
  have each := isRows.forall₂_lines
  clear isRows
  generalize lines t = found at each ⊢
  induction each with
  | nil => rfl
  | @cons row line rows found first later ih =>
    rw [ih fun other member => ends other (List.mem_cons_of_mem _ member)]
    rcases first with rfl | longer
    · rfl
    · have last := ends row List.mem_cons_self
      rw [longer] at last
      simp at last

theorem IsRows.mem_lines (isRows : IsRows rows t) (member : line ∈ lines t) :
    ∃ row ∈ rows, row = line ∨ row = line ++ ['\r'] := by
  have each := isRows.forall₂_lines
  clear isRows
  generalize lines t = found at each member
  induction each with
  | nil => cases member
  | cons first later ih =>
    rcases List.mem_cons.mp member with rfl | inside
    · exact ⟨_, List.mem_cons_self, first⟩
    · obtain ⟨row, listed, same⟩ := ih inside
      exact ⟨row, List.mem_cons_of_mem _ listed, same⟩

/-! ### Blank lines -/

/-- Two line ends follow each other only where a line has nothing in it. -/
theorem not_infix_blankLine (single : '\n' ∉ line) (begins : rest.head? ≠ some '\n')
    (without : ¬ ['\n', '\n'] <:+: rest) : ¬ ['\n', '\n'] <:+: line ++ '\n' :: rest := by
  induction line with
  | nil =>
    rw [List.nil_append, List.infix_cons_iff, not_or]
    refine ⟨fun found => begins ?_, without⟩
    obtain ⟨later, same⟩ := (List.cons_prefix_cons.mp found).2
    rw [← same]
    rfl
  | cons c line ih =>
    rw [List.mem_cons, not_or] at single
    rw [List.cons_append, List.infix_cons_iff, not_or]
    exact ⟨fun found => single.1 (List.cons_prefix_cons.mp found).1, ih single.2⟩

theorem IsRows.head?_ne (isRows : IsRows rows t) : t.head? ≠ some '\n' := by
  rw [isRows.text]
  cases rows with
  | nil => rintro ⟨⟩
  | cons row rest =>
    have single := isRows.single row List.mem_cons_self
    obtain ⟨c, row, rfl⟩ := List.exists_cons_of_ne_nil (isRows.occupied row List.mem_cons_self)
    rw [cons_join, List.head?_cons]
    rintro ⟨⟩
    exact single List.mem_cons_self

theorem IsRows.getLast?_ne (isRows : IsRows rows t) : t.getLast? ≠ some '\n' := by
  induction rows generalizing t with
  | nil =>
    rw [isRows.text]
    exact nofun
  | cons row rest ih =>
    have later := ih isRows.tail
    rw [isRows.text]
    cases rest with
    | nil =>
      rw [join_singleton]
      exact fun last => isRows.single row List.mem_cons_self (List.mem_of_getLast? last)
    | cons second rest =>
      have occupied : join ['\n'] (second :: rest) ≠ [] := fun empty =>
        List.cons_ne_nil second rest (isRows.tail.eq_nil_iff.mp empty)
      rwa [join_cons_cons, ← List.append_assoc, List.getLast?_append_of_ne_nil _ occupied]

theorem IsRows.not_infix_blankLine (isRows : IsRows rows t) : ¬ ['\n', '\n'] <:+: t := by
  induction rows generalizing t with
  | nil =>
    rw [isRows.text]
    decide
  | cons row rest ih =>
    have single := isRows.single row List.mem_cons_self
    have later := ih isRows.tail
    rw [isRows.text]
    cases rest with
    | nil =>
      rw [join_singleton]
      exact fun found => single (found.subset List.mem_cons_self)
    | cons second rest =>
      rw [join_cons_cons, List.singleton_append]
      exact Text.not_infix_blankLine single isRows.tail.head?_ne later

end CodeWiki.Text
