import CodeWiki.Proofs.Text.Cut
import CodeWiki.Proofs.Text.Trim

/-! Lines of a text: the first one, and what comes behind its end. -/
namespace CodeWiki.Text

/-- The text up to the first line end, or all of it. -/
def firstLine (t : Text) : Text := t.takeWhile (· ≠ '\n')

/-- The text behind the first line end; nothing if there is none. -/
def laterLines (t : Text) : Text := (t.dropWhile (· ≠ '\n')).drop 1

variable {t line : Text}

/-- A text is a single line, or begins with a line and its end. -/
theorem line_cases (t : Text) :
    '\n' ∉ t ∨ ∃ line rest, '\n' ∉ line ∧ t = line ++ '\n' :: rest := by
  by_cases more : '\n' ∈ t
  · obtain ⟨line, rest, whole, single⟩ := List.eq_append_cons_of_mem more
    exact Or.inr ⟨line, rest, single, whole⟩
  · exact Or.inl more

theorem splitOn_line (single : '\n' ∉ line) (rest : Text) :
    (line ++ '\n' :: rest).splitOn '\n' = line :: rest.splitOn '\n' := by
  rw [List.splitOn_eq_splitOnP, List.splitOn_eq_splitOnP]
  exact List.splitOnP_append_cons_of_forall_mem
    (fun c member => by simpa using ne_of_mem_of_not_mem member single) '\n' (by simp) rest

theorem ne_newline_of_single (single : '\n' ∉ line) : ∀ c ∈ line, decide (c ≠ '\n') = true :=
  fun _ member => decide_eq_true (ne_of_mem_of_not_mem member single)

theorem firstLine_of_single (single : '\n' ∉ line) : firstLine line = line :=
  List.takeWhile_eq_self_iff.mpr (ne_newline_of_single single)

theorem laterLines_of_single (single : '\n' ∉ line) : laterLines line = [] := by
  rw [laterLines, List.dropWhile_eq_nil_iff.mpr (ne_newline_of_single single), List.drop_nil]

theorem firstLine_append (single : '\n' ∉ line) (rest : Text) :
    firstLine (line ++ '\n' :: rest) = line :=
  takeWhile_append_of_head (ne_newline_of_single single) (by rintro _ ⟨⟩; decide)

theorem laterLines_append (single : '\n' ∉ line) (rest : Text) :
    laterLines (line ++ '\n' :: rest) = rest := by
  rw [laterLines, dropWhile_append_of_head (ne_newline_of_single single) (by rintro _ ⟨⟩; decide)]
  rfl

end CodeWiki.Text
