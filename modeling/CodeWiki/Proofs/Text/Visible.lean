import CodeWiki.Proofs.Text.Trim

/-! The characters of a text that show. Trimming takes away none of them, so a text can be taken
apart and trimmed piece by piece without loss. -/
namespace CodeWiki.Text

open Unicode

/-- The characters that are not white space, in order. -/
def visible (t : Text) : Text := t.filter (!isWhiteSpace ·)

variable {t u : Text}

@[simp] theorem visible_nil : visible [] = [] := rfl

@[simp] theorem visible_append (t u : Text) : visible (t ++ u) = visible t ++ visible u :=
  List.filter_append t u

theorem visible_cons_of_white {c : Char} (white : isWhiteSpace c = true) (t : Text) :
    visible (c :: t) = visible t :=
  List.filter_cons_of_neg (by simp [white])

theorem visible_eq_nil_iff : visible t = [] ↔ isBlank t = true := by
  simp [visible, isBlank, List.filter_eq_nil_iff]

theorem isBlank_iff : isBlank t = true ↔ ∀ c ∈ t, isWhiteSpace c = true := List.all_eq_true

theorem visible_of_white (white : ∀ c ∈ t, isWhiteSpace c = true) : visible t = [] :=
  visible_eq_nil_iff.mpr (isBlank_iff.mpr white)

theorem visible_dropWhile (t : Text) : visible (t.dropWhile isWhiteSpace) = visible t := by
  have white := visible_of_white (t := t.takeWhile isWhiteSpace)
    (List.all_eq_true.mp List.all_takeWhile)
  calc visible (t.dropWhile isWhiteSpace)
      = visible (t.takeWhile isWhiteSpace ++ t.dropWhile isWhiteSpace) := by
        rw [visible_append, white, List.nil_append]
    _ = visible t := by rw [List.takeWhile_append_dropWhile]

theorem visible_reverse (t : Text) : visible t.reverse = (visible t).reverse := List.filter_reverse

theorem visible_trim (t : Text) : visible (trim t) = visible t := by
  rw [trim, trimWhile, dropEndWhile, visible_reverse, visible_dropWhile, visible_reverse,
    visible_dropWhile, List.reverse_reverse]

theorem trim_eq_nil_iff : trim t = [] ↔ isBlank t = true := by
  constructor
  · intro empty
    rw [← visible_eq_nil_iff, ← visible_trim, empty, visible_nil]
  · intro blank
    rw [trim, trimWhile, List.dropWhile_eq_nil_iff.mpr (isBlank_iff.mp blank)]
    rfl

end CodeWiki.Text
