import CodeWiki.Proofs.Unicode
import CodeWiki.Text.LetterCase

/-! Lower case of texts that are put together. The form of a sigma is a matter of its word, and a
blank ends a word, so that what stands on one side of a blank decides on nothing behind the
other. -/
namespace CodeWiki.Text

open Unicode

variable {t : Text}

theorem startsCased_append_blank (t u : Text) : startsCased (t ++ ' ' :: u) = startsCased t := by
  have blank : isCaseIgnorable ' ' = false ∧ isCased ' ' = false := by decide
  induction t with
  | nil => simp [startsCased, blank]
  | cons c t ih => rw [List.cons_append, startsCased, startsCased, ih]

theorem lowerAfter_behind_blank (before earlier t : Text) :
    lowerAfter (before ++ ' ' :: earlier) t = lowerAfter before t := by
  induction t generalizing before with
  | nil => rfl
  | cons c t ih => rw [lowerAfter, lowerAfter, startsCased_append_blank, ← List.cons_append, ih]

theorem lowerAfter_append_blank (before t u : Text) :
    lowerAfter before (t ++ ' ' :: u) = lowerAfter before t ++ ' ' :: toLower u := by
  induction t generalizing before with
  | nil =>
    have blank : lower ' ' = [' '] := by decide
    have behind := lowerAfter_behind_blank [] before u
    rw [List.nil_append] at behind
    rw [List.nil_append, lowerAfter, lowerAfter, if_neg (by decide), blank, behind]
    rfl
  | cons c t ih =>
    rw [List.cons_append, lowerAfter, lowerAfter, startsCased_append_blank, ih, List.append_assoc]

theorem toLower_append_blank (t u : Text) :
    toLower (t ++ ' ' :: u) = toLower t ++ ' ' :: toLower u :=
  lowerAfter_append_blank [] t u

/-- A text stays as it is if each of its characters does; no capital sigma is among them. -/
theorem toLower_of_lower (fixed : ∀ c ∈ t, lower c = [c]) : toLower t = t := by
  have sigma : lower 'Σ' ≠ ['Σ'] := by decide
  have fromHere : ∀ before, lowerAfter before t = t := by
    induction t with
    | nil => exact fun _ => rfl
    | cons c t ih =>
      intro before
      rw [List.forall_mem_cons] at fixed
      have other : c ≠ 'Σ' := by
        rintro rfl
        exact sigma fixed.1
      rw [lowerAfter, if_neg other, fixed.1, ih fixed.2, List.singleton_append]
  exact fromHere []

end CodeWiki.Text
