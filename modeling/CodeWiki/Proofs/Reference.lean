import CodeWiki.Reference
import Mathlib.Data.List.TakeWhile

/-! Clone URLs and short names. A clone URL ends in a suffix that no trimming removes, so that there
is always something to call the repository by. -/
namespace CodeWiki

open Unicode

variable {reference url : Text} {c : Char} {t : Text}

theorem Text.mem_dropWhile {p : Char → Bool} (member : c ∈ t) (solid : p c = false) :
    c ∈ t.dropWhile p := by
  rw [← List.takeWhile_append_dropWhile (p := p) (l := t)] at member
  rcases List.mem_append.mp member with dropped | kept
  · rw [List.mem_takeWhile_imp dropped] at solid
    cases solid
  · exact kept

theorem Text.mem_trim (member : c ∈ t) (solid : isWhiteSpace c = false) : c ∈ trim t := by
  have left := mem_dropWhile member solid
  have right := mem_dropWhile (List.mem_reverse.mpr left) solid
  exact List.mem_reverse.mpr right

namespace Reference

theorem suffix_of_cloneUrl? (known : cloneUrl? reference = some url) :
    ".git".toList <:+ url := by
  have suffixed : ∀ stem, ".git".toList <:+ withGitSuffix stem :=
    fun stem => List.suffix_append _ _
  unfold cloneUrl? at known
  dsimp only at known
  repeat' split at known
  all_goals cases known
  all_goals exact suffixed _

/-- The short name of a clone URL is what it has of owner and repository, or all of it. -/
theorem slug_ne_nil (known : cloneUrl? reference = some url) : slug url ≠ [] := by
  have whole : Text.trim url ≠ [] := by
    have last : 't' ∈ url := (suffix_of_cloneUrl? known).subset (by decide)
    exact List.ne_nil_of_mem (Text.mem_trim last (by decide +kernel))
  unfold slug
  dsimp only
  split
  · exact whole
  · split
    · simp
    · exact whole

end Reference
end CodeWiki
