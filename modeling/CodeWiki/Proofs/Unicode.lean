import CodeWiki.Proofs.Lookup
import CodeWiki.Unicode.Class
import Mathlib.Data.List.Range

/-! The property tables against each other. No white space can be part of a word, every case form
has a character, and none brings in a hyphen. -/
namespace CodeWiki.Unicode

variable {runs : List (Nat × Nat)} {n : Nat} {c : Char}

theorem mem_range_of_inRuns (found : inRuns runs n = true) :
    n ∈ runs.flatMap fun run => List.range' run.1 (run.2 + 1 - run.1) := by
  induction runs with
  | nil => cases found
  | cons run runs ih =>
    obtain ⟨first, last⟩ := run
    rw [inRuns] at found
    split at found
    · cases found
    · rename_i late
      rw [List.flatMap_cons, List.mem_append]
      rcases Bool.or_eq_true_iff.mp found with here | later
      · left
        have bound := of_decide_eq_true here
        exact List.mem_range'_1.mpr ⟨by omega, by omega⟩
      · exact Or.inr (ih later)

/-- No white space is alphabetic, a number or anything else that words are made of. -/
theorem not_inWord_of_isWhiteSpace (white : isWhiteSpace c = true) :
    isWord c = false ∧ isAlphanumeric c = false := by
  have listed := mem_range_of_inRuns white
  rw [← Char.ofNat_toNat c]
  generalize c.toNat = n at listed
  revert n
  decide +kernel

theorem isWord_of_isWhiteSpace (white : isWhiteSpace c = true) : isWord c = false :=
  (not_inWord_of_isWhiteSpace white).1

theorem isAlphanumeric_of_isWhiteSpace (white : isWhiteSpace c = true) : isAlphanumeric c = false :=
  (not_inWord_of_isWhiteSpace white).2

/-! ### Case forms -/

theorem caseForm_ne_nil {runs : List CaseRun} {expansions : List (Nat × List Nat)}
    (filled : ∀ entry ∈ expansions, entry.2 ≠ []) (c : Char) : caseForm runs expansions c ≠ [] := by
  unfold caseForm
  split
  · rename_i codes found
    simpa using filled _ (mem_of_lookup found)
  · exact List.cons_ne_nil _ _

theorem lower_ne_nil (c : Char) : lower c ≠ [] := caseForm_ne_nil (by decide) c

theorem upper_ne_nil (c : Char) : upper c ≠ [] := caseForm_ne_nil (by decide) c

theorem mapRuns_cases (runs : List CaseRun) (n : Nat) : mapRuns runs n = n ∨
    ∃ run ∈ runs, run.first ≤ n ∧ n ≤ run.last ∧ (n - run.first) % run.step = 0 ∧
      mapRuns runs n = ((n : Int) + run.offset).toNat := by
  induction runs with
  | nil => exact Or.inl rfl
  | cons run runs ih =>
    rw [mapRuns]
    split
    · exact Or.inl rfl
    · rename_i late
      split
      · rename_i early
        split
        · rename_i inStep
          exact Or.inr ⟨run, List.mem_cons_self, by omega, early, inStep, rfl⟩
        · exact Or.inl rfl
      · rcases ih with same | ⟨other, member, bounds⟩
        · exact Or.inl same
        · exact Or.inr ⟨other, List.mem_cons_of_mem run member, bounds⟩

theorem eq_of_ofNat_eq_hyphen (same : Char.ofNat n = '-') : n = 0x2D := by
  by_cases valid : n.isValidChar
  · rw [Char.ofNat, dif_pos valid] at same
    exact congrArg Char.toNat same
  · rw [Char.ofNat, dif_neg valid] at same
    cases same

theorem hyphen_not_mem_lower (other : c ≠ '-') : '-' ∉ lower c := by
  have beyond : ∀ run ∈ lowerRuns, (0x2D : Int) < run.first + run.offset := by decide +kernel
  have expanded : ∀ entry ∈ lowerExpansions, '-' ∉ entry.2.map Char.ofNat := by decide
  unfold lower caseForm
  split
  · rename_i codes found
    exact expanded _ (mem_of_lookup found)
  · intro member
    have form := eq_of_ofNat_eq_hyphen (List.mem_singleton.mp member).symm
    rcases mapRuns_cases lowerRuns c.toNat with same | ⟨run, listed, bound, -, -, image⟩
    · exact other (Char.toNat_inj.mp (same.symm.trans form))
    · have far := beyond run listed
      omega

/-- A decimal digit stays as it is. -/
theorem lower_of_isDigit (digit : c.isDigit = true) : isAlphanumeric c = true ∧ lower c = [c] := by
  have digits : ∀ k < 0x3A, 0x30 ≤ k → isAlphanumeric (Char.ofNat k) = true ∧
      lower (Char.ofNat k) = [Char.ofNat k] := by
    decide
  rw [Char.isDigit_iff_toNat] at digit
  have form := digits c.toNat (Nat.lt_succ_of_le digit.2) digit.1
  rwa [Char.ofNat_toNat] at form

end CodeWiki.Unicode
