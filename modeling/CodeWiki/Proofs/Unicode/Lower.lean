import CodeWiki.Proofs.Unicode

/-! Lower-case forms of letters and numbers. They are single letters or numbers that are their own
lower-case form, but for the one of the capital i with a dot: there the dot becomes a character by
itself. -/
namespace CodeWiki.Unicode

variable {runs : List (Nat × Nat)} {caseRuns : List CaseRun} {run other : CaseRun}
  {first last n : Nat} {c : Char}

/-- Whether all code points from `first` to `last` lie in one of the increasing `runs`. -/
def spans : List (Nat × Nat) → Nat → Nat → Bool
  | [], _, _ => false
  | (low, high) :: rest, first, last => low.ble first && (last.ble high || spans rest first last)

theorem exists_of_spans (found : spans runs first last = true) :
    ∃ run ∈ runs, run.1 ≤ first ∧ last ≤ run.2 := by
  induction runs with
  | nil => cases found
  | cons run runs ih =>
    obtain ⟨low, high⟩ := run
    rw [spans, Bool.and_eq_true, Bool.or_eq_true, Nat.ble_eq, Nat.ble_eq] at found
    rcases found.2 with here | later
    · exact ⟨_, List.mem_cons_self, found.1, here⟩
    · obtain ⟨run, member, bounds⟩ := ih later
      exact ⟨run, List.mem_cons_of_mem _ member, bounds⟩

theorem inRuns_of_spans (found : spans runs first last = true) (low : first ≤ n) (high : n ≤ last) :
    inRuns runs n = true := by
  induction runs with
  | nil => cases found
  | cons run runs ih =>
    rw [spans, Bool.and_eq_true, Bool.or_eq_true, Nat.ble_eq, Nat.ble_eq] at found
    rw [inRuns, if_neg (by omega), Bool.or_eq_true, decide_eq_true_eq]
    exact found.2.imp (fun here => by omega) ih

/-! ### Images of runs -/

namespace CaseRun

/-- The form of the first code point of a run. -/
def leastImage (run : CaseRun) : Nat := ((run.first : Int) + run.offset).toNat

def greatestImage (run : CaseRun) : Nat := ((run.last : Int) + run.offset).toNat

/-- Whether no form in the first run has a form of its own in the second, because the second ends
before or because every second code point is taken from both and they alternate. -/
def avoids (run other : CaseRun) : Bool :=
  other.last.blt run.leastImage ||
    (other.step == 2 && (run.step == 2 || run.first == run.last) &&
      (run.leastImage - other.first) % 2 == 1)

theorem bounds_of_image (low : run.first ≤ n) (high : n ≤ run.last) :
    run.leastImage ≤ ((n : Int) + run.offset).toNat ∧
      ((n : Int) + run.offset).toNat ≤ run.greatestImage := by
  unfold leastImage greatestImage
  omega

theorem not_of_avoids (apart : run.avoids other = true) (positive : 0 < run.leastImage)
    (low : run.first ≤ n) (high : n ≤ run.last) (inStep : (n - run.first) % run.step = 0)
    (low' : other.first ≤ ((n : Int) + run.offset).toNat)
    (high' : ((n : Int) + run.offset).toNat ≤ other.last) :
    (((n : Int) + run.offset).toNat - other.first) % other.step ≠ 0 := by
  obtain ⟨least, greatest⟩ := bounds_of_image low high
  simp only [avoids, Bool.or_eq_true, Bool.and_eq_true, beq_iff_eq, Nat.blt_eq] at apart
  rcases apart with behind | ⟨⟨step, single⟩, odd⟩
  · omega
  · rw [step]
    unfold leastImage at odd positive
    rcases single with step' | same
    · rw [step'] at inStep
      omega
    · obtain rfl : n = run.first := by omega
      omega

/-- Whether no form in a run has a form of its own under the increasing `runs`. -/
def clears (run : CaseRun) : List CaseRun → Bool
  | [] => true
  | other :: rest => run.greatestImage.blt other.first || (run.avoids other && run.clears rest)

theorem mapRuns_of_clears (clear : run.clears caseRuns = true) (positive : 0 < run.leastImage)
    (low : run.first ≤ n) (high : n ≤ run.last) (inStep : (n - run.first) % run.step = 0) :
    mapRuns caseRuns ((n : Int) + run.offset).toNat = ((n : Int) + run.offset).toNat := by
  obtain ⟨-, greatest⟩ := bounds_of_image low high
  induction caseRuns with
  | nil => rfl
  | cons other rest ih =>
    rw [clears, Bool.or_eq_true, Bool.and_eq_true, Nat.blt_eq] at clear
    rw [mapRuns]
    split
    · rfl
    · rename_i late
      obtain ⟨apart, clear⟩ := clear.resolve_left (by omega)
      split
      · rename_i early
        exact if_neg (not_of_avoids apart positive low high inStep (by omega) early)
      · exact ih clear

end CaseRun

/-! ### Lower case -/

/-- The forms of a run are letters, and the runs of forms pass over the one letter whose lower case
is not a single character. -/
theorem images_of_mem_lowerRuns (member : run ∈ lowerRuns) :
    spans alphabetic run.leastImage run.greatestImage = true ∧ 0 < run.leastImage ∧
      (run.greatestImage < 0x130 ∨ 0x130 < run.leastImage) := by
  have all : ∀ run ∈ lowerRuns, spans alphabetic run.leastImage run.greatestImage = true ∧
      0 < run.leastImage ∧ (run.greatestImage < 0x130 ∨ 0x130 < run.leastImage) := by
    decide +kernel
  exact all run member

theorem clears_lowerRuns (member : run ∈ lowerRuns) : run.clears lowerRuns = true := by
  have all : lowerRuns.all (fun run => run.clears lowerRuns) = true := by
    decide +kernel
  exact List.all_eq_true.mp all run member

theorem isValidChar_of_spans (found : spans alphabetic first last = true) (low : first ≤ n)
    (high : n ≤ last) : n.isValidChar := by
  have valid : ∀ run ∈ alphabetic, run.2 < 0xD800 ∨ 0xDFFF < run.1 ∧ run.2 < 0x110000 := by
    decide +kernel
  obtain ⟨run, member, bounds⟩ := exists_of_spans found
  have place := valid run member
  unfold Nat.isValidChar
  omega

/-- What a code point is mapped to is a letter and is mapped to itself, unless nothing is
changed. -/
theorem mapRuns_lowerRuns (n : Nat) : mapRuns lowerRuns n = n ∨
    (mapRuns lowerRuns n).isValidChar ∧ mapRuns lowerRuns n ≠ 0x130 ∧
      inRuns alphabetic (mapRuns lowerRuns n) = true ∧
      mapRuns lowerRuns (mapRuns lowerRuns n) = mapRuns lowerRuns n := by
  rcases mapRuns_cases lowerRuns n with same | ⟨run, member, low, high, inStep, image⟩
  · exact Or.inl same
  · right
    obtain ⟨least, greatest⟩ := CaseRun.bounds_of_image low high
    obtain ⟨spanned, positive, passes⟩ := images_of_mem_lowerRuns member
    rw [image]
    exact ⟨isValidChar_of_spans spanned least greatest, by omega,
      inRuns_of_spans spanned least greatest,
      CaseRun.mapRuns_of_clears (clears_lowerRuns member) positive low high inStep⟩

theorem lower_of_toNat_ne (other : c.toNat ≠ 0x130) :
    lower c = [Char.ofNat (mapRuns lowerRuns c.toNat)] := by
  have unlisted : lowerExpansions.lookup c.toNat = none := by
    rw [lowerExpansions, List.lookup_cons, beq_eq_false_iff_ne.mpr other]
    rfl
  rw [lower, caseForm, unlisted]

/-- The lower-case form of a letter or number is one of these, and its own lower-case form. -/
theorem lower_of_ne (alphanumeric : isAlphanumeric c = true) (other : c ≠ 'İ') :
    ∃ d, lower c = [d] ∧ isAlphanumeric d = true ∧ lower d = [d] := by
  have apart : c.toNat ≠ 0x130 := fun same => other (Char.toNat_inj.mp same)
  have form := lower_of_toNat_ne apart
  rcases mapRuns_lowerRuns c.toNat with same | ⟨valid, passes, letter, fixed⟩
  · rw [same, Char.ofNat_toNat] at form
    exact ⟨c, form, alphanumeric, form⟩
  · have code : (Char.ofNat (mapRuns lowerRuns c.toNat)).toNat = mapRuns lowerRuns c.toNat := by
      rw [Char.ofNat, dif_pos valid]
      rfl
    refine ⟨_, form, ?_, ?_⟩
    · rw [isAlphanumeric, code, letter]
      rfl
    · rw [lower_of_toNat_ne (by rwa [code]), code, fixed]

theorem lower_dotted : lower 'İ' = ['i', '\u0307'] := by decide

theorem not_isAlphanumeric_dot : isAlphanumeric '\u0307' = false := by decide

end CodeWiki.Unicode
