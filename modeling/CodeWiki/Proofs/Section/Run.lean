import CodeWiki.Proofs.Section.NormalForm

/-! A slug run by run. It is the runs of letters and numbers of a text in lower case, in order, with
a hyphen between neighbours; where the slug is begun, in the middle or not at all, shows only in the
first hyphen. -/
namespace CodeWiki.Identifier

open Unicode

variable {t first : Text} {later : List Text} {c : Char}

/-- The stretches of a text between the characters that are neither letters nor numbers, empty ones
included. -/
def stretches (t : Text) : List Text := t.splitOnP (!isAlphanumeric ·)

/-- The maximal runs of letters and numbers of a text, in order. -/
def runs (t : Text) : List Text := (stretches t).filter (!·.isEmpty)

/-- The lower-case forms of the characters, each by itself. -/
def lowered (t : Text) : Text := t.flatMap lower

/-- A hyphen and the lower case for each of the texts. -/
def hyphened (texts : List Text) : Text := texts.flatMap fun t => '-' :: lowered t

theorem stretches_other (other : isAlphanumeric c = false) (t : Text) :
    stretches (c :: t) = [] :: stretches t := by
  rw [stretches, List.splitOnP_cons_eq_if_modifyHead, if_pos (by simp [other])]
  rfl

theorem stretches_alphanumeric (alphanumeric : isAlphanumeric c = true)
    (behind : stretches t = first :: later) : stretches (c :: t) = (c :: first) :: later := by
  rw [stretches] at behind ⊢
  rw [List.splitOnP_cons_eq_if_modifyHead, if_neg (by simp [alphanumeric]), behind]
  rfl

theorem runs_other (other : isAlphanumeric c = false) (t : Text) : runs (c :: t) = runs t := by
  rw [runs, stretches_other other]
  rfl

/-- By induction on the text, for both flags at once: behind a written character the first stretch
goes on without a hyphen, behind a gap it is like any other. -/
theorem slugFrom_written (t : Text) :
    (∀ first later, stretches t = first :: later →
      slugFrom true false t = lowered first ++ hyphened (later.filter (!·.isEmpty))) ∧
    slugFrom true true t = hyphened (runs t) := by
  induction t with
  | nil =>
    refine ⟨fun first later whole => ?_, rfl⟩
    obtain ⟨rfl, rfl⟩ := List.cons.inj whole
    rfl
  | cons c t ih =>
    obtain ⟨first, later, behind⟩ := List.exists_cons_of_ne_nil (List.splitOnP_ne_nil _ t)
    cases alphanumeric : isAlphanumeric c with
    | false =>
      rw [slugFrom_other _ _ alphanumeric, slugFrom_other _ _ alphanumeric, runs_other alphanumeric]
      refine ⟨fun first later whole => ?_, ih.2⟩
      obtain ⟨rfl, rfl⟩ := List.cons.inj ((stretches_other alphanumeric t).symm.trans whole)
      exact ih.2
    | true =>
      have longer := stretches_alphanumeric alphanumeric behind
      have goesOn := ih.1 first later behind
      constructor
      · intro first' later' whole
        obtain ⟨rfl, rfl⟩ := List.cons.inj (longer.symm.trans whole)
        rw [slugFrom_alphanumeric _ _ alphanumeric, goesOn]
        simp [lowered]
      · rw [slugFrom_alphanumeric _ _ alphanumeric, goesOn, runs, longer]
        simp [lowered, hyphened]

theorem hyphened_cons (t : Text) (later : List Text) :
    hyphened (t :: later) = '-' :: Text.join ['-'] ((t :: later).map lowered) := by
  induction later generalizing t with
  | nil => simp [hyphened, Text.join_singleton]
  | cons second later ih =>
    rw [List.map_cons, List.map_cons, Text.join_cons_cons, ← List.map_cons, List.singleton_append,
      ← ih]
    rfl

theorem slugify_eq_join (t : Text) : slugify t = Text.join ['-'] ((runs t).map lowered) := by
  have behindGap := (slugFrom_written t).2
  rw [slugFrom_gap] at behindGap
  cases found : runs t with
  | nil =>
    rw [found] at behindGap
    split at behindGap
    · assumption
    · cases behindGap
  | cons first later =>
    rw [found, hyphened_cons] at behindGap
    split at behindGap
    · cases behindGap
    · exact (List.cons.inj behindGap).2

/-- A slug is its text run by run. So it begins and ends without a hyphen and has none behind
another, is empty just if the text has neither letters nor numbers, and comes apart where these
leave a gap. -/
theorem slugify_run_by_run :
    (∀ t : Text,
      slugify t = Text.join ['-'] ((runs t).map lowered) ∧
      ((slugify t).head? ≠ some '-' ∧ (slugify t).getLast? ≠ some '-' ∧
        ¬ ['-', '-'] <:+: slugify t) ∧
      (slugify t = [] ↔ ∀ c ∈ t, isAlphanumeric c = false)) ∧
    ∀ a s b : Text, s ≠ [] → (∀ c ∈ s, isAlphanumeric c = false) →
      slugify (a ++ s ++ b) =
        if slugify a = [] then slugify b
        else if slugify b = [] then slugify a
        else slugify a ++ '-' :: slugify b := by
  constructor
  · intro t
    exact ⟨slugify_eq_join t,
      ⟨head?_slugify_ne t, getLast?_slugify_ne t, not_double_hyphen_slugify t⟩,
      slugify_eq_nil_iff⟩
  · intro a s b occupied separates
    exact slugify_append occupied separates a b

example : runs "--Über\u0307 2½ -" = ["Über".toList, "2½".toList] := by decide

/-- A separator of several characters, once between two slugs and once in front of one. -/
theorem separated_slugs :
    (" — ".toList ≠ [] ∧ ∀ c ∈ " — ".toList, isAlphanumeric c = false) ∧
      slugify ("İzmir (1)".toList ++ " — ".toList ++ "ΟΔΟΣ!".toList) = "i\u0307zmir-1-οδοσ".toList ∧
      slugify ("...".toList ++ " — ".toList ++ "Straße_2".toList) = "straße-2".toList := by
  have separates : ∀ c ∈ " — ".toList, isAlphanumeric c = false := by
    intro c member
    have gap : " — ".toList.all (!isAlphanumeric ·) = true := by decide +kernel
    simpa using List.all_eq_true.mp gap c member
  refine ⟨⟨by decide, separates⟩, ?_, ?_⟩
  · exact (slugify_run_by_run.2 "İzmir (1)" " — " "ΟΔΟΣ!" (by decide) separates).trans (by decide)
  · exact (slugify_run_by_run.2 "..." " — " "Straße_2" (by decide) separates).trans (by decide)

end CodeWiki.Identifier
