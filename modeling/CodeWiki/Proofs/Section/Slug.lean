import CodeWiki.Proofs.Unicode
import CodeWiki.Section.Identifier

/-! Slugs of texts that are put together. What is neither letter nor number leaves a hyphen only
between two slugs, so a slug is taken apart again at its hyphens. -/
namespace CodeWiki.Identifier

open Unicode

variable {written gap : Bool} {a b s t u v : Text} {c : Char}

/-- Nothing of a text goes into a slug. -/
def IsGap (t : Text) : Prop := ∀ c ∈ t, isAlphanumeric c = false

theorem slugFrom_alphanumeric (written gap : Bool) (alphanumeric : isAlphanumeric c = true)
    (t : Text) : slugFrom written gap (c :: t) =
      (if written && gap then ['-'] else []) ++ lower c ++ slugFrom true false t := by
  rw [slugFrom, if_pos alphanumeric]

theorem slugFrom_other (written gap : Bool) (other : isAlphanumeric c = false) (t : Text) :
    slugFrom written gap (c :: t) = slugFrom written true t := by
  rw [slugFrom, if_neg (by simp [other])]

/-- In front of a slug a gap leaves nothing. -/
theorem slugFrom_start (gap : Bool) (t : Text) : slugFrom false gap t = slugify t := by
  cases t with
  | nil => rfl
  | cons c t =>
    cases alphanumeric : isAlphanumeric c with
    | true =>
      rw [slugify, slugFrom_alphanumeric _ _ alphanumeric, slugFrom_alphanumeric _ _ alphanumeric]
      rfl
    | false => rw [slugify, slugFrom_other _ _ alphanumeric, slugFrom_other _ _ alphanumeric]

theorem slugify_cons_alphanumeric (alphanumeric : isAlphanumeric c = true) (t : Text) :
    slugify (c :: t) = lower c ++ slugFrom true false t :=
    slugFrom_alphanumeric false false alphanumeric t

theorem slugify_cons_other (other : isAlphanumeric c = false) (t : Text) :
    slugify (c :: t) = slugify t := by
  rw [slugify, slugFrom_other _ _ other, slugFrom_start]

theorem slugify_eq_nil_iff : slugify t = [] ↔ IsGap t := by
  induction t with
  | nil => exact iff_of_true rfl (List.forall_mem_nil _)
  | cons c t ih =>
    rw [IsGap, List.forall_mem_cons]
    cases alphanumeric : isAlphanumeric c with
    | true =>
      have occupied := List.append_ne_nil_of_left_ne_nil (lower_ne_nil c) (slugFrom true false t)
      simp [slugify_cons_alphanumeric alphanumeric, occupied]
    | false => simp [slugify_cons_other alphanumeric, ih, IsGap]

/-- Behind a slug, a hyphen stands for the gap before the next one. -/
theorem slugFrom_gap (t : Text) :
    slugFrom true true t = if slugify t = [] then [] else '-' :: slugify t := by
  induction t with
  | nil => rfl
  | cons c t ih =>
    cases alphanumeric : isAlphanumeric c with
    | true =>
      have occupied := List.append_ne_nil_of_left_ne_nil (lower_ne_nil c) (slugFrom true false t)
      rw [slugify_cons_alphanumeric alphanumeric, if_neg occupied,
        slugFrom_alphanumeric _ _ alphanumeric]
      rfl
    | false => rw [slugify_cons_other alphanumeric, slugFrom_other _ _ alphanumeric, ih]

theorem slugFrom_skip (skipped : IsGap s) (written : Bool) (t : Text) :
    slugFrom written true (s ++ t) = slugFrom written true t := by
  induction s with
  | nil => rfl
  | cons c s ih =>
    rw [IsGap, List.forall_mem_cons] at skipped
    rw [List.cons_append, slugFrom_other _ _ skipped.1, ih skipped.2]

theorem slugFrom_separated (occupied : s ≠ []) (separates : IsGap s) (t : Text) :
    slugFrom written gap (s ++ t) = slugFrom written true t := by
  obtain ⟨c, s, rfl⟩ := List.exists_cons_of_ne_nil occupied
  rw [IsGap, List.forall_mem_cons] at separates
  rw [List.cons_append, slugFrom_other _ _ separates.1, slugFrom_skip separates.2]

/-- By induction on the text before the separator; once a character of it is written, the flag
stays. -/
theorem slugFrom_append_written (occupied : s ≠ []) (separates : IsGap s) (gap : Bool)
    (a b : Text) : slugFrom true gap (a ++ s ++ b) = slugFrom true gap a ++
    slugFrom true true b := by
  induction a generalizing gap with
  | nil => rw [List.nil_append, slugFrom_separated occupied separates]; rfl
  | cons c a ih =>
    cases alphanumeric : isAlphanumeric c with
    | true =>
      rw [List.cons_append, List.cons_append, slugFrom_alphanumeric _ _ alphanumeric,
        slugFrom_alphanumeric _ _ alphanumeric, ih, List.append_assoc _ (slugFrom true false a)]
    | false =>
      rw [List.cons_append, List.cons_append, slugFrom_other _ _ alphanumeric,
        slugFrom_other _ _ alphanumeric, ih]

/-- A separator joins the slugs around it with one hyphen, unless one of them is empty. -/
theorem slugify_append (occupied : s ≠ []) (separates : IsGap s) (a b : Text) :
    slugify (a ++ s ++ b) =
      if slugify a = [] then slugify b
      else if slugify b = [] then slugify a
      else slugify a ++ '-' :: slugify b := by
  induction a with
  | nil =>
    have empty : slugify [] = [] := rfl
    rw [if_pos empty, List.nil_append, slugify, slugFrom_separated occupied separates,
      slugFrom_start]
  | cons c a ih =>
    cases alphanumeric : isAlphanumeric c with
    | true =>
      have written := List.append_ne_nil_of_left_ne_nil (lower_ne_nil c) (slugFrom true false a)
      rw [List.cons_append, List.cons_append, slugify_cons_alphanumeric alphanumeric,
        slugify_cons_alphanumeric alphanumeric, if_neg written,
        slugFrom_append_written occupied separates, slugFrom_gap]
      split <;> simp
    | false =>
      rw [List.cons_append, List.cons_append, slugify_cons_other alphanumeric,
        slugify_cons_other alphanumeric, ih]

theorem isGap_hyphen : IsGap ['-'] := by
  intro c member
  obtain rfl := List.mem_singleton.mp member
  decide

/-! ### Hyphens in slugs -/

theorem ne_hyphen_of_isAlphanumeric (alphanumeric : isAlphanumeric c = true) : c ≠ '-' := by
  rintro rfl
  rw [isGap_hyphen '-' List.mem_cons_self] at alphanumeric
  cases alphanumeric

theorem exists_of_append_eq (absent : '-' ∉ s) (whole : s ++ t = u ++ '-' :: v) :
    ∃ before, t = before ++ '-' :: v := by
  rcases List.append_eq_append_iff.mp whole with ⟨before, -, later⟩ | ⟨reached, front, later⟩
  · exact ⟨before, later⟩
  · cases reached with
    | nil => exact ⟨[], later.symm⟩
    | cons d reached =>
      obtain ⟨rfl, -⟩ := List.cons.inj later
      exact absurd (front ▸ List.mem_append_right u List.mem_cons_self) absent

/-- What follows a hyphen in a slug is itself the slug of an end of the text, and is not empty. -/
theorem exists_of_slugFrom_eq (whole : slugFrom written gap t = u ++ '-' :: v) :
    v ≠ [] ∧ ∃ b, b <:+ t ∧ slugify b = v := by
  induction t generalizing written gap u with
  | nil => simp [slugFrom] at whole
  | cons c t ih =>
    have later : ∀ {flag flag' : Bool} {before : Text}, slugFrom flag flag' t = before ++ '-' :: v →
        v ≠ [] ∧ ∃ b, b <:+ c :: t ∧ slugify b = v := fun whole => by
      obtain ⟨occupied, b, suffix, slug⟩ := ih whole
      exact ⟨occupied, b, suffix.trans (List.suffix_cons c t), slug⟩
    cases alphanumeric : isAlphanumeric c with
    | false =>
      rw [slugFrom_other _ _ alphanumeric] at whole
      exact later whole
    | true =>
      have absent : '-' ∉ lower c := hyphen_not_mem_lower (ne_hyphen_of_isAlphanumeric alphanumeric)
      rw [slugFrom_alphanumeric _ _ alphanumeric] at whole
      cases dash : written && gap with
      | false =>
        rw [dash] at whole
        obtain ⟨before, rest⟩ := exists_of_append_eq absent whole
        exact later rest
      | true =>
        rw [dash, if_pos rfl, List.singleton_append, List.cons_append] at whole
        cases u with
        | nil =>
          obtain ⟨-, rfl⟩ := List.cons.inj whole
          exact ⟨List.append_ne_nil_of_left_ne_nil (lower_ne_nil c) _, c :: t, List.suffix_refl _,
            slugify_cons_alphanumeric alphanumeric t⟩
        | cons d u =>
          obtain ⟨-, whole⟩ := List.cons.inj whole
          obtain ⟨before, rest⟩ := exists_of_append_eq absent whole
          exact later rest

/-! ### Titles with a given slug -/

/-- The text with a hyphen for each character that is passed over. -/
def hyphenated (t : Text) : Text := t.map fun c => if isAlphanumeric c then c else '-'

theorem slugFrom_hyphenated (written gap : Bool) (t : Text) :
    slugFrom written gap (hyphenated t) = slugFrom written gap t := by
  induction t generalizing written gap with
  | nil => rfl
  | cons c t ih =>
    rw [hyphenated, List.map_cons]
    cases alphanumeric : isAlphanumeric c with
    | true =>
      rw [if_pos rfl, slugFrom_alphanumeric _ _ alphanumeric,
        slugFrom_alphanumeric _ _ alphanumeric]
      exact congrArg _ (ih true false)
    | false =>
      rw [if_neg Bool.false_ne_true, slugFrom_other _ _ (isGap_hyphen '-' List.mem_cons_self),
        slugFrom_other _ _ alphanumeric]
      exact ih written true

theorem slugify_hyphenated (t : Text) : slugify (hyphenated t) = slugify t :=
  slugFrom_hyphenated false false t

theorem alphanumeric_or_hyphen (member : c ∈ hyphenated t) : isAlphanumeric c = true ∨ c = '-' := by
  obtain ⟨d, -, rfl⟩ := List.mem_map.mp member
  cases alphanumeric : isAlphanumeric d with
  | true => exact Or.inl alphanumeric
  | false => exact Or.inr rfl

theorem not_isWhiteSpace_of_mem_hyphenated (member : c ∈ hyphenated t) :
    isWhiteSpace c = false := by
  rw [← Bool.not_eq_true]
  intro white
  rcases alphanumeric_or_hyphen member with alphanumeric | rfl
  · rw [isAlphanumeric_of_isWhiteSpace white] at alphanumeric
    cases alphanumeric
  · revert white
    decide

theorem colon_not_mem_hyphenated (t : Text) : ':' ∉ hyphenated t := by
  intro member
  have none : isAlphanumeric ':' = false := by decide
  rcases alphanumeric_or_hyphen member with alphanumeric | hyphen
  · rw [none] at alphanumeric
    cases alphanumeric
  · cases hyphen

end CodeWiki.Identifier
