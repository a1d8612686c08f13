import CodeWiki.Text.Pattern

/-! What it is to match a pattern. A text that begins with a character is matched by just those
patterns that have, among what may follow the character, one that matches the rest; so reading a
text by sets of patterns decides whether it is matched. -/
namespace CodeWiki.Pattern

inductive Matches : Pattern → Text → Prop where
  | empty : Matches .empty []
  | one {set c} (member : set.has c) : Matches (.one set) [c]
  | seq {p q s t} (first : Matches p s) (second : Matches q t) : Matches (.seq p q) (s ++ t)
  | left {p q t} (first : Matches p t) : Matches (.alt p q) t
  | right {p q t} (second : Matches q t) : Matches (.alt p q) t
  | none {p} : Matches (.many p) []
  | more {p s t} (first : Matches p s) (rest : Matches (.many p) t) : Matches (.many p) (s ++ t)

variable {p q : Pattern} {set : CharSet} {c : Char} {t : Text}

theorem matches_empty_iff : Matches empty t ↔ t = [] := by
  constructor
  · intro matched
    cases matched
    rfl
  · rintro rfl
    exact .empty

theorem matches_one_iff : Matches (one set) t ↔ ∃ c, t = [c] ∧ set.has c = true := by
  constructor
  · intro matched
    cases matched with
    | one member => exact ⟨_, rfl, member⟩
  · rintro ⟨c, rfl, member⟩
    exact .one member

theorem matches_seq_iff :
    Matches (seq p q) t ↔ ∃ s u, t = s ++ u ∧ Matches p s ∧ Matches q u := by
  constructor
  · intro matched
    cases matched with
    | seq first second => exact ⟨_, _, rfl, first, second⟩
  · rintro ⟨s, u, rfl, first, second⟩
    exact .seq first second

theorem matches_alt_iff : Matches (alt p q) t ↔ Matches p t ∨ Matches q t := by
  constructor
  · intro matched
    cases matched with
    | left first => exact Or.inl first
    | right second => exact Or.inr second
  · rintro (first | second)
    · exact .left first
    · exact .right second

theorem matches_seq_cons_iff : Matches (seq p q) (c :: t) ↔
    (Matches p [] ∧ Matches q (c :: t)) ∨ ∃ s u, t = s ++ u ∧ Matches p (c :: s) ∧ Matches q u := by
  rw [matches_seq_iff]
  constructor
  · rintro ⟨s, u, whole, first, second⟩
    cases s with
    | nil =>
      obtain rfl : c :: t = u := whole
      exact Or.inl ⟨first, second⟩
    | cons d s =>
      obtain ⟨rfl, rfl⟩ := List.cons.inj whole
      exact Or.inr ⟨s, u, rfl, first, second⟩
  · rintro (⟨first, second⟩ | ⟨s, u, rfl, first, second⟩)
    · exact ⟨[], c :: t, rfl, first, second⟩
    · exact ⟨c :: s, u, rfl, first, second⟩

/-- Of several matches one after another, the first that is not empty takes the first character. -/
theorem matches_many_cons_iff : Matches (many p) (c :: t) ↔
    ∃ s u, t = s ++ u ∧ Matches p (c :: s) ∧ Matches (many p) u := by
  constructor
  · intro matched
    generalize pattern : many p = r at matched
    generalize whole : c :: t = text at matched
    induction matched with
    | empty | one | seq | left | right => cases pattern
    | none => cases whole
    | @more _ s _ first rest _ ih =>
      cases pattern
      cases s with
      | nil => exact ih rfl whole
      | cons d s =>
        obtain ⟨rfl, rfl⟩ := List.cons.inj whole
        exact ⟨s, _, rfl, first, rest⟩
  · rintro ⟨s, u, rfl, first, rest⟩
    exact .more first rest

theorem matchesEmpty_iff (p : Pattern) : p.matchesEmpty = true ↔ Matches p [] := by
  induction p with
  | empty => exact ⟨fun _ => .empty, fun _ => rfl⟩
  | one set => simp [matchesEmpty, matches_one_iff]
  | seq p q first second =>
    rw [matchesEmpty, Bool.and_eq_true, first, second, matches_seq_iff]
    constructor
    · rintro ⟨first, second⟩
      exact ⟨[], [], rfl, first, second⟩
    · rintro ⟨s, u, whole, first, second⟩
      obtain ⟨rfl, rfl⟩ := List.append_eq_nil_iff.mp whole.symm
      exact ⟨first, second⟩
  | alt p q first second => rw [matchesEmpty, Bool.or_eq_true, first, second, matches_alt_iff]
  | many p => exact ⟨fun _ => .none, fun _ => rfl⟩

theorem matches_follow_iff : Matches (follow p q) t ↔ Matches (seq p q) t := by
  cases p with
  | empty =>
    rw [follow, matches_seq_iff]
    constructor
    · intro matched
      exact ⟨[], t, rfl, .empty, matched⟩
    · rintro ⟨s, u, rfl, first, second⟩
      obtain rfl := matches_empty_iff.mp first
      exact second
  | one | seq | alt | many => exact Iff.rfl

theorem exists_follow_iff
    (reads : ∀ s, (∃ r ∈ after c p, Matches r s) ↔ Matches p (c :: s)) :
    (∃ r ∈ (after c p).map (follow · q), Matches r t) ↔
      ∃ s u, t = s ++ u ∧ Matches p (c :: s) ∧ Matches q u := by
  constructor
  · rintro ⟨r, member, matched⟩
    obtain ⟨r, next, rfl⟩ := List.mem_map.mp member
    obtain ⟨s, u, rfl, first, second⟩ := matches_seq_iff.mp (matches_follow_iff.mp matched)
    exact ⟨s, u, rfl, (reads s).mp ⟨r, next, first⟩, second⟩
  · rintro ⟨s, u, rfl, first, second⟩
    obtain ⟨r, next, first⟩ := (reads s).mpr first
    exact ⟨_, List.mem_map_of_mem next, matches_follow_iff.mpr (.seq first second)⟩

/-- A character is read off a text by going on to what may follow it. -/
theorem exists_after_iff (c : Char) (p : Pattern) (t : Text) :
    (∃ r ∈ after c p, Matches r t) ↔ Matches p (c :: t) := by
  induction p generalizing t with
  | empty => simp [after, matches_empty_iff]
  | one set =>
    have own : Matches (one set) (c :: t) ↔ t = [] ∧ set.has c = true := by
      simp [matches_one_iff, and_assoc]
    rw [own, after]
    split <;> simp [matches_empty_iff, *]
  | seq p q first second =>
    have ahead := exists_follow_iff (q := q) (t := t) first
    rw [matches_seq_cons_iff, ← ahead, ← matchesEmpty_iff, ← second t, after]
    split
    · rename_i optional
      simp only [List.mem_append, or_and_right, exists_or, optional, true_and]
      exact or_comm
    · rename_i required
      simp only [required, Bool.false_eq_true, false_and, false_or]
  | alt p q first second =>
    simp only [after, List.mem_append, or_and_right, exists_or, matches_alt_iff, first, second]
  | many p first => rw [after, exists_follow_iff first, matches_many_cons_iff]

theorem anyAccepts_iff (ps : List Pattern) (t : Text) :
    anyAccepts ps t = true ↔ ∃ p ∈ ps, Matches p t := by
  induction t generalizing ps with
  | nil => simp only [anyAccepts, List.any_eq_true, matchesEmpty_iff]
  | cons c t ih =>
    rw [anyAccepts, ih]
    simp only [List.mem_eraseDups, List.mem_flatMap]
    constructor
    · rintro ⟨r, ⟨p, member, next⟩, matched⟩
      exact ⟨p, member, (exists_after_iff c p t).mp ⟨r, next, matched⟩⟩
    · rintro ⟨p, member, matched⟩
      obtain ⟨r, next, matched⟩ := (exists_after_iff c p t).mpr matched
      exact ⟨r, ⟨p, member, next⟩, matched⟩

theorem accepts_iff (p : Pattern) (t : Text) : p.accepts t = true ↔ Matches p t := by
  rw [accepts, anyAccepts_iff]
  simp

section Shapes

theorem matches_text_iff (word : Text) : Matches (text word) t ↔ t = word := by
  induction word generalizing t with
  | nil => exact matches_empty_iff
  | cons c word ih =>
    have single : ∀ d, ({ chars := [c] } : CharSet).has d = true ↔ d = c := by
      simp [CharSet.has]
    rw [text, matches_seq_iff]
    constructor
    · rintro ⟨s, u, rfl, first, rest⟩
      obtain ⟨d, rfl, member⟩ := matches_one_iff.mp first
      rw [(single d).mp member, ih.mp rest]
      rfl
    · rintro rfl
      exact ⟨[c], word, rfl, .one ((single c).mpr rfl), ih.mpr rfl⟩

theorem matches_many_one_iff : Matches (many (one set)) t ↔ ∀ c ∈ t, set.has c = true := by
  induction t with
  | nil => simp [Matches.none]
  | cons c t ih =>
    rw [matches_many_cons_iff, List.forall_mem_cons, ← ih]
    constructor
    · rintro ⟨s, u, rfl, first, rest⟩
      obtain ⟨d, same, member⟩ := matches_one_iff.mp first
      obtain ⟨rfl, rfl⟩ := List.cons.inj same
      exact ⟨member, rest⟩
    · rintro ⟨member, rest⟩
      exact ⟨[], t, rfl, .one member, rest⟩

theorem matches_some_one_iff :
    Matches (some (one set)) t ↔ t ≠ [] ∧ ∀ c ∈ t, set.has c = true := by
  rw [some, matches_seq_iff]
  constructor
  · rintro ⟨s, u, rfl, first, rest⟩
    obtain ⟨c, rfl, member⟩ := matches_one_iff.mp first
    have others := matches_many_one_iff.mp rest
    exact ⟨List.cons_ne_nil c u, List.forall_mem_cons.mpr ⟨member, others⟩⟩
  · rintro ⟨occupied, members⟩
    cases t with
    | nil => exact absurd rfl occupied
    | cons c t =>
      obtain ⟨member, others⟩ := List.forall_mem_cons.mp members
      exact ⟨[c], t, rfl, .one member, matches_many_one_iff.mpr others⟩

theorem matches_anything (t : Text) : Matches anything t :=
  matches_many_one_iff.mpr fun c _ => by simp [CharSet.has, CharSet.all]

theorem matches_optional_iff : Matches (optional p) t ↔ t = [] ∨ Matches p t := by
  rw [optional, matches_alt_iff, matches_empty_iff]
  exact or_comm

theorem matches_optional_seq_iff :
    Matches (seq (optional p) q) t ↔ Matches q t ∨ Matches (seq p q) t := by
  simp only [matches_seq_iff, matches_optional_iff, or_and_right, and_or_left, exists_or]
  constructor
  · rintro (⟨_, u, rfl, rfl, second⟩ | both)
    · exact Or.inl second
    · exact Or.inr both
  · rintro (second | both)
    · exact Or.inl ⟨[], t, rfl, rfl, second⟩
    · exact Or.inr both

end Shapes

end CodeWiki.Pattern
