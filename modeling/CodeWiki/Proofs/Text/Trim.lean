import CodeWiki.Text.Basic
import Mathlib.Data.List.DropRight

/-! What trimming takes away is known from the characters at the ends: a text that begins and ends
with characters of another kind comes out of its surroundings as it is. -/
namespace CodeWiki.Text

variable {p : Char → Bool} {before t after : Text}

theorem dropWhile_of_head (solid : ∀ c, t.head? = some c → p c = false) : t.dropWhile p = t := by
  cases t with
  | nil => rfl
  | cons c t => exact List.dropWhile_cons_of_neg (by simp [solid c rfl])

theorem dropWhile_append_of_head (all : ∀ c ∈ before, p c = true)
    (solid : ∀ c, t.head? = some c → p c = false) : (before ++ t).dropWhile p = t := by
  rw [List.dropWhile_append_of_pos all, dropWhile_of_head solid]

theorem takeWhile_append_of_head (all : ∀ c ∈ before, p c = true)
    (solid : ∀ c, t.head? = some c → p c = false) : (before ++ t).takeWhile p = before := by
  rw [List.takeWhile_append_of_pos all]
  cases t with
  | nil => exact List.append_nil before
  | cons c t => rw [List.takeWhile_cons_of_neg (by simp [solid c rfl]), List.append_nil]

theorem dropEndWhile_concat_of_pos {c : Char} (holds : p c = true) :
    dropEndWhile p (t ++ [c]) = dropEndWhile p t :=
  List.rdropWhile_concat_pos p t c holds

theorem dropEndWhile_of_last (solid : ∀ c, t.getLast? = some c → p c = false) :
    dropEndWhile p t = t := by
  apply List.rdropWhile_eq_self_iff.mpr
  intro occupied
  simp [solid _ (List.getLast?_eq_some_getLast occupied)]

theorem getLast?_dropEndWhile {c : Char} (last : (dropEndWhile p t).getLast? = some c) :
    p c = false := by
  have occupied : dropEndWhile p t ≠ [] := by
    intro empty
    rw [empty] at last
    cases last
  rw [List.getLast?_eq_some_getLast occupied] at last
  cases last
  exact Bool.eq_false_iff.mpr (List.rdropWhile_last_not p t occupied)

theorem isPrefix_dropEndWhile (p : Char → Bool) (t : Text) : dropEndWhile p t <+: t :=
  List.rdropWhile_prefix p t

theorem trimWhile_infix (p : Char → Bool) (t : Text) : trimWhile p t <:+: t :=
  (isPrefix_dropEndWhile p _).isInfix.trans (List.dropWhile_suffix p).isInfix

/-- A text with a solid end is out of reach for what is dropped behind it. -/
theorem dropEndWhile_append (solid : ∀ c, t.getLast? = some c → p c = false) (after : Text) :
    dropEndWhile p (t ++ after) = t ++ dropEndWhile p after := by
  induction after using List.reverseRecOn with
  | nil =>
    rw [List.append_nil, dropEndWhile_of_last solid]
    exact (List.append_nil t).symm
  | append_singleton after c ih =>
    cases holds : p c with
    | true =>
      rw [← List.append_assoc, dropEndWhile_concat_of_pos holds, ih,
        dropEndWhile_concat_of_pos holds]
    | false =>
      have last : ∀ u : Text, dropEndWhile p (u ++ [c]) = u ++ [c] := by
        intro u
        apply dropEndWhile_of_last
        simpa using holds
      rw [← List.append_assoc, last, last, List.append_assoc]

theorem dropEndWhile_of_all (all : ∀ c ∈ after, p c = true) : dropEndWhile p after = [] :=
  List.rdropWhile_eq_nil_iff.mpr all

theorem trimWhile_append (occupied : t ≠ []) (left : ∀ c ∈ before, p c = true)
    (first : ∀ c, t.head? = some c → p c = false) (last : ∀ c, t.getLast? = some c → p c = false)
    (after : Text) : trimWhile p (before ++ t ++ after) = t ++ dropEndWhile p after := by
  have begins : (t ++ after).head? = t.head? := by
    obtain ⟨c, t, rfl⟩ := List.exists_cons_of_ne_nil occupied
    rfl
  rw [trimWhile, List.append_assoc, dropWhile_append_of_head left (begins ▸ first),
    dropEndWhile_append last]

/-- What two solid ends enclose is not trimmed. -/
theorem trimWhile_of_ends (first : ∀ c, t.head? = some c → p c = false)
    (last : ∀ c, t.getLast? = some c → p c = false) : trimWhile p t = t := by
  rw [trimWhile, dropWhile_of_head first, dropEndWhile_of_last last]

theorem head?_trimWhile {c : Char} (first : (trimWhile p t).head? = some c) : p c = false := by
  obtain ⟨rest, whole⟩ := isPrefix_dropEndWhile p (t.dropWhile p)
  have same : (t.dropWhile p).head? = some c := by
    rw [trimWhile] at first
    rw [← whole, List.head?_append, first, Option.some_or]
  have kept := List.head?_dropWhile_not p t
  rw [same] at kept
  exact kept

theorem trimWhile_trimWhile (p : Char → Bool) (t : Text) :
    trimWhile p (trimWhile p t) = trimWhile p t :=
  trimWhile_of_ends (fun _ => head?_trimWhile) (fun _ => getLast?_dropEndWhile)

theorem trimWhile_append_left (all : ∀ c ∈ before, p c = true) (t : Text) :
    trimWhile p (before ++ t) = trimWhile p t := by
  rw [trimWhile, List.dropWhile_append_of_pos all, trimWhile]

theorem trimWhile_append_right (all : ∀ c ∈ after, p c = true) (t : Text) :
    trimWhile p (t ++ after) = trimWhile p t := by
  have ends : ∀ u : Text, dropEndWhile p (u ++ after) = dropEndWhile p u := by
    intro u
    rw [dropEndWhile, List.reverse_append, List.dropWhile_append_of_pos (by simpa using all),
      dropEndWhile]
  rw [trimWhile, trimWhile, List.dropWhile_append]
  split
  · rename_i empty
    rw [List.dropWhile_eq_nil_iff.mpr all, List.isEmpty_iff.mp empty]
  · exact ends _

end CodeWiki.Text
