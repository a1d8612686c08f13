import CodeWiki.Text.Basic

/-! Texts taken apart at marks. A mark is found where it was put in, because it can neither begin in
the text before it nor reach over a character that it does not have. -/
namespace CodeWiki.Text

variable {mark t u left right : Text} {c : Char}

theorem after?_append (mark t : Text) : after? mark (mark ++ t) = some t := by
  induction mark with
  | nil => rfl
  | cons m mark ih => simp only [List.cons_append, after?, if_true, ih]

theorem after?_eq_some_iff : after? mark t = some u ↔ t = mark ++ u := by
  constructor
  · intro found
    induction mark generalizing t with
    | nil => exact Option.some.inj found
    | cons m mark ih =>
      cases t with
      | nil => cases found
      | cons c t =>
        simp only [after?, Option.ite_none_right_eq_some] at found
        rw [found.1, ih found.2, List.cons_append]
  · rintro rfl
    exact after?_append mark u

theorem after?_eq_none_iff : after? mark t = none ↔ ¬ mark <+: t := by
  constructor
  · rintro none ⟨u, rfl⟩
    rw [after?_append] at none
    cases none
  · intro other
    cases found : after? mark t with
    | none => rfl
    | some u => exact absurd ⟨u, (after?_eq_some_iff.mp found).symm⟩ other

theorem before?_eq_some_iff : before? mark t = some u ↔ t = u ++ mark := by
  rw [before?, Option.map_eq_some_iff]
  constructor
  · rintro ⟨rest, found, rfl⟩
    have turned := congrArg List.reverse (after?_eq_some_iff.mp found)
    simpa using turned
  · rintro rfl
    refine ⟨u.reverse, after?_eq_some_iff.mpr ?_, List.reverse_reverse u⟩
    exact List.reverse_append

theorem before?_eq_none_iff : before? mark t = none ↔ ¬ mark <:+ t := by
  rw [before?, Option.map_eq_none_iff, after?_eq_none_iff, List.reverse_prefix]

theorem hasPart_iff : hasPart mark t = true ↔ mark <:+: t := by
  induction t with
  | nil => rw [hasPart, List.isEmpty_iff, List.infix_nil]
  | cons c t ih =>
    rw [hasPart, Bool.or_eq_true, List.isPrefixOf_iff_prefix, ih, List.infix_cons_iff]

theorem cut?_append_self (mark t : Text) : cut? mark (mark ++ t) = some ([], t) := by
  have found := after?_append mark t
  cases whole : mark ++ t with
  | nil =>
    rw [whole] at found
    simp only [cut?, found, Option.map_some]
  | cons c rest =>
    rw [whole] at found
    simp only [cut?, found]

/-- A mark cannot begin where its first character is not. -/
theorem cut?_append (mark right : Text) (absent : c ∉ left) :
    cut? (c :: mark) (left ++ (c :: mark ++ right)) = some (left, right) := by
  induction left with
  | nil => exact cut?_append_self (c :: mark) right
  | cons d left ih =>
    rw [List.mem_cons, not_or] at absent
    have other : after? (c :: mark) (d :: (left ++ (c :: mark ++ right))) = none := if_neg absent.1
    simp only [List.cons_append, cut?] at other ih ⊢
    simp only [other, ih absent.2, Option.map_some]

theorem cut?_singleton (right : Text) (absent : c ∉ left) :
    cut? [c] (left ++ c :: right) = some (left, right) := cut?_append [] right absent

theorem cut?_eq_none_iff : cut? mark t = none ↔ ¬ mark <:+: t := by
  induction t with
  | nil =>
    rw [cut?, Option.map_eq_none_iff, after?_eq_none_iff, List.prefix_nil, List.infix_nil]
  | cons c t ih =>
    rw [List.infix_cons_iff, not_or, ← after?_eq_none_iff, ← ih]
    cases here : after? mark (c :: t) with
    | none => simp only [cut?, here, Option.map_eq_none_iff, true_and]
    | some rest => simp [cut?, here]

theorem eq_append_of_cut? (found : cut? mark t = some (left, right)) :
    t = left ++ mark ++ right := by
  induction t generalizing left with
  | nil =>
    obtain ⟨rest, whole, same⟩ := Option.map_eq_some_iff.mp found
    cases same
    exact after?_eq_some_iff.mp whole
  | cons c t ih =>
    unfold cut? at found
    split at found
    · rename_i rest here
      cases found
      exact after?_eq_some_iff.mp here
    · obtain ⟨⟨left', right'⟩, later, same⟩ := Option.map_eq_some_iff.mp found
      cases same
      rw [ih later, List.cons_append, List.cons_append]

theorem not_infix_of_cut? (occupied : mark ≠ []) (found : cut? mark t = some (left, right)) :
    ¬ mark <:+: left := by
  have empty : ¬ mark <:+: [] := by simpa using occupied
  induction t generalizing left with
  | nil =>
    obtain ⟨rest, whole, same⟩ := Option.map_eq_some_iff.mp found
    cases same
    exact empty
  | cons c t ih =>
    unfold cut? at found
    split at found
    · cases found
      exact empty
    · rename_i other
      obtain ⟨⟨left', right'⟩, later, same⟩ := Option.map_eq_some_iff.mp found
      cases same
      rw [List.infix_cons_iff, not_or]
      refine ⟨fun early => after?_eq_none_iff.mp other ?_, ih later⟩
      rw [eq_append_of_cut? later, List.append_assoc, ← List.cons_append]
      exact early.trans (List.prefix_append _ _)

/-- A mark is found where it first ends. -/
theorem cut?_eq_some_iff (occupied : mark ≠ []) :
    cut? mark t = some (left, right) ↔ t = left ++ mark ++ right ∧
    ¬ mark <:+: (left ++ mark).dropLast := by
  constructor
  · intro found
    refine ⟨eq_append_of_cut? found, ?_⟩
    induction t generalizing left with
    | nil =>
      obtain ⟨rest, whole, same⟩ := Option.map_eq_some_iff.mp found
      exact absurd (List.append_eq_nil_iff.mp (after?_eq_some_iff.mp whole).symm).1 occupied
    | cons c t ih =>
      unfold cut? at found
      split at found
      · cases found
        intro inside
        have shorter := inside.length_le
        have some := List.length_pos_iff.mpr occupied
        rw [List.nil_append, List.length_dropLast] at shorter
        omega
      · rename_i other
        obtain ⟨⟨left', right'⟩, later, same⟩ := Option.map_eq_some_iff.mp found
        cases same
        rw [List.cons_append, List.dropLast_cons_of_ne_nil
          (List.append_ne_nil_of_right_ne_nil _ occupied), List.infix_cons_iff, not_or]
        refine ⟨fun early => after?_eq_none_iff.mp other ?_, ih later⟩
        rw [eq_append_of_cut? later]
        have longer : c :: (left' ++ mark).dropLast <+: c :: (left' ++ mark ++ right) :=
          List.cons_prefix_cons.mpr ⟨rfl, (List.dropLast_prefix _).trans (List.prefix_append _ _)⟩
        exact early.trans longer
  · rintro ⟨rfl, first⟩
    induction left with
    | nil => exact cut?_append_self mark right
    | cons c left ih =>
      rw [List.cons_append, List.dropLast_cons_of_ne_nil
        (List.append_ne_nil_of_right_ne_nil _ occupied), List.infix_cons_iff, not_or] at first
      have other : after? mark (c :: (left ++ mark ++ right)) = none := by
        refine after?_eq_none_iff.mpr fun early => first.1 ?_
        have some := List.length_pos_iff.mpr occupied
        have start : c :: (left ++ mark).dropLast <+: c :: (left ++ mark ++ right) :=
          List.cons_prefix_cons.mpr ⟨rfl, (List.dropLast_prefix _).trans (List.prefix_append _ _)⟩
        refine List.prefix_of_prefix_length_le early start ?_
        rw [List.length_cons, List.length_dropLast, List.length_append]
        omega
      simp only [List.cons_append, cut?, other, ih first.2, Option.map_some]

/-! A mark that ends in a character of its own does not overlap with itself, so that it cannot begin
in front of the place where it was put in and reach into it. -/

theorem not_prefix_append_mark {init : Text} (own : c ∉ init) {d : Char}
    (without : ¬ init ++ [c] <+: d :: left) (right : Text) :
    ¬ init ++ [c] <+: d :: left ++ (init ++ [c] ++ right) := by
  intro found
  rcases List.prefix_or_prefix_of_prefix found
    (List.prefix_append (d :: left) _) with inside | longer
  · exact without inside
  · obtain ⟨tail, whole⟩ := longer
    have behind : tail <+: init ++ [c] ++ right := by
      rw [← List.prefix_append_right_inj (d :: left), whole]
      exact found
    rcases List.eq_nil_or_concat tail with rfl | ⟨tail', last, rfl⟩
    · rw [List.append_nil] at whole
      exact without (whole ▸ List.prefix_refl _)
    · rw [List.concat_eq_append, ← List.append_assoc] at whole
      obtain ⟨same, ended⟩ := List.append_inj' whole rfl
      have fits : (tail'.concat last).length ≤ init.length := by
        rw [← same, List.length_concat, List.length_append, List.length_cons]
        omega
      rw [List.append_assoc] at behind
      have inside := List.prefix_of_prefix_length_le behind (List.prefix_append init _) fits
      obtain rfl := List.singleton_inj.mp ended
      exact own (inside.mem (by simp))

theorem cut?_append_mark {init : Text} (own : c ∉ init) (without : ¬ init ++ [c] <:+: left)
    (right : Text) : cut? (init ++ [c]) (left ++ (init ++ [c] ++ right)) = some (left, right) := by
  induction left with
  | nil => exact cut?_append_self (init ++ [c]) right
  | cons d left ih =>
    rw [List.infix_cons_iff, not_or] at without
    have other := after?_eq_none_iff.mpr (not_prefix_append_mark own without.1 right)
    rw [List.cons_append] at other ⊢
    simp only [cut?, other, ih without.2, Option.map_some]

/-- A text is taken apart in one way only at a mark that is nowhere else in it. -/
theorem append_mark_inj {init left' right' : Text} (own : c ∉ init)
    (before : ¬ init ++ [c] <:+: left) (behind : ¬ init ++ [c] <:+: right)
    (same : left' ++ (init ++ [c] ++ right') = left ++ (init ++ [c] ++ right)) :
    left' = left ∧ right' = right := by
  have cut := cut?_append_mark own before right
  cases other : cut? (init ++ [c]) left' with
  | none =>
    rw [← same, cut?_append_mark own (cut?_eq_none_iff.mp other)] at cut
    exact Prod.mk.inj (Option.some.inj cut)
  | some sides =>
    obtain ⟨first, second⟩ := sides
    have whole := eq_append_of_cut? other
    have early := not_infix_of_cut? (by simp) other
    rw [← same, whole, List.append_assoc, List.append_assoc, cut?_append_mark own early] at cut
    obtain ⟨-, rest⟩ := Prod.mk.inj (Option.some.inj cut)
    exact absurd ⟨second, right', by rw [← rest, List.append_assoc]⟩ behind

/-- Texts are taken apart in one way only at the first place of a character. -/
theorem append_cons_inj {left' right' : Text} (absent : c ∉ left) (absent' : c ∉ left')
    (same : left ++ c :: right = left' ++ c :: right') : left = left' ∧ right = right' := by
  have cut := congrArg (cut? [c]) same
  rw [cut?_singleton right absent, cut?_singleton right' absent'] at cut
  simpa using cut

/-- A prefix that does not have the character `c` ends before it. -/
theorem prefix_of_prefix_append (found : mark <+: t ++ c :: u) (absent : c ∉ mark) :
    mark <+: t := by
  have beginning : t ++ [c] <+: t ++ c :: u := ⟨u, by simp⟩
  rcases List.prefix_or_prefix_of_prefix found beginning with inside | longer
  · rcases List.prefix_concat_iff.mp inside with rfl | inside
    · simp at absent
    · exact inside
  · exact absurd (longer.mem (by simp)) absent

theorem suffix_of_suffix_append (found : mark <:+ t ++ c :: u) (absent : c ∉ mark) :
    mark <:+ u := by
  rw [← List.reverse_prefix, List.reverse_append, List.reverse_cons, List.append_assoc] at found
  rw [← List.reverse_prefix]
  exact prefix_of_prefix_append found (by simpa using absent)

theorem not_infix_append (without : ¬ mark <:+: t) (later : ¬ mark <:+: u) (absent : c ∉ mark) :
    ¬ mark <:+: t ++ c :: u := by
  have inhabited : ¬ mark <+: [] := by
    intro empty
    rw [List.prefix_nil.mp empty] at without
    exact without (List.nil_infix)
  induction t with
  | nil =>
    rw [List.nil_append, List.infix_cons_iff, not_or]
    exact ⟨fun found => inhabited (prefix_of_prefix_append (t := []) found absent), later⟩
  | cons d t ih =>
    rw [List.infix_cons_iff, not_or] at without
    rw [List.cons_append, List.infix_cons_iff, not_or]
    refine ⟨fun found => without.1 ?_, ih without.2⟩
    exact prefix_of_prefix_append (t := d :: t) found absent

theorem infix_append_iff (absent : c ∉ mark) :
    mark <:+: t ++ c :: u ↔ mark <:+: t ∨ mark <:+: u := by
  constructor
  · intro found
    by_cases here : mark <:+: t
    · exact Or.inl here
    · by_cases there : mark <:+: u
      · exact Or.inr there
      · exact absurd found (not_infix_append here there absent)
  · rintro (⟨left, right, rfl⟩ | ⟨left, right, rfl⟩)
    · exact ⟨left, right ++ c :: u, by simp⟩
    · exact ⟨t ++ c :: left, right, by simp⟩

theorem piecesFrom_skip (mark skipped t : Text) :
    piecesFrom mark skipped.length (skipped ++ t) = piecesFrom mark 0 t := by
  induction skipped with
  | nil => rfl
  | cons c skipped ih => exact ih

theorem pieces_cons (early : ¬ mark <+: c :: t) :
    pieces mark (c :: t) = (c :: (pieces mark t).1, (pieces mark t).2) := by
  rw [← List.isPrefixOf_iff_prefix, Bool.not_eq_true] at early
  simp only [pieces, piecesFrom, early, Bool.false_eq_true, if_false]

theorem pieces_of_not_infix (without : ¬ mark <:+: t) : pieces mark t = (t, []) := by
  induction t with
  | nil => rfl
  | cons c t ih =>
    rw [List.infix_cons_iff, not_or] at without
    rw [pieces_cons without.1, ih without.2]

theorem pieces_append_self (occupied : mark ≠ []) (t : Text) :
    pieces mark (mark ++ t) = ([], (pieces mark t).1 :: (pieces mark t).2) := by
  obtain ⟨m, rest, rfl⟩ := List.exists_cons_of_ne_nil occupied
  have found : (m :: rest).isPrefixOf (m :: (rest ++ t)) = true :=
    List.isPrefixOf_iff_prefix.mpr (List.prefix_append (m :: rest) t)
  have skipped := piecesFrom_skip (m :: rest) rest t
  simp only [pieces, List.cons_append, piecesFrom, found, if_true, List.length_cons,
    Nat.add_sub_cancel, skipped]

/-- A text without the mark, and a character that it does not have, go to the first piece. -/
theorem pieces_append (without : ¬ mark <:+: t) (absent : c ∉ mark) (u : Text) :
    pieces mark (t ++ c :: u) = (t ++ c :: (pieces mark u).1, (pieces mark u).2) := by
  induction t with
  | nil =>
    have early : ¬ mark <+: c :: u := by
      intro found
      have empty := prefix_of_prefix_append (t := []) found absent
      exact without empty.isInfix
    rw [List.nil_append, pieces_cons early, List.nil_append]
  | cons d t ih =>
    rw [List.infix_cons_iff, not_or] at without
    have early : ¬ mark <+: d :: (t ++ c :: u) := fun found =>
      without.1 (prefix_of_prefix_append (t := d :: t) found absent)
    rw [List.cons_append, pieces_cons early, ih without.2, List.cons_append]

/-- The first mark is the one that was put in, behind a character that it does not have. -/
theorem pieces_append_mark (without : ¬ mark <:+: t) (absent : c ∉ mark) (u : Text) :
    pieces mark (t ++ c :: (mark ++ u)) =
      (t ++ [c], (pieces mark u).1 :: (pieces mark u).2) := by
  have occupied : mark ≠ [] := by
    rintro rfl
    exact without List.nil_infix
  rw [pieces_append without absent, pieces_append_self occupied]

theorem isPrefix_pieces (mark t : Text) : (pieces mark t).1 <+: t := by
  unfold pieces
  induction t with
  | nil => exact List.prefix_refl []
  | cons c t ih =>
    rw [piecesFrom]
    split
    · exact List.nil_prefix
    · exact List.cons_prefix_cons.mpr ⟨rfl, ih⟩

theorem not_infix_of_mem_piecesFrom (occupied : mark ≠ []) (skip : Nat) (t : Text) :
    ∀ piece ∈ (piecesFrom mark skip t).1 :: (piecesFrom mark skip t).2, ¬ mark <:+: piece := by
  have empty : ¬ mark <:+: [] := by simpa using occupied
  fun_induction piecesFrom mark skip t with
  | case1 skip =>
    intro piece member
    rwa [List.mem_singleton.mp member]
  | case2 skip c t ih => exact ih
  | case3 c t _ piece later pieces ih =>
    rw [pieces] at ih
    intro other member
    rcases List.mem_cons.mp member with rfl | member
    · exact empty
    · exact ih other member
  | case4 c t early piece later pieces ih =>
    have start := isPrefix_pieces mark t
    rw [Text.pieces, pieces] at start
    rw [pieces] at ih
    rw [List.isPrefixOf_iff_prefix] at early
    intro other member
    rcases List.mem_cons.mp member with rfl | member
    · rw [List.infix_cons_iff, not_or]
      refine ⟨fun found => early ?_, ih piece List.mem_cons_self⟩
      exact found.trans (List.cons_prefix_cons.mpr ⟨rfl, start⟩)
    · exact ih other (List.mem_cons_of_mem _ member)

theorem not_infix_pieces (occupied : mark ≠ []) (t : Text) : ¬ mark <:+: (pieces mark t).1 :=
  not_infix_of_mem_piecesFrom occupied 0 t _ List.mem_cons_self

theorem join_singleton (sep part : Text) : join sep [part] = part := List.intercalate_singleton

theorem join_cons_cons (sep first second : Text) (parts : List Text) :
    join sep (first :: second :: parts) = first ++ (sep ++ join sep (second :: parts)) := by
  simp only [join, List.intercalate_cons_cons, List.append_assoc]

theorem cons_join (c : Char) (sep first : Text) (parts : List Text) :
    join sep ((c :: first) :: parts) = c :: join sep (first :: parts) := by
  cases parts with
  | nil => rw [join_singleton, join_singleton]
  | cons second parts => rw [join_cons_cons, join_cons_cons, List.cons_append]

/-- The pieces with the mark between them are the text. -/
theorem join_piecesFrom (occupied : mark ≠ []) (skip : Nat) (t : Text) :
    join mark ((piecesFrom mark skip t).1 :: (piecesFrom mark skip t).2) = t.drop skip := by
  fun_induction piecesFrom mark skip t with
  | case1 skip => simp [join]
  | case2 skip c t ih => exact ih
  | case3 c t here piece later pieces ih =>
    obtain ⟨rest, whole⟩ := List.isPrefixOf_iff_prefix.mp here
    have behind : t.drop (mark.length - 1) = rest := by
      calc t.drop (mark.length - 1)
          = (c :: t).drop (mark.length - 1 + 1) := rfl
        _ = (mark ++ rest).drop mark.length := by
          rw [whole, Nat.sub_add_cancel (List.length_pos_iff.mpr occupied)]
        _ = rest := List.drop_left
    rw [pieces, behind] at ih
    rw [join_cons_cons, ih, whole]
    rfl
  | case4 c t _ piece later pieces ih =>
    rw [pieces, List.drop_zero] at ih
    rw [cons_join, ih]
    rfl

theorem join_pieces (occupied : mark ≠ []) (t : Text) :
    join mark ((pieces mark t).1 :: (pieces mark t).2) = t :=
  join_piecesFrom occupied 0 t

/-- No other texts without the mark give this text with the mark between them. -/
theorem pieces_join {init : Text} (own : c ∉ init) {first : Text} {later : List Text}
    (without : ∀ piece ∈ first :: later, ¬ init ++ [c] <:+: piece) :
    pieces (init ++ [c]) (join (init ++ [c]) (first :: later)) = (first, later) := by
  induction later generalizing first with
  | nil =>
    rw [join_singleton]
    exact pieces_of_not_infix (without first List.mem_cons_self)
  | cons second later ih =>
    have rest := ih fun piece member => without piece (List.mem_cons_of_mem _ member)
    have here := without first List.mem_cons_self
    rw [join_cons_cons]
    clear without
    induction first with
    | nil => rw [List.nil_append, pieces_append_self (by simp), rest]
    | cons d first step =>
      rw [List.infix_cons_iff, not_or] at here
      have early := not_prefix_append_mark own here.1 (join (init ++ [c]) (second :: later))
      rw [List.cons_append] at early ⊢
      rw [pieces_cons early, step here.2]

/-- A text that trimming leaves as it is begins with no white space. -/
theorem dropWhile_of_trimmed (trimmed : trim t = t) : t.dropWhile Unicode.isWhiteSpace = t := by
  have shorter : t.length ≤ (t.dropWhile Unicode.isWhiteSpace).length := by
    have whole := congrArg List.length trimmed
    have cut := (List.dropWhile_sublist Unicode.isWhiteSpace
      (l := (t.dropWhile Unicode.isWhiteSpace).reverse)).length_le
    simp only [trim, trimWhile, dropEndWhile, List.length_reverse] at whole cut
    omega
  exact (List.dropWhile_suffix _).eq_of_length_le shorter

theorem last_of_trimmed (trimmed : trim t = t) (c : Char) (last : t.getLast? = some c) :
    Unicode.isWhiteSpace c = false := by
  have ended : t.reverse.dropWhile Unicode.isWhiteSpace = t.reverse := by
    have whole := trimmed
    rw [trim, trimWhile, dropWhile_of_trimmed trimmed, dropEndWhile] at whole
    exact List.reverse_eq_iff.mp whole
  have kept := List.head?_dropWhile_not Unicode.isWhiteSpace t.reverse
  rw [ended, List.head?_reverse, last] at kept
  exact kept

end CodeWiki.Text
