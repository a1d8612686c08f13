import CodeWiki.Proofs.Excerpt.Scan

/-! One kind of comment looked for before the others. If no comment is spoilt by it, what is left is
read for the other kinds as it would have been read for all of them at once. -/
namespace CodeWiki.Comment

open CommentKind

variable {opening closing lineMark : Delimiter} {kinds : List CommentKind} {comment : Comment}
  {t u p s inside : Text} {c : Char}

/-! ### One kind before the others -/

/-- Looking for one kind first comes to the same if at each place that the reading comes to the same
comment begins when the comments of this kind are gone, or none as before. -/
theorem scan_first {earlier : CommentKind} {later : List CommentKind} (t : Text)
    (agree : ∀ place ∈ places (earlier :: later) t, first? [earlier] place = none →
      first? later (scan [earlier] place) = (first? later place).map fun comment =>
        ⟨comment.kind, scan [earlier] comment.text, scan [earlier] comment.rest⟩) :
    scan (earlier :: later) t = scan later (scan [earlier] t) := by
  induction t using induction_read (earlier :: later) with
  | done => rfl
  | outside c t outside ih =>
    rw [places_cons outside] at agree
    have same := ih fun place member => agree place (List.mem_cons_of_mem _ member)
    obtain ⟨noEarlier, noLater⟩ := Option.or_eq_none_iff.mp ((first?_cons _ _ _).symm.trans outside)
    rw [← first?_single] at noEarlier
    have left := agree (c :: t) List.mem_cons_self noEarlier
    rw [noLater, Option.map_none, scan_cons noEarlier] at left
    rw [scan_cons outside, same, scan_cons noEarlier, scan_cons left]
  | inside t comment found ih =>
    rw [places_comment found] at agree
    rw [scan_comment found, ih fun place member => agree place (List.mem_cons_of_mem _ member)]
    rw [first?_cons, ← first?_single] at found
    cases first : first? [earlier] t with
    | some hidden =>
      rw [first, Option.some_or] at found
      obtain rfl := Option.some.inj found
      rw [scan_comment first]
    | none =>
      rw [first, Option.none_or] at found
      have left := agree t List.mem_cons_self first
      rw [found, Option.map_some] at left
      rw [scan_comment left]

theorem not_isSpoiltBy {earlier : CommentKind} {later : List CommentKind} {place : Text}
    (unspoilt : isUnspoilt (earlier :: later) t = true)
    (member : place ∈ places (earlier :: later) t) (first : first? [earlier] place = none)
    (found : first? later place = some comment) :
    comment.kind = earlier ∨ isSpoiltBy earlier comment = false := by
  rw [isUnspoilt, Bool.and_eq_true, List.all_eq_true] at unspoilt
  rw [first?_single] at first
  have read : first? (earlier :: later) place = some comment := by
    rw [first?_cons, first, Option.none_or, found]
  have intact := unspoilt.1 comment (List.mem_filterMap.mpr ⟨place, member, read⟩)
  simpa using intact

/-! ### Line comments before blocks -/

theorem begins?_block_eq_none_iff :
    (block opening closing).begins? (opening.text ++ inside) = none ↔
      ¬ closing.text <:+: inside := by
  rw [begins?, CommentKind.opening, Text.after?_append, Option.bind_some, Option.map_eq_none_iff,
    Text.cut?_eq_none_iff]

/-- No block begins by the removal of line comments. -/
theorem begins?_block_scan_line_eq_none (apart : Apart lineMark.text opening.text)
    (outside : (block opening closing).begins? t = none) :
    (block opening closing).begins? (scan [.line lineMark] t) = none := by
  by_cases opens : opening.text <+: t
  · obtain ⟨inside, rfl⟩ := opens
    rw [begins?_block_eq_none_iff] at outside
    rw [scan_append_of_apart (.line lineMark) apart, begins?_block_eq_none_iff]
    exact fun closes => outside (infix_of_infix_scan_line closing.single closes)
  · have other : ¬ (block opening closing).opening.text <+: scan [.line lineMark] t := fun found =>
      opens (prefix_of_prefix_scan_line opening.single found)
    exact begins?_eq_none_of_not_prefix other

/-- A block keeps its ends when the line comments in it are removed. -/
theorem begins?_block_scan_line (apart : Apart lineMark.text opening.text)
    (found : (block opening closing).begins? t = some comment)
    (closed : opensInLastLine lineMark.text comment.rest comment.text = false) :
    (block opening closing).begins? (scan [.line lineMark] t) =
      some ⟨block opening closing, scan [.line lineMark] comment.text,
        scan [.line lineMark] comment.rest⟩ := by
  obtain ⟨body, rest, first, rfl, rfl⟩ := begins?_block_eq_some_iff.mp found
  dsimp only at closed ⊢
  rw [List.append_assoc] at closed
  have tail := opensInLastLine_of_isSuffix (List.suffix_append opening.text _) closed
  have beforeClosing := opensInLastLine_of_append closing.single tail
  have inClosing := opensInLastLine_of_isSuffix (List.suffix_append body _) tail
  have opened :
      ∀ u, scan [.line lineMark] (opening.text ++ u) = opening.text ++ scan [.line lineMark] u :=
    scan_append_of_apart (.line lineMark) apart
  -- The body is read by itself, and so is any part of the closing delimiter behind it.
  have ended : ∀ z, z <+: closing.text →
      scan [.line lineMark] (body ++ z) = scan [.line lineMark] body ++ z := by
    rintro z ⟨v, whole⟩
    have start : z <+: closing.text ++ rest := ⟨v ++ rest, by rw [← whole, List.append_assoc]⟩
    rw [scan_line_append (opensInLastLine_of_isPrefix start beforeClosing)]
    have single : '\n' ∉ z ++ v := whole ▸ closing.single
    rw [List.mem_append, not_or] at single
    rw [← whole] at inClosing
    have alone := opensInLastLine_of_isPrefix List.nil_prefix
      (opensInLastLine_of_append single.2 inClosing)
    have kept := scan_line_append_single single.1 alone
    rw [List.append_nil, scan_nil, List.append_nil] at kept
    rw [kept]
  have last := List.dropLast_prefix closing.text
  refine begins?_block_eq_some_iff.mpr
    ⟨scan [.line lineMark] body, scan [.line lineMark] rest, ?_, ?_, ?_⟩
  · rw [List.dropLast_append_of_ne_nil closing.occupied, ← ended _ last]
    rw [List.dropLast_append_of_ne_nil closing.occupied] at first
    exact fun early => first (infix_of_infix_scan_line closing.single early)
  · simp only [List.append_assoc]
    rw [opened, scan_line_append beforeClosing, scan_line_append_single closing.single inClosing]
  · rw [List.append_assoc, opened, ended _ (List.prefix_refl _), ← List.append_assoc]

/-- The kinds that line comments are looked for before: blocks that no line comment opens in the
opening of. -/
def BlocksApart (lineMark : Delimiter) (kinds : List CommentKind) : Prop :=
  ∀ kind ∈ kinds, ∃ opening closing, kind = .block opening closing ∧
    Apart lineMark.text opening.text

theorem first?_scan_line_eq_none (blocks : BlocksApart lineMark kinds)
    (outside : first? kinds t = none) : first? kinds (scan [.line lineMark] t) = none := by
  rw [first?, List.findSome?_eq_none_iff] at outside ⊢
  intro kind member
  obtain ⟨opening, closing, rfl, apart⟩ := blocks kind member
  exact begins?_block_scan_line_eq_none apart (outside _ member)

theorem first?_scan_line (blocks : BlocksApart lineMark kinds)
    (found : first? kinds t = some comment)
    (closed : opensInLastLine lineMark.text comment.rest comment.text = false) :
    first? kinds (scan [.line lineMark] t) =
      some ⟨comment.kind, scan [.line lineMark] comment.text,
        scan [.line lineMark] comment.rest⟩ := by
  rw [first?, List.findSome?_eq_some_iff] at found ⊢
  obtain ⟨before, kind, behind, rfl, begins, earlier⟩ := found
  refine ⟨before, kind, behind, rfl, ?_, fun other member => ?_⟩
  · obtain ⟨opening, closing, rfl, apart⟩ := blocks kind (by simp)
    rw [(eq_append_of_begins? begins).2.2]
    exact begins?_block_scan_line apart begins closed
  · obtain ⟨opening, closing, rfl, apart⟩ := blocks other (List.mem_append_left _ member)
    exact begins?_block_scan_line_eq_none apart (earlier _ member)

/-- Line comments can be removed before the blocks are looked for if they spoil none of them. -/
theorem scan_line_first (blocks : BlocksApart lineMark kinds)
    (unspoilt : isUnspoilt (.line lineMark :: kinds) t = true) :
    scan (.line lineMark :: kinds) t = scan kinds (scan [.line lineMark] t) := by
  refine scan_first t fun place member noLine => ?_
  cases found : first? kinds place with
  | none => exact first?_scan_line_eq_none blocks found
  | some comment =>
    obtain ⟨opening, closing, isBlock, -⟩ := blocks comment.kind (eq_append_of_first? found).2.2
    have other : comment.kind ≠ .line lineMark := by
      rw [isBlock]
      exact nofun
    exact first?_scan_line blocks found
      ((not_isSpoiltBy unspoilt member noLine found).resolve_left other)

/-! ### Blocks before blocks of another kind -/

/-- Blocks can be removed before blocks of a second kind are looked for if they spoil none of these
and if what is left at last has none of the characters that these open with. -/
theorem scan_block_first {opening' closing' : Delimiter}
    (unspoilt : isUnspoilt [.block opening closing, .block opening' closing'] t = true)
    (clean : ∀ c ∈ opening'.text, c ∉ scan [.block opening closing, .block opening' closing'] t) :
    scan [.block opening closing, .block opening' closing'] t =
      scan [.block opening' closing'] (scan [.block opening closing] t) := by
  refine scan_first t fun place member noFirst => ?_
  cases found : first? [.block opening' closing'] place with
  | none =>
    obtain ⟨c, u, rfl⟩ := List.exists_cons_of_ne_nil (ne_nil_of_mem_placesFrom member)
    have outside : first? [.block opening closing, .block opening' closing'] (c :: u) = none := by
      rw [first?_cons, ← first?_single, noFirst, found]
      rfl
    have visible : c ∈ scan [.block opening closing, .block opening' closing'] t :=
      List.mem_filterMap.mpr ⟨c :: u, member, by rw [outside]; rfl⟩
    rw [scan_cons noFirst, first?_single]
    refine begins?_eq_none_of_not_prefix fun opens => ?_
    obtain ⟨d, more, whole⟩ := List.exists_cons_of_ne_nil opening'.occupied
    rw [CommentKind.opening, whole, List.cons_prefix_cons] at opens
    exact clean d (whole ▸ List.mem_cons_self) (opens.1 ▸ visible)
  | some comment =>
    rw [first?_single] at found
    obtain ⟨whole, -, second⟩ := eq_append_of_begins? found
    have other : comment.kind ≠ .block opening closing := by
      rw [second]
      rintro ⟨rfl, rfl⟩
      rw [first?_single, found] at noFirst
      cases noFirst
    rw [← first?_single] at found
    have intact := (not_isSpoiltBy unspoilt member noFirst found).resolve_left other
    rw [isSpoiltBy, decide_eq_false_iff_not, Decidable.not_not, second, ← whole] at intact
    rw [first?_single, intact, Option.map_some, second]

/-! ### A block that is spoilt

It loses its end to a line comment and goes on to the next end that is left. -/

theorem opensInLastLine_iff {mark : Text} : opensInLastLine mark u t = true ↔
    ∃ s, s ≠ [] ∧ s <:+ t ∧ '\n' ∉ s ∧ mark <+: s ++ u := by
  rw [← not_iff_not, Bool.not_eq_true, opensInLastLine_eq_false_iff]
  simp only [not_exists, not_and]

/-- The removal of line comments takes each line by itself. -/
theorem scan_line_append_newline (t u : Text) :
    scan [.line lineMark] (t ++ '\n' :: u) = scan [.line lineMark] t ++ '\n' ::
      scan [.line lineMark] u := by
  induction t using induction_read [.line lineMark] with
  | done =>
    have newline : first? [.line lineMark] ('\n' :: u) = none := by
      rw [first?_single, begins?_line_eq_none_iff]
      intro found
      exact lineMark.occupied
        (List.prefix_nil.mp (Text.prefix_of_prefix_append (t := []) found lineMark.single))
    rw [List.nil_append, scan_cons newline, scan_nil, List.nil_append]
  | outside c t outside ih =>
    have still : first? [.line lineMark] (c :: (t ++ '\n' :: u)) = none := by
      rw [first?_single, begins?_line_eq_none_iff] at outside ⊢
      rw [← List.cons_append]
      exact fun found => outside (Text.prefix_of_prefix_append found lineMark.single)
    rw [List.cons_append, scan_cons still, scan_cons outside, ih, List.cons_append]
  | inside t comment found ih =>
    rw [scan_comment found, ← ih]
    rw [first?_single] at found
    obtain ⟨hidden, rest, single, stops, rfl, rfl⟩ := begins?_line_eq_some_iff.mp found
    have stillStops : StopsLine (rest ++ '\n' :: u) := by
      intro c first
      cases rest with
      | nil => exact (Option.some.inj first).symm
      | cons d rest => exact stops c first
    have begins := begins?_line lineMark single stillStops
    rw [← first?_single, ← List.append_assoc] at begins
    rw [scan_comment begins]

theorem ending_of_cons (outside : first? [.line lineMark] (c :: t) = none) (ending : s <:+ c :: t)
    (opens : lineMark.text <+: s) : s <:+ t := by
  rw [first?_single, begins?_line_eq_none_iff] at outside
  rcases List.suffix_cons_iff.mp ending with rfl | later
  · exact absurd opens outside
  · exact later

/-- A line comment hides the end of its line, so nothing that is left reaches as far. -/
theorem prefix_dropLast_of_prefix_scan_line (occupied : s ≠ []) (ending : s <:+ t)
    (opens : lineMark.text <+: s) (single : '\n' ∉ p) (left : p <+: scan [.line lineMark] t) :
    p <+: t.dropLast := by
  induction t using induction_read [.line lineMark] generalizing p with
  | done => exact left
  | outside c t outside ih =>
    rw [scan_cons outside] at left
    have later := ending_of_cons outside ending opens
    cases p with
    | nil => exact List.nil_prefix
    | cons d p =>
      obtain ⟨rfl, more⟩ := List.cons_prefix_cons.mp left
      rw [List.dropLast_cons_of_ne_nil (later.ne_nil occupied)]
      exact List.cons_prefix_cons.mpr ⟨rfl,
        ih later (fun member => single (List.mem_cons_of_mem _ member)) more⟩
  | inside t comment found ih =>
    rw [scan_comment found] at left
    have rest := prefix_of_prefix_scan_line single left
    rw [first?_single] at found
    obtain ⟨hidden, behind, -, stops, -, rfl⟩ := begins?_line_eq_some_iff.mp found
    obtain rfl := stops.eq_nil_of_prefix single rest
    exact List.nil_prefix

theorem infix_dropLast_of_infix_scan_line (occupied : s ≠ []) (ending : s <:+ t)
    (oneLine : '\n' ∉ s) (opens : lineMark.text <+: s) (single : '\n' ∉ p)
    (left : p <:+: scan [.line lineMark] t) :
    p <:+: t.dropLast := by
  induction t using induction_read [.line lineMark] with
  | done => exact left
  | outside c t outside ih =>
    rw [scan_cons outside, List.infix_cons_iff, ← scan_cons outside] at left
    rcases left with here | more
    · exact (prefix_dropLast_of_prefix_scan_line occupied ending opens single here).isInfix
    · have later := ending_of_cons outside ending opens
      rw [List.dropLast_cons_of_ne_nil (later.ne_nil occupied)]
      exact (ih later more).trans (List.suffix_cons c _).isInfix
  | inside t comment found ih =>
    rw [scan_comment found] at left
    rw [first?_single] at found
    obtain ⟨hidden, rest, -, stops, rfl, rfl⟩ := begins?_line_eq_some_iff.mp found
    cases rest with
    | nil =>
      rw [scan_nil, List.infix_nil] at left
      rw [left]
      exact List.nil_infix
    | cons d rest =>
      obtain rfl := stops d rfl
      have later := (Text.suffix_of_suffix_append ending oneLine).trans (List.suffix_cons '\n' rest)
      rw [List.dropLast_append_of_ne_nil (List.cons_ne_nil _ _)]
      exact (ih later left).trans (List.suffix_append _ _).isInfix

/-- All that stands in front of the next end that the removal of line comments leaves is taken for a
part of the block. -/
theorem scan_of_spoilt {rest left right : Text} (apart : Apart lineMark.text opening.text)
    (found : (block opening closing).begins? t = some comment) (ends : comment.rest = '\n' :: rest)
    (spoilt : isSpoiltBy (.line lineMark) comment = true)
    (next : Text.cut? closing.text (scan [.line lineMark] rest) = some (left, right)) :
    scan [.block opening closing] (scan [.line lineMark] t) =
      scan [.block opening closing] right := by
  obtain ⟨body, behind, first, rfl, rfl⟩ := begins?_block_eq_some_iff.mp found
  obtain rfl : behind = '\n' :: rest := ends
  obtain ⟨taken, unended⟩ := (Text.cut?_eq_some_iff closing.occupied).mp next
  obtain ⟨s, occupied, ending, oneLine, reaches⟩ := opensInLastLine_iff.mp spoilt
  have opens := Text.prefix_of_prefix_append reaches lineMark.single
  have inBody : s <:+ body ++ closing.text :=
    apart.suffix_of_append opens (List.append_assoc _ _ _ ▸ ending)
  have lost : ¬ closing.text <:+: scan [.line lineMark] (body ++ closing.text) := fun kept =>
    first (infix_dropLast_of_infix_scan_line occupied inBody oneLine opens closing.single kept)
  have longer : (block opening closing).begins? (scan [.line lineMark]
      (opening.text ++ body ++ closing.text ++ '\n' :: rest)) = some ⟨block opening closing,
        opening.text ++ (scan [.line lineMark] (body ++ closing.text) ++ '\n' :: left) ++
          closing.text, right⟩ := by
    refine begins?_block_eq_some_iff.mpr ⟨_, _, ?_, ?_, rfl⟩
    · rw [List.append_assoc, List.cons_append,
        List.dropLast_append_of_ne_nil (List.cons_ne_nil _ _),
        List.dropLast_cons_of_ne_nil (List.append_ne_nil_of_right_ne_nil _ closing.occupied)]
      exact Text.not_infix_append lost unended closing.single
    · rw [scan_line_append_newline, taken, List.append_assoc opening.text,
        scan_append_of_apart (.line lineMark) apart]
      simp only [List.append_assoc, List.cons_append]
  rw [← first?_single] at longer
  rw [scan_comment longer]

end CodeWiki.Comment
