import CodeWiki.Excerpt.Scan
import CodeWiki.Proofs.Text.Line
import Mathlib.Data.List.Infix

/-! Reading a text for several kinds of comments at once, and removing the kinds one after another.
The two come to the same where no comment is spoilt: the removal of line comments shortens the lines
of a block comment but leaves its end, and the removal of blocks passes over blocks of another
kind. -/
namespace CodeWiki

variable {opening closing : Delimiter} {kind : CommentKind} {kinds : List CommentKind}
  {comment : Comment} {t u p s mark hidden rest : Text} {c : Char}

namespace CommentKind

/-! ### What a kind of comment looks like -/

/-- A text that ends where a line does. -/
def StopsLine (rest : Text) : Prop := ∀ c, rest.head? = some c → c = '\n'

theorem stopsLine_dropWhile (t : Text) : StopsLine (t.dropWhile (· ≠ '\n')) := by
  intro c first
  have stop := List.head?_dropWhile_not (· ≠ '\n') t
  rw [first] at stop
  simpa using stop

theorem StopsLine.eq_nil_of_prefix (stops : StopsLine rest) (single : '\n' ∉ p)
    (start : p <+: rest) : p = [] := by
  cases p with
  | nil => rfl
  | cons c p =>
    obtain ⟨more, rfl⟩ := start
    obtain rfl := stops c rfl
    exact absurd List.mem_cons_self single

theorem begins?_line (opening : Delimiter) (single : '\n' ∉ hidden) (stops : StopsLine rest) :
    (line opening).begins? (opening.text ++ hidden ++ rest) =
      some ⟨line opening, opening.text ++ hidden, rest⟩ := by
  have ends : ∀ c, rest.head? = some c → decide (c ≠ '\n') = false :=
    fun c first => by simp [stops c first]
  rw [begins?, CommentKind.opening, List.append_assoc, Text.after?_append, Option.bind_some,
    Text.takeWhile_append_of_head (Text.ne_newline_of_single single) ends,
    Text.dropWhile_append_of_head (Text.ne_newline_of_single single) ends]

theorem begins?_line_eq_some_iff : (line opening).begins? t = some comment ↔
    ∃ hidden rest, '\n' ∉ hidden ∧ StopsLine rest ∧ t = opening.text ++ hidden ++ rest ∧
      comment = ⟨line opening, opening.text ++ hidden, rest⟩ := by
  constructor
  · intro found
    obtain ⟨inside, behind, same⟩ := Option.bind_eq_some_iff.mp found
    refine ⟨_, _, ?_, stopsLine_dropWhile inside, ?_, (Option.some.inj same).symm⟩
    · intro member
      simpa using List.mem_takeWhile_imp member
    · rw [List.append_assoc, List.takeWhile_append_dropWhile]
      exact Text.after?_eq_some_iff.mp behind
  · rintro ⟨hidden, rest, single, stops, rfl, rfl⟩
    exact begins?_line opening single stops

theorem begins?_block_eq_some_iff : (block opening closing).begins? t = some comment ↔
    ∃ body rest, ¬ closing.text <:+: (body ++ closing.text).dropLast ∧
      t = opening.text ++ body ++ closing.text ++ rest ∧
      comment = ⟨block opening closing, opening.text ++ body ++ closing.text, rest⟩ := by
  rw [begins?, Option.bind_eq_some_iff]
  constructor
  · rintro ⟨inside, behind, found⟩
    obtain ⟨⟨body, rest⟩, cut, rfl⟩ := Option.map_eq_some_iff.mp found
    obtain ⟨rfl, first⟩ := (Text.cut?_eq_some_iff closing.occupied).mp cut
    refine ⟨body, rest, first, ?_, rfl⟩
    rw [Text.after?_eq_some_iff.mp behind]
    simp only [CommentKind.opening, List.append_assoc]
  · rintro ⟨body, rest, first, rfl, rfl⟩
    refine ⟨body ++ closing.text ++ rest, ?_, ?_⟩
    · rw [Text.after?_eq_some_iff]
      simp only [CommentKind.opening, List.append_assoc]
    · rw [Option.map_eq_some_iff]
      exact ⟨(body, rest), (Text.cut?_eq_some_iff closing.occupied).mpr ⟨rfl, first⟩, rfl⟩

theorem eq_append_of_begins? (found : kind.begins? t = some comment) :
    t = comment.text ++ comment.rest ∧ comment.text ≠ [] ∧ comment.kind = kind := by
  cases kind with
  | line opening =>
    obtain ⟨hidden, rest, -, -, rfl, rfl⟩ := begins?_line_eq_some_iff.mp found
    exact ⟨rfl, List.append_ne_nil_of_left_ne_nil opening.occupied _, rfl⟩
  | block opening closing =>
    obtain ⟨body, rest, -, rfl, rfl⟩ := begins?_block_eq_some_iff.mp found
    exact ⟨rfl, List.append_ne_nil_of_right_ne_nil _ closing.occupied, rfl⟩

/-- A block is the same comment in front of any text. -/
theorem begins?_eq_none_of_not_prefix (other : ¬ kind.opening.text <+: t) :
    kind.begins? t = none := by
  rw [begins?, Text.after?_eq_none_iff.mpr other, Option.bind_none]

theorem begins?_line_of_prefix (found : opening.text <+: t) :
    ((line opening).begins? t).isSome := by
  obtain ⟨inside, rfl⟩ := found
  rw [begins?, CommentKind.opening, Text.after?_append]
  rfl

theorem begins?_line_eq_none_iff : (line opening).begins? t = none ↔ ¬ opening.text <+: t := by
  refine ⟨fun none found => ?_, fun other => begins?_eq_none_of_not_prefix other⟩
  have some := begins?_line_of_prefix found
  rw [none] at some
  cases some

end CommentKind

namespace Comment

open CommentKind

/-! ### Reading -/

theorem eq_append_of_first? (found : first? kinds t = some comment) :
    t = comment.text ++ comment.rest ∧ comment.text ≠ [] ∧ comment.kind ∈ kinds := by
  obtain ⟨kind, member, begins⟩ := List.exists_of_findSome?_eq_some found
  obtain ⟨whole, occupied, rfl⟩ := eq_append_of_begins? begins
  exact ⟨whole, occupied, member⟩

theorem placesFrom_skip (kinds : List CommentKind) (skipped t : Text) :
    placesFrom kinds skipped.length (skipped ++ t) = places kinds t := by
  induction skipped with
  | nil => rfl
  | cons c skipped ih => exact ih

theorem places_cons (outside : first? kinds (c :: t) = none) :
    places kinds (c :: t) = (c :: t) :: places kinds t := by
  rw [places, placesFrom, stride, outside]
  rfl

theorem places_comment (found : first? kinds t = some comment) :
    places kinds t = t :: places kinds comment.rest := by
  obtain ⟨whole, occupied, -⟩ := eq_append_of_first? found
  obtain ⟨c, more, text⟩ := List.exists_cons_of_ne_nil occupied
  rw [text, List.cons_append] at whole
  have skip : stride kinds t - 1 = more.length := by
    simp only [stride, found, text, List.length_cons, Nat.add_sub_cancel]
  rw [whole] at skip ⊢
  rw [places, placesFrom, skip, placesFrom_skip]

@[simp] theorem scan_nil (kinds : List CommentKind) : scan kinds [] = [] := rfl

theorem scan_cons (outside : first? kinds (c :: t) = none) :
    scan kinds (c :: t) = c :: scan kinds t := by
  rw [scan, places_cons outside, List.filterMap_cons, outside]
  rfl

theorem scan_comment (found : first? kinds t = some comment) :
    scan kinds t = scan kinds comment.rest := by
  rw [scan, places_comment found, List.filterMap_cons, found]
  rfl

theorem ne_nil_of_mem_placesFrom {left : Nat} {place : Text}
    (member : place ∈ placesFrom kinds left t) : place ≠ [] := by
  fun_induction placesFrom kinds left t with
  | case1 => cases member
  | case2 left c t ih => exact ih member
  | case3 c t ih =>
    rcases List.mem_cons.mp member with rfl | later
    · exact List.cons_ne_nil c t
    · exact ih later

/-- A statement about texts goes the way they are read: by single characters outside of comments,
and from the beginning of a comment to its end. -/
theorem induction_read (kinds : List CommentKind) {statement : Text → Prop} (done : statement [])
    (outside : ∀ c t, first? kinds (c :: t) = none → statement t → statement (c :: t))
    (inside : ∀ t comment, first? kinds t = some comment → statement comment.rest → statement t)
    (t : Text) : statement t := by
  induction size : t.length using Nat.strongRecOn generalizing t with
  | ind n ih =>
    cases found : first? kinds t with
    | none =>
      cases t with
      | nil => exact done
      | cons c t =>
        exact outside c t found (ih t.length (by rw [← size]; exact Nat.lt_succ_self _) t rfl)
    | some comment =>
      obtain ⟨whole, occupied, -⟩ := eq_append_of_first? found
      refine inside t comment found (ih comment.rest.length ?_ comment.rest rfl)
      have some := List.length_pos_iff.mpr occupied
      rw [← size, congrArg List.length whole, List.length_append]
      omega

theorem first?_cons (kind : CommentKind) (kinds : List CommentKind) (t : Text) :
    first? (kind :: kinds) t = (kind.begins? t).or (first? kinds t) := by
  rw [first?, List.findSome?_cons]
  cases kind.begins? t <;> rfl

theorem first?_single (kind : CommentKind) (t : Text) : first? [kind] t = kind.begins? t := by
  rw [first?, List.findSome?_singleton]

/-- Where nothing opens, all is kept. -/
theorem scan_append (quiet : ∀ s, s ≠ [] → s <:+ t → first? kinds (s ++ u) = none) :
    scan kinds (t ++ u) = t ++ scan kinds u := by
  induction t with
  | nil => rfl
  | cons c t ih =>
    have here := quiet (c :: t) (List.cons_ne_nil c t) (List.suffix_refl _)
    rw [List.cons_append] at here ⊢
    rw [scan_cons here, ih fun s some ending => quiet s some (ending.trans (List.suffix_cons c t)),
      List.cons_append]

/-- A mark begins nowhere in a text, whatever stands behind it. -/
def Apart (mark t : Text) : Prop := ∀ s ∈ t.tails, s ≠ [] → ¬ s <+: mark ∧ ¬ mark <+: s

instance (mark t : Text) : Decidable (Apart mark t) :=
  inferInstanceAs (Decidable (∀ s ∈ t.tails, s ≠ [] → ¬ s <+: mark ∧ ¬ mark <+: s))

theorem Apart.not_prefix (apart : Apart mark t) (occupied : s ≠ []) (ending : s <:+ t) :
    ¬ mark <+: s ++ u := by
  obtain ⟨shorter, longer⟩ := apart s ((List.mem_tails s t).mpr ending) occupied
  intro found
  rcases List.prefix_or_prefix_of_prefix found (List.prefix_append s u) with inside | beyond
  · exact longer inside
  · exact shorter beyond

/-- A mark that stands in a text is behind what it is apart from. -/
theorem Apart.suffix_of_append (apart : Apart mark t) (begins : mark <+: s)
    (ending : s <:+ t ++ u) : s <:+ u := by
  rcases List.suffix_or_suffix_of_suffix ending (List.suffix_append t u) with shorter | ⟨z, rfl⟩
  · exact shorter
  · obtain ⟨front, same⟩ := ending
    rw [← List.append_assoc] at same
    by_cases nothing : z = []
    · rw [nothing, List.nil_append]
    · exact absurd begins (apart.not_prefix nothing ⟨front, List.append_cancel_right same⟩)

theorem scan_append_of_apart (kind : CommentKind) (apart : Apart kind.opening.text t) (u : Text) :
    scan [kind] (t ++ u) = t ++ scan [kind] u := by
  refine scan_append fun s occupied ending => ?_
  rw [first?_single]
  exact begins?_eq_none_of_not_prefix (apart.not_prefix occupied ending)

/-! ### Removing line comments -/

/-- The removal of line comments shortens lines: what it leaves at the beginning of a line was
there. -/
theorem prefix_of_prefix_scan_line (single : '\n' ∉ p) (left : p <+: scan [.line opening] t) :
    p <+: t := by
  induction t using induction_read [.line opening] generalizing p with
  | done => exact left
  | outside c t outside ih =>
    rw [scan_cons outside] at left
    cases p with
    | nil => exact List.nil_prefix
    | cons d p =>
      obtain ⟨rfl, later⟩ := List.cons_prefix_cons.mp left
      exact List.cons_prefix_cons.mpr ⟨rfl,
        ih (fun member => single (List.mem_cons_of_mem _ member)) later⟩
  | inside t comment found ih =>
    rw [scan_comment found] at left
    have rest := ih single left
    rw [first?_single] at found
    obtain ⟨hidden, behind, -, stops, -, rfl⟩ := begins?_line_eq_some_iff.mp found
    obtain rfl := stops.eq_nil_of_prefix single rest
    exact List.nil_prefix

theorem infix_of_infix_scan_line (single : '\n' ∉ p) (left : p <:+: scan [.line opening] t) :
    p <:+: t := by
  induction t using induction_read [.line opening] with
  | done => exact left
  | outside c t outside ih =>
    rw [scan_cons outside, List.infix_cons_iff, ← scan_cons outside] at left
    rcases left with here | later
    · exact (prefix_of_prefix_scan_line single here).isInfix
    · exact (ih later).trans (List.suffix_cons c t).isInfix
  | inside t comment found ih =>
    rw [scan_comment found] at left
    rw [(eq_append_of_first? found).1]
    exact (ih left).trans (List.suffix_append _ _).isInfix

theorem opensInLastLine_eq_false_iff : opensInLastLine mark u t = false ↔
    ∀ s, s ≠ [] → s <:+ t → '\n' ∉ s → ¬ mark <+: s ++ u := by
  induction t with
  | nil =>
    refine ⟨fun _ s occupied ending => absurd (List.suffix_nil.mp ending) occupied, fun _ => rfl⟩
  | cons c t ih =>
    rw [opensInLastLine, Bool.or_eq_false_iff, ih]
    constructor
    · rintro ⟨here, later⟩ s occupied ending single
      rcases List.suffix_cons_iff.mp ending with rfl | shorter
      · simpa [single, ← List.isPrefixOf_iff_prefix] using here
      · exact later s occupied shorter single
    · intro closed
      refine ⟨?_, fun s occupied ending => closed s occupied (ending.trans (List.suffix_cons c t))⟩
      have here := closed (c :: t) (List.cons_ne_nil c t) (List.suffix_refl _)
      simpa [← List.isPrefixOf_iff_prefix] using here

theorem opensInLastLine_of_isSuffix (ending : p <:+ t) (closed : opensInLastLine mark u t = false) :
    opensInLastLine mark u p = false := by
  rw [opensInLastLine_eq_false_iff] at closed ⊢
  exact fun s occupied inside => closed s occupied (inside.trans ending)

theorem opensInLastLine_of_isPrefix (start : p <+: u) (closed : opensInLastLine mark u t = false) :
    opensInLastLine mark p t = false := by
  rw [opensInLastLine_eq_false_iff] at closed ⊢
  intro s occupied ending single opens
  exact closed s occupied ending single (opens.trans ((List.prefix_append_right_inj s).mpr start))

/-- The end of a last line may as well be counted to what stands behind. -/
theorem opensInLastLine_of_append (single : '\n' ∉ p)
    (closed : opensInLastLine mark u (t ++ p) = false) :
    opensInLastLine mark (p ++ u) t = false := by
  rw [opensInLastLine_eq_false_iff] at closed ⊢
  rintro s occupied ⟨front, whole⟩ oneLine opens
  rw [← List.append_assoc] at opens
  refine closed (s ++ p) (List.append_ne_nil_of_left_ne_nil occupied _) ⟨front, ?_⟩ ?_ opens
  · rw [← whole, List.append_assoc]
  · exact fun member => (List.mem_append.mp member).elim oneLine single

/-- A text without line end in which no line comment begins is kept. -/
theorem scan_line_append_single (single : '\n' ∉ t)
    (closed : opensInLastLine opening.text u t = false) :
    scan [.line opening] (t ++ u) = t ++ scan [.line opening] u := by
  refine scan_append fun s occupied ending => ?_
  rw [first?_single, begins?_line_eq_none_iff]
  exact opensInLastLine_eq_false_iff.mp closed s occupied ending fun member =>
    single (ending.subset member)

/-- A text in front of another is taken by itself if no line comment begins in its last line. -/
theorem scan_line_append (closed : opensInLastLine opening.text u t = false) :
    scan [.line opening] (t ++ u) = scan [.line opening] t ++ scan [.line opening] u := by
  rw [opensInLastLine_eq_false_iff] at closed
  induction t using induction_read [.line opening] with
  | done => rfl
  | outside c t outside ih =>
    have still : first? [.line opening] (c :: t ++ u) = none := by
      rw [first?_single, begins?_line_eq_none_iff] at outside ⊢
      intro found
      by_cases newline : '\n' ∈ c :: t
      · obtain ⟨line, later, same⟩ := List.append_of_mem newline
        rw [same, List.append_assoc, List.cons_append] at found
        rw [same] at outside
        exact outside ((Text.prefix_of_prefix_append found opening.single).trans
          (List.prefix_append _ _))
      · exact closed _ (List.cons_ne_nil c t) (List.suffix_refl _) newline found
    rw [List.cons_append] at still ⊢
    rw [scan_cons still, scan_cons outside, List.cons_append,
      ih fun s occupied ending => closed s occupied (ending.trans (List.suffix_cons c t))]
  | inside t comment found ih =>
    obtain ⟨whole, occupied, -⟩ := eq_append_of_first? found
    rw [scan_comment found]
    rw [first?_single] at found
    obtain ⟨hidden, rest, single, stops, same, rfl⟩ := begins?_line_eq_some_iff.mp found
    dsimp only at ih occupied ⊢
    cases rest with
    | nil =>
      rw [List.append_nil] at same
      have opens : opening.text <+: t ++ u := by
        rw [same, List.append_assoc]
        exact List.prefix_append _ _
      have oneLine : '\n' ∉ t := by
        rw [same, List.mem_append]
        exact not_or.mpr ⟨opening.single, single⟩
      exact absurd opens (closed t (same ▸ occupied) (List.suffix_refl t) oneLine)
    | cons d rest =>
      have begins : first? [.line opening] (t ++ u) =
          some ⟨.line opening, opening.text ++ hidden, d :: rest ++ u⟩ := by
        rw [first?_single, same, List.append_assoc]
        exact begins?_line opening single fun c first => stops c first
      rw [scan_comment begins, ih fun s occupied ending => closed s occupied
        (ending.trans ⟨_, same.symm⟩)]

end Comment
end CodeWiki
