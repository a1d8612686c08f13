import CodeWiki.Excerpt.Density
import CodeWiki.Proofs.Ranking
import CodeWiki.Proofs.Text.Rows
import CodeWiki.Proofs.Text.Visible

/-! The busiest lines of a file are the best ones, in file order. Sorting by score leaves lines of
equal score in file order, so what is taken is ranked before what is left; a selection of that size
with this property is the only one. -/
namespace CodeWiki.Density

variable {lines : List Scored} {limit : Nat} {a b : Scored}

/-- Better than another line: of a higher score, or of the same and earlier. -/
def Precedes (a b : Scored) : Prop := b.score < a.score ∨ b.score = a.score ∧ a.number < b.number

theorem select_perm (limit : Nat) (lines : List Scored) :
    (select limit lines).Perm ((ranked Scored.score lines).take limit) := List.mergeSort_perm _ _

theorem length_select (limit : Nat) (lines : List Scored) :
    (select limit lines).length = min limit lines.length := by
  rw [(select_perm limit lines).length_eq, List.length_take,
    (ranked_perm Scored.score lines).length_eq]

theorem mem_of_mem_select (member : a ∈ select limit lines) : a ∈ lines :=
  (ranked_perm Scored.score lines).mem_iff.mp
    (List.mem_of_mem_take ((select_perm limit lines).mem_iff.mp member))

/-- What is selected comes before what is not. -/
theorem precedes_of_select (inOrder : lines.Pairwise fun a b => a.number < b.number)
    (kept : a ∈ select limit lines) (listed : b ∈ lines) (omitted : b ∉ select limit lines) :
    Precedes a b := by
  have pairs : (ranked Scored.score lines).Pairwise Precedes := ranked_pairwise Scored.score inOrder
  rw [← List.take_append_drop limit (ranked Scored.score lines)] at pairs
  rw [(select_perm limit lines).mem_iff] at kept omitted
  have place := (ranked_perm Scored.score lines).mem_iff.mpr listed
  rw [← List.take_append_drop limit (ranked Scored.score lines), List.mem_append] at place
  exact (List.pairwise_append.mp pairs).2.2 a kept b (place.resolve_left omitted)

theorem select_inOrder (inOrder : lines.Pairwise fun a b => a.number < b.number) :
    (select limit lines).Pairwise fun a b => a.number < b.number := by
  have rising : (select limit lines).Pairwise fun a b => decide (a.number ≤ b.number) = true :=
    List.pairwise_mergeSort (key_trans Scored.number) (key_total Scored.number) _
  have different : (select limit lines).Pairwise fun a b => a.number ≠ b.number := by
    have all : (ranked Scored.score lines).Pairwise fun a b => a.number ≠ b.number :=
      (ranked_perm Scored.score lines).symm.pairwise (inOrder.imp Nat.ne_of_lt) Ne.symm
    exact (select_perm limit lines).symm.pairwise (all.sublist (List.take_sublist _ _)) Ne.symm
  exact (rising.and different).imp fun both => Nat.lt_of_le_of_ne (of_decide_eq_true both.1) both.2

/-! ### The lines of a file -/

variable {code : Text} {n m s : Nat}

def lineAt (code : Text) (n : Nat) : Text := ((Text.lines code)[n]?).getD []

/-- The score of a line by its number; there is none where there is no line. -/
def scoreAt (code : Text) (n : Nat) : Option Nat := ((Text.lines code)[n]?).bind score

theorem mem_scored_iff {x : Scored} :
    x ∈ scored code ↔ (Text.lines code)[x.number]? = some x.line ∧ score x.line = some x.score := by
  obtain ⟨number, value, line⟩ := x
  simp only [scored, List.mem_filterMap, Prod.exists, List.mk_mem_zipIdx_iff_getElem?,
    Option.map_eq_some_iff, Scored.mk.injEq]
  constructor
  · rintro ⟨line', number', here, value', found, rfl, rfl, rfl⟩
    exact ⟨here, found⟩
  · rintro ⟨here, found⟩
    exact ⟨line, number, here, value, found, rfl, rfl, rfl⟩

theorem scoreAt_eq_some_iff : scoreAt code n = some s ↔ ⟨n, s, lineAt code n⟩ ∈ scored code := by
  rw [mem_scored_iff, scoreAt, lineAt, Option.bind_eq_some_iff]
  constructor
  · rintro ⟨line, here, found⟩
    rw [here]
    exact ⟨rfl, found⟩
  · rintro ⟨here, found⟩
    exact ⟨_, here, found⟩

theorem lineAt_of_mem {x : Scored} (member : x ∈ scored code) : lineAt code x.number = x.line := by
  rw [lineAt, (mem_scored_iff.mp member).1, Option.getD_some]

theorem scored_inOrder (code : Text) : (scored code).Pairwise fun a b => a.number < b.number := by
  have numbered : (Text.lines code).zipIdx.Pairwise fun a b => a.2 < b.2 := by
    rw [← List.pairwise_map (f := Prod.snd) (R := (· < ·)), List.zipIdx_map_snd]
    exact List.pairwise_lt_range'
  refine numbered.filterMap _ fun a a' less b found b' found' => ?_
  obtain ⟨_, -, rfl⟩ := Option.map_eq_some_iff.mp found
  obtain ⟨_, -, rfl⟩ := Option.map_eq_some_iff.mp found'
  exact less

theorem map_line_scored (code : Text) :
    (scored code).map Scored.line = (Text.lines code).filter fun line => (score line).isSome := by
  have kept : ∀ entry : Text × Nat,
      ((score entry.1).map fun score => (⟨entry.2, score, entry.1⟩ : Scored)).map Scored.line =
        (Option.guard fun line => (score line).isSome) entry.1 := by
    rintro ⟨line, number⟩
    cases found : score line <;> simp [Option.guard, found]
  conv_rhs => rw [← List.zipIdx_map_fst 0 (Text.lines code)]
  rw [scored, List.map_filterMap, ← List.filterMap_eq_filter, List.filterMap_map]
  exact List.filterMap_congr fun entry _ => kept entry

theorem length_scored (code : Text) :
    (scored code).length = (Text.lines code).countP fun line => (score line).isSome := by
  rw [← List.length_map (f := Scored.line), map_line_scored, List.countP_eq_length_filter]

/-- The numbers of the lines that should stand for a file: as many as are asked for and have a
score, in order, none worse than one that is left out, and the earlier of equally good ones. -/
structure IsBusiest (limit : Nat) (code : Text) (kept : List Nat) : Prop where
  inOrder : kept.Pairwise (· < ·)
  scored : ∀ n ∈ kept, scoreAt code n ≠ none
  size : kept.length = min limit ((Text.lines code).countP fun line => (score line).isSome)
  best : ∀ n ∈ kept, ∀ m ∉ kept, ∀ s t, scoreAt code n = some s → scoreAt code m = some t →
    t ≤ s ∧ (t = s → n < m)

theorem select_sublist (limit : Nat) (code : Text) :
    ((select limit (scored code)).map Scored.line).Sublist (Text.lines code) := by
  have ordered : Std.Antisymm fun a b : Scored => a.number < b.number :=
    ⟨fun _ _ less more => absurd less (Nat.lt_asymm more)⟩
  have taken : (select limit (scored code)).Subperm (scored code) :=
    ((select_perm limit _).subperm.trans (List.take_sublist _ _).subperm).trans
      (ranked_perm _ _).subperm
  have inside := List.sublist_of_subperm_of_pairwise taken (select_inOrder (scored_inOrder code))
    (scored_inOrder code)
  have listed := inside.map Scored.line
  rw [map_line_scored] at listed
  exact listed.trans List.filter_sublist

variable {kept other : List Nat}

/-- The numbers of the selected lines. -/
def numbers (limit : Nat) (code : Text) : List Nat := (select limit (scored code)).map Scored.number

theorem isBusiest_numbers (limit : Nat) (code : Text) :
    IsBusiest limit code (numbers limit code) := by
  have listed : ∀ x ∈ select limit (scored code), scoreAt code x.number = some x.score := by
    intro x member
    have inside := mem_of_mem_select member
    rw [scoreAt_eq_some_iff, lineAt_of_mem inside]
    exact inside
  refine ⟨?_, ?_, ?_, ?_⟩
  · rw [numbers, List.pairwise_map]
    exact select_inOrder (scored_inOrder code)
  · intro n member
    obtain ⟨x, inside, rfl⟩ := List.mem_map.mp member
    rw [listed x inside]
    exact Option.some_ne_none _
  · rw [numbers, List.length_map, length_select, length_scored]
  · intro n member m absent s t here there
    obtain ⟨x, inside, rfl⟩ := List.mem_map.mp member
    obtain rfl : x.score = s := Option.some.inj ((listed x inside).symm.trans here)
    have omitted : ⟨m, t, lineAt code m⟩ ∉ select limit (scored code) :=
      fun selected => absent (List.mem_map_of_mem (f := Scored.number) selected)
    have precedes :=
      precedes_of_select (scored_inOrder code) inside (scoreAt_eq_some_iff.mp there) omitted
    rcases precedes with worse | ⟨tied, earlier⟩
    · exact ⟨Nat.le_of_lt worse, fun same => absurd same (Nat.ne_of_lt worse)⟩
    · exact ⟨Nat.le_of_eq tied, fun _ => earlier⟩

/-- Of two selections neither can hold a line that the other leaves out: each of the two lines would
have to be better than the other. -/
theorem IsBusiest.no_exchange (best : IsBusiest limit code kept)
    (best' : IsBusiest limit code other) (member : n ∈ kept) (absent : n ∉ other)
    (member' : m ∈ other) (absent' : m ∉ kept) : False := by
  obtain ⟨s, here⟩ := Option.ne_none_iff_exists'.mp (best.scored n member)
  obtain ⟨t, there⟩ := Option.ne_none_iff_exists'.mp (best'.scored m member')
  obtain ⟨fewer, earlier⟩ := best.best n member m absent' s t here there
  obtain ⟨fewer', earlier'⟩ := best'.best m member' n absent t s there here
  have tied := Nat.le_antisymm fewer fewer'
  exact Nat.lt_asymm (earlier tied) (earlier' tied.symm)

theorem IsBusiest.unique (best : IsBusiest limit code kept) (best' : IsBusiest limit code other) :
    other = kept :=
  eq_of_no_exchange (fun _ _ => Nat.lt_asymm) best.inOrder best'.inOrder
    (best.size.trans best'.size.symm) fun _ member absent _ member' absent' =>
      best.no_exchange best' member absent member' absent'

/-! ### The excerpt -/

theorem not_isBlank_of_score {line : Text} (found : score line = some s) :
    Text.isBlank line = false := by
  rw [← Bool.not_eq_true, ← Text.trim_eq_nil_iff]
  intro blank
  rw [score, blank] at found
  cases found

theorem not_isBlank_of_mem_select {line : Text}
    (member : line ∈ (select limit (scored code)).map Scored.line) : Text.isBlank line = false := by
  obtain ⟨x, selected, rfl⟩ := List.mem_map.mp member
  exact not_isBlank_of_score (mem_scored_iff.mp (mem_of_mem_select selected)).2

theorem isRows_busiest (limit : Nat) (code : Text) :
    Text.IsRows ((select limit (scored code)).map Scored.line) (busiest limit code) := by
  refine ⟨rfl, fun row member empty => ?_, fun row member => ?_⟩
  · have seen := not_isBlank_of_mem_select member
    rw [empty] at seen
    cases seen
  · exact Text.newline_not_mem_of_mem_lines ((select_sublist limit code).mem member)

/-- The busiest lines are what they are said to be, and nothing else is: there is one selection of
lines, by their places in the file, that is the best, and the excerpt consists of these lines as
they are. -/
theorem busiest_best (limit : Nat) (code : Text) : ∃ kept,
    IsBusiest limit code kept ∧ (∀ other, IsBusiest limit code other → other = kept) ∧
    Text.IsRows (kept.map (lineAt code)) (busiest limit code) := by
  have best := isBusiest_numbers limit code
  refine ⟨numbers limit code, best, fun other best' => best.unique best', ?_⟩
  have lines :
      (numbers limit code).map (lineAt code) = (select limit (scored code)).map Scored.line := by
    rw [numbers, List.map_map]
    exact List.map_congr_left fun x member => lineAt_of_mem (mem_of_mem_select member)
  rw [lines]
  exact isRows_busiest limit code

end CodeWiki.Density
