import CodeWiki.Proofs.Text.Visible
import CodeWiki.Yaml.Node.Reader

/-! Blank documents. White space that the reader does not pass over, such as a space without a
break, is the content of a plain scalar. So a blank text holds a scalar or nothing, and in no case a
mapping. -/
namespace CodeWiki.Yaml

open Unicode (isWhiteSpace)

variable {t : Text} {source rest : Source} {s s' : Scan} {p : Placed} {tokens : List Token}
  {root : Node}

namespace Source

/-- Whether a source holds nothing but white space. -/
def IsWhite (source : Source) : Prop := ∀ p ∈ source, isWhiteSpace p.char = true

theorem IsWhite.of_suffix (white : IsWhite source) (suffix : rest <:+ source) : IsWhite rest :=
  fun p member => white p (suffix.mem member)

theorem isWhite_place (white : ∀ c ∈ t, isWhiteSpace c = true) (line column index : Nat)
    (afterReturn : Bool) : IsWhite (place line column index afterReturn t) := by
  induction t generalizing line column index afterReturn with
  | nil => exact fun _ member => nomatch member
  | cons c t ih =>
    rw [List.forall_mem_cons] at white
    have breaks : isWhiteSpace (breakChar c) = true := by
      unfold breakChar
      split
      · exact white.1
      · decide
    unfold place
    split
    · exact ih white.2 _ _ _ _
    · split
      · exact List.forall_mem_cons.mpr ⟨breaks, ih white.2 _ _ _ _⟩
      · exact List.forall_mem_cons.mpr ⟨white.1, ih white.2 _ _ _ _⟩

theorem startsMarker_of_ne {c : Char} (other : p.char ≠ c) (rest : Source) :
    startsMarker c (p :: rest) = false := by
  unfold startsMarker
  split
  · rename_i q r rest' same
    cases same
    simp [other]
  · rfl

end Source

theorem Plain.suffix_of_readFrom {inFlow : Bool} {minColumn : Nat} {gap last : Gap}
    (read : readFrom inFlow minColumn gap source = some (t, last, rest)) : rest <:+ source := by
  induction source generalizing gap t with
  | nil =>
    cases read
    exact List.suffix_rfl
  | cons p source ih =>
    unfold readFrom at read
    split at read
    · split at read
      · cases read
      · exact (ih read).trans (List.suffix_cons p source)
    · split at read
      · cases read
        exact List.suffix_rfl
      · split at read
        · cases read
        · split at read
          · cases read
            exact List.suffix_rfl
          · obtain ⟨⟨later, last', rest'⟩, read', same⟩ := Option.bind_eq_some_iff.mp read
            cases same
            exact (ih read').trans (List.suffix_cons p source)

namespace Scan

theorem suffix_skipGap (inFlow keyAllowed inComment : Bool) (source : Source) :
    (skipGap inFlow keyAllowed inComment source).2 <:+ source := by
  induction source generalizing keyAllowed inComment with
  | nil => exact List.suffix_rfl
  | cons p source ih =>
    have later : ∀ keyAllowed inComment,
        (skipGap inFlow keyAllowed inComment source).2 <:+ p :: source :=
      fun _ _ => (ih _ _).trans (List.suffix_cons p source)
    unfold skipGap
    split
    · exact later _ _
    · split
      · exact later _ _
      · split
        · exact later _ _
        · split
          · exact later _ _
          · exact List.suffix_rfl

/-- Whether nothing but plain scalars has been read, outside all blocks and brackets. -/
structure IsIdle (s : Scan) : Prop where
  blocks : s.blocks = []
  outerKeys : s.outerKeys = []
  tokens : ∀ token ∈ s.tokens, ∃ content, token = .scalar content .plain

namespace IsIdle

theorem dropKey? (idle : s.IsIdle) (dropped : s.dropKey? = some s') : s'.IsIdle := by
  obtain ⟨key, -, rfl⟩ := Option.map_eq_some_iff.mp dropped
  exact ⟨idle.blocks, idle.outerKeys, idle.tokens⟩

theorem dropLate? (idle : s.IsIdle) (dropped : s.dropLate? p = some s') : s'.IsIdle := by
  obtain ⟨key, -, dropped⟩ := Option.bind_eq_some_iff.mp dropped
  rw [idle.outerKeys] at dropped
  cases dropped
  exact ⟨idle.blocks, rfl, idle.tokens⟩

theorem closeBlocks (idle : s.IsIdle) (isOver : Nat → Bool) : s.closeBlocks isOver = s := by
  obtain ⟨tokens, blocks, key, outerKeys, keyAllowed⟩ := s
  obtain rfl : blocks = [] := idle.blocks
  obtain rfl : outerKeys = [] := idle.outerKeys
  rfl

theorem noteKey? (idle : s.IsIdle) (noted : s.noteKey? p = some s') : s'.IsIdle := by
  unfold Scan.noteKey? at noted
  split at noted
  · obtain ⟨dropped, drop, same⟩ := Option.bind_eq_some_iff.mp noted
    cases same
    have idle := idle.dropKey? drop
    exact ⟨idle.blocks, idle.outerKeys, idle.tokens⟩
  · cases noted
    exact idle

theorem plain? (idle : s.IsIdle) (read : s.plain? p source = some (s', rest)) :
    s'.IsIdle ∧ rest <:+ source := by
  obtain ⟨⟨content, gap, rest'⟩, scalar, pushed⟩ := Option.bind_eq_some_iff.mp read
  obtain ⟨after, keyed, same⟩ := Option.bind_eq_some_iff.mp pushed
  obtain ⟨noted, note, same'⟩ := Option.bind_eq_some_iff.mp keyed
  cases same
  cases same'
  have idle := idle.noteKey? note
  exact ⟨⟨idle.blocks, idle.outerKeys, List.forall_mem_cons.mpr ⟨⟨content, rfl⟩, idle.tokens⟩⟩,
    Plain.suffix_of_readFrom scalar⟩

/-- No white space is an indicator, so that a plain scalar is all that it can begin. -/
theorem token? (idle : s.IsIdle) (white : isWhiteSpace p.char = true)
    (read : s.token? p rest = some (s', source)) : s'.IsIdle ∧ source <:+ p :: rest := by
  have other : ∀ c, isWhiteSpace c = false → p.char ≠ c := fun c solid same => by
    rw [same, solid] at white
    cases white
  unfold Scan.token? at read
  simp only [other '%' (by decide), other '[' (by decide), other '\x7b' (by decide),
    other ']' (by decide), other '\x7d' (by decide), other ',' (by decide), other '-' (by decide),
    other '?' (by decide), other ':' (by decide), other '*' (by decide), other '&' (by decide),
    other '!' (by decide), other '|' (by decide), other '>' (by decide), other '\'' (by decide),
    other '"' (by decide), Source.startsMarker_of_ne (other '-' (by decide)),
    Source.startsMarker_of_ne (other '.' (by decide)), decide_false, Bool.and_false,
    Bool.false_and, Bool.or_false, Bool.false_eq_true, if_false] at read
  split at read
  · exact idle.plain? read
  · cases read

theorem finish? (idle : s.IsIdle) (finished : s.finish? = some tokens) :
    ∀ token ∈ tokens, ∃ content, token = .scalar content .plain := by
  unfold Scan.finish? at finished
  rw [idle.closeBlocks] at finished
  obtain ⟨dropped, drop, finished⟩ := Option.bind_eq_some_iff.mp finished
  obtain ⟨-, -, same⟩ := Option.bind_eq_some_iff.mp finished
  cases same
  exact fun token member => (idle.dropKey? drop).tokens token (List.mem_reverse.mp member)

theorem run? {fuel : Nat} (idle : s.IsIdle) (white : source.IsWhite)
    (run : Scan.run? fuel s source = some tokens) :
    ∀ token ∈ tokens, ∃ content, token = .scalar content .plain := by
  induction fuel generalizing s source with
  | zero => cases run
  | succ fuel ih =>
    have suffix := suffix_skipGap s.inFlow s.keyAllowed false source
    unfold Scan.run? at run
    rcases skip : skipGap s.inFlow s.keyAllowed false source with ⟨keyAllowed, source'⟩
    rw [skip] at run suffix
    cases source' with
    | nil => exact idle.finish? run
    | cons p rest =>
      obtain ⟨dropped, drop, run⟩ := Option.bind_eq_some_iff.mp run
      obtain ⟨⟨after, rest'⟩, read, run⟩ := Option.bind_eq_some_iff.mp run
      have idle : dropped.IsIdle :=
        dropLate? (s := { s with keyAllowed }) ⟨idle.blocks, idle.outerKeys, idle.tokens⟩ drop
      have white := white.of_suffix suffix
      rw [idle.closeBlocks] at read
      obtain ⟨idle, suffix⟩ := idle.token? (white p List.mem_cons_self) read
      exact ih idle (white.of_suffix suffix) run

end IsIdle
end Scan

theorem Token.ofText?_of_isBlank (blank : Text.isBlank t = true) (read : ofText? t = some tokens) :
    ∀ token ∈ tokens, ∃ content, token = .scalar content .plain := by
  obtain ⟨source, placed, run⟩ := Option.bind_eq_some_iff.mp read
  unfold Source.ofText? at placed
  split at placed
  · cases placed
    exact Scan.IsIdle.run? ⟨rfl, rfl, fun _ member => absurd member List.not_mem_nil⟩
      (Source.isWhite_place (Text.isBlank_iff.mp blank) _ _ _ _) run
  · cases placed

/-- A blank text stands for a scalar. -/
theorem Node.ofText?_of_isBlank (blank : Text.isBlank t = true) (read : ofText? t = some root) :
    ∃ content, root = .scalar content .plain none := by
  obtain ⟨tokens, tokenized, read⟩ := Option.bind_eq_some_iff.mp read
  have scalars := Token.ofText?_of_isBlank blank tokenized
  cases tokens with
  | nil =>
    cases read
    exact ⟨[], rfl⟩
  | cons token tokens =>
    rw [List.forall_mem_cons] at scalars
    obtain ⟨content, rfl⟩ := scalars.1
    obtain ⟨⟨node, rest⟩, document, read⟩ := Option.bind_eq_some_iff.mp read
    obtain rfl : Node.scalar content .plain none = node := by
      cases document
      rfl
    refine ⟨content, ?_⟩
    dsimp only at read
    split at read
    · exact (Option.some.inj read).symm
    · cases read

end CodeWiki.Yaml
