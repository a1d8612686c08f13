import CodeWiki.Proofs.Text.Cut
import CodeWiki.Proofs.Text.Trim
import CodeWiki.Section.Draft

/-! Paragraphs that are written with blank lines between them are read back. A paragraph has no
break in it and does not end in white space, so no break begins in it either, whatever follows. -/
namespace CodeWiki.Paragraph

variable {p t u : Text} {c : Char}

theorem isWhiteSpace_of_isLineBlank (blank : isLineBlank c = true) :
    Unicode.isWhiteSpace c = true := by
  simp only [isLineBlank, Bool.or_eq_true, decide_eq_true_eq] at blank
  rcases blank with (rfl | rfl) | rfl <;> decide

theorem IsBreak.isWhiteSpace {b : Text} (isBreak : IsBreak b) :
    ∀ c ∈ b, Unicode.isWhiteSpace c = true := by
  obtain ⟨blanks, rfl, blank⟩ := isBreak
  intro c member
  simp only [List.cons_append, List.mem_cons, List.mem_append, List.not_mem_nil, or_false] at member
  rcases member with rfl | member | rfl
  · decide
  · exact isWhiteSpace_of_isLineBlank (blank c member)
  · decide

theorem unbroken_of_line (line : '\n' ∉ p) : ∀ b, IsBreak b → ¬ b <:+: p := by
  rintro b ⟨blanks, rfl, -⟩ inside
  exact line (inside.subset (by simp))

/-- A break is found only where there is one, with its length. -/
theorem eq_append_of_breakLength? {n : Nat} (found : breakLength? t = some n) :
    ∃ b rest, IsBreak b ∧ b.length = n ∧ t = b ++ rest := by
  unfold breakLength? at found
  split at found
  · rename_i t
    split at found
    · rename_i rest ended
      cases found
      refine ⟨'\n' :: t.takeWhile isLineBlank ++ ['\n'], rest,
        ⟨_, rfl, List.all_eq_true.mp List.all_takeWhile⟩, by simp, ?_⟩
      calc '\n' :: t
          = '\n' :: (t.takeWhile isLineBlank ++ t.dropWhile isLineBlank) := by
            rw [List.takeWhile_append_dropWhile]
        _ = '\n' :: (t.takeWhile isLineBlank ++ '\n' :: rest) := by rw [ended]
        _ = '\n' :: t.takeWhile isLineBlank ++ ['\n'] ++ rest := by simp
    · cases found
  · cases found

theorem prefix_of_breakLength? {n : Nat} (found : breakLength? t = some n) :
    ∃ b, IsBreak b ∧ b <+: t := by
  obtain ⟨b, rest, isBreak, -, whole⟩ := eq_append_of_breakLength? found
  exact ⟨b, isBreak, rest, whole.symm⟩

/-- No break begins in a text without breaks that ends in something else than white space. -/
theorem breakLength?_append (unbroken : ∀ b, IsBreak b → ¬ b <:+: p) (occupied : p ≠ [])
    (solid : ∀ c, p.getLast? = some c → Unicode.isWhiteSpace c = false) (t : Text) :
    breakLength? (p ++ t) = none := by
  cases found : breakLength? (p ++ t) with
  | none => rfl
  | some n =>
    exfalso
    obtain ⟨b, isBreak, beginning⟩ := prefix_of_breakLength? found
    rcases List.prefix_or_prefix_of_prefix beginning (List.prefix_append p t) with inside | longer
    · exact unbroken b isBreak inside.isInfix
    · have last := List.getLast?_eq_some_getLast occupied
      have white := isBreak.isWhiteSpace _ (longer.mem (List.getLast_mem occupied))
      rw [solid _ last] at white
      cases white

/-- The parts of a text with a paragraph in front, which goes to the first of them. -/
theorem partsFrom_append (unbroken : ∀ b, IsBreak b → ¬ b <:+: p)
    (solid : ∀ c, p.getLast? = some c → Unicode.isWhiteSpace c = false) (t : Text) :
    partsFrom 0 (p ++ t) = (p ++ (partsFrom 0 t).1, (partsFrom 0 t).2) := by
  induction p with
  | nil => rfl
  | cons c p ih =>
    have none := breakLength?_append unbroken (List.cons_ne_nil c p) solid t
    have later := ih (fun b isBreak inside => unbroken b isBreak (List.infix_cons inside)) (by
      intro d last
      apply solid
      rw [List.getLast?_cons, last]
      rfl)
    rw [List.cons_append] at none ⊢
    simp only [partsFrom, none, later, List.cons_append]

/-- The parts lie in the text, the first of them at its beginning. -/
theorem infix_partsFrom (left : Nat) (t : Text) :
    (partsFrom left t).1 <+: t.drop left ∧ ∀ part ∈ (partsFrom left t).2, part <:+: t := by
  fun_induction partsFrom left t with
  | case1 left => simp
  | case2 left c t ih =>
    exact ⟨ih.1, fun part member => (ih.2 part member).trans (List.suffix_cons c t).isInfix⟩
  | case3 c t left _ part later parts ih =>
    rw [parts] at ih
    refine ⟨List.nil_prefix, ?_⟩
    intro other member
    have inside : other <:+: t := by
      rcases List.mem_cons.mp member with rfl | member
      · exact ih.1.isInfix.trans (List.drop_suffix left t).isInfix
      · exact ih.2 other member
    exact inside.trans (List.suffix_cons c t).isInfix
  | case4 c t part later parts _ ih =>
    rw [parts] at ih
    refine ⟨List.cons_prefix_cons.mpr ⟨rfl, ih.1⟩, ?_⟩
    intro other member
    exact (ih.2 other member).trans (List.suffix_cons c t).isInfix

theorem ofText_eq (t : Text) : ofText t =
    (((partsFrom 0 t).1 :: (partsFrom 0 t).2).map Text.trim).filter (!·.isEmpty) := rfl

theorem infix_of_mem_ofText (member : p ∈ ofText t) : p <:+: t := by
  rw [ofText_eq, List.mem_filter, List.mem_map] at member
  obtain ⟨⟨part, member, rfl⟩, -⟩ := member
  obtain ⟨first, later⟩ := infix_partsFrom 0 t
  refine (Text.trimWhile_infix Unicode.isWhiteSpace part).trans ?_
  rcases List.mem_cons.mp member with rfl | member
  · exact first.isInfix
  · exact later part member

/-- What begins with a paragraph has it at the beginning of the first of its own. -/
theorem ofText_append (occupied : p ≠ []) (unbroken : ∀ b, IsBreak b → ¬ b <:+: p)
    (first : ∀ c, p.head? = some c → Unicode.isWhiteSpace c = false)
    (last : ∀ c, p.getLast? = some c → Unicode.isWhiteSpace c = false) (t : Text) :
    ∃ q rest, ofText (p ++ t) = (p ++ q) :: rest := by
  have parts := partsFrom_append unbroken last t
  have nothing : ∀ c ∈ ([] : Text), Unicode.isWhiteSpace c = true := by simp
  have trimmed := Text.trimWhile_append occupied nothing first last (partsFrom 0 t).1
  rw [List.nil_append] at trimmed
  refine ⟨Text.dropEndWhile Unicode.isWhiteSpace (partsFrom 0 t).1,
    ((partsFrom 0 t).2.map Text.trim).filter (!·.isEmpty), ?_⟩
  rw [ofText_eq, parts, List.map_cons, Text.trim, trimmed,
    List.filter_cons_of_pos (by simp [occupied])]

/-- What comes out as one paragraph wherever it stands between blank lines. -/
structure IsWhole (t : Text) : Prop where
  nonempty : t ≠ []
  trimmed : Text.trim t = t
  unbroken : ∀ b, IsBreak b → ¬ b <:+: t

theorem ofText_append_blankLine (whole : IsWhole p) (t : Text) :
    ofText (p ++ '\n' :: '\n' :: t) = p :: ofText t := by
  have parts := partsFrom_append whole.unbroken (Text.last_of_trimmed whole.trimmed)
    ('\n' :: '\n' :: t)
  have first : partsFrom 0 ('\n' :: '\n' :: t) =
      ([], (partsFrom 0 t).1 :: (partsFrom 0 t).2) := rfl
  rw [ofText_eq, parts, first, List.append_nil, List.map_cons, whole.trimmed,
    List.filter_cons_of_pos (by simpa using whole.nonempty), ofText_eq]

theorem ofText_of_isWhole (whole : IsWhole p) : ofText p = [p] := by
  have parts := partsFrom_append whole.unbroken (Text.last_of_trimmed whole.trimmed) []
  have last : partsFrom 0 [] = ([], []) := rfl
  rw [last, List.append_nil] at parts
  rw [ofText_eq, parts, List.map_cons, whole.trimmed,
    List.filter_cons_of_pos (by simpa using whole.nonempty)]
  rfl

/-- The end of a text that is written: nothing, or the blank line before what comes next. -/
def IsTail (t : Text) : Prop := t = [] ∨ t = ['\n', '\n']

theorem ofText_join_of_isWhole {paragraphs : List Text} (all : ∀ p ∈ paragraphs, IsWhole p)
    {tail : Text} (ends : IsTail tail) :
    ofText (Text.join ['\n', '\n'] paragraphs ++ tail) = paragraphs := by
  induction paragraphs with
  | nil => rcases ends with rfl | rfl <;> rfl
  | cons p rest ih =>
    have first := all p List.mem_cons_self
    cases rest with
    | nil =>
      rw [Text.join_singleton]
      rcases ends with rfl | rfl
      · rw [List.append_nil, ofText_of_isWhole first]
      · exact ofText_append_blankLine first []
    | cons q rest =>
      have later := ih fun r member => all r (List.mem_cons_of_mem p member)
      have joined : Text.join ['\n', '\n'] (p :: q :: rest) ++ tail =
          p ++ '\n' :: '\n' :: (Text.join ['\n', '\n'] (q :: rest) ++ tail) := by
        simp only [Text.join, List.intercalate_cons_cons, List.append_assoc, List.cons_append,
          List.nil_append]
      rw [joined, ofText_append_blankLine first, later]

theorem ofText_join {paragraphs : List Text} (all : ∀ p ∈ paragraphs, IsParagraph p)
    {tail : Text} (ends : IsTail tail) :
    ofText (Text.join ['\n', '\n'] paragraphs ++ tail) = paragraphs :=
  ofText_join_of_isWhole (fun p member =>
    ⟨(all p member).nonempty, (all p member).trimmed, (all p member).unbroken⟩) ends

end CodeWiki.Paragraph
