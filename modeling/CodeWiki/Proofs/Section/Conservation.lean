import CodeWiki.Proofs.Section.Lines

/-! What becomes of a text that is taken apart into paragraphs: only white space is lost, and the
paragraphs written with blank lines between them come back as they are. -/
namespace CodeWiki

open Unicode

namespace Paragraph

variable {b p t : Text} {texts : List Text}

/-! ### Nothing but white space is lost -/

theorem IsBreak.visible (isBreak : IsBreak b) : Text.visible b = [] :=
  Text.visible_of_white isBreak.isWhiteSpace

/-- Along the search for breaks: what is skipped belongs to a break, and is white space. -/
theorem visible_partsFrom (left : Nat) (t : Text) :
    Text.visible ((partsFrom left t).1 ++ (partsFrom left t).2.flatten) =
      Text.visible (t.drop left) := by
  fun_induction partsFrom left t with
  | case1 left => simp
  | case2 left c t ih => exact ih
  | case3 c t left found part later parts ih =>
    obtain ⟨b, rest, isBreak, length, whole⟩ := eq_append_of_breakLength? found
    have behind : t.drop left = rest := by
      calc t.drop left
          = (c :: t).drop (left + 1) := rfl
        _ = rest := by
          rw [whole]
          exact List.drop_left' length
    rw [parts, behind] at ih
    calc Text.visible ([] ++ (part :: later).flatten)
        = Text.visible (part ++ later.flatten) := by rw [List.nil_append, List.flatten_cons]
      _ = Text.visible b ++ Text.visible rest := by rw [ih, isBreak.visible, List.nil_append]
      _ = Text.visible (c :: t) := by rw [whole, Text.visible_append]
  | case4 c t part later parts _ ih =>
    rw [parts] at ih
    calc Text.visible (c :: part ++ later.flatten)
        = Text.visible [c] ++ Text.visible (part ++ later.flatten) := by
          rw [← Text.visible_append, List.cons_append, List.singleton_append]
      _ = Text.visible [c] ++ Text.visible t := by rw [ih, List.drop_zero]
      _ = Text.visible (c :: t) := by rw [← Text.visible_append, List.singleton_append]

theorem visible_tidy (texts : List Text) :
    Text.visible (tidy texts).flatten = Text.visible texts.flatten := by
  induction texts with
  | nil => rfl
  | cons t texts ih =>
    rw [tidy_cons, List.flatten_cons, Text.visible_append]
    cases blank : Text.isBlank t with
    | true => rw [if_pos rfl, ih, Text.visible_eq_nil_iff.mpr blank, List.nil_append]
    | false =>
      rw [if_neg Bool.false_ne_true, List.flatten_cons, Text.visible_append, Text.visible_trim, ih]

theorem visible_ofText (t : Text) : Text.visible (ofText t).flatten = Text.visible t := by
  rw [ofText_eq_tidy, visible_tidy, parts, List.flatten_cons, visible_partsFrom, List.drop_zero]

/-! ### Each paragraph is one -/

theorem breakLength?_append_of_isBreak (isBreak : IsBreak b) (rest : Text) :
    breakLength? (b ++ rest) = some b.length := by
  obtain ⟨blanks, rfl, blank⟩ := isBreak
  have found := breakLength?_blankLine (isBlankLine_iff.mpr blank) rest
  simpa using found

theorem unbroken_partsFrom (left : Nat) (t : Text) :
    ∀ part ∈ (partsFrom left t).1 :: (partsFrom left t).2, ∀ b, IsBreak b → ¬ b <:+: part := by
  have unbroken_nil : ∀ b, IsBreak b → ¬ b <:+: [] := by
    rintro b ⟨blanks, rfl, -⟩ inside
    simp at inside
  fun_induction partsFrom left t with
  | case1 left =>
    intro part member
    obtain rfl := List.mem_singleton.mp member
    exact unbroken_nil
  | case2 left c t ih => exact ih
  | case3 c t left _ part later parts ih =>
    rw [parts] at ih
    intro other member
    rcases List.mem_cons.mp member with rfl | member
    · exact unbroken_nil
    · exact ih other member
  | case4 c t part later parts free ih =>
    have start := (infix_partsFrom 0 t).1
    rw [parts] at ih start
    intro other member
    rcases List.mem_cons.mp member with rfl | member
    · intro b isBreak inside
      rcases List.infix_cons_iff.mp inside with here | inside
      · obtain ⟨rest, whole⟩ := here.trans (List.cons_prefix_cons.mpr ⟨rfl, start⟩)
        have found := breakLength?_append_of_isBreak isBreak rest
        rw [whole] at found
        obtain ⟨blanks, rfl, -⟩ := isBreak
        exact free _ found
      · exact ih part List.mem_cons_self b isBreak inside
    · exact ih other (List.mem_cons_of_mem _ member)

theorem isWhole_of_mem_ofText (member : p ∈ ofText t) : IsWhole p := by
  rw [ofText_eq, List.mem_filter, List.mem_map] at member
  obtain ⟨⟨part, member, rfl⟩, occupied⟩ := member
  refine ⟨by simpa using occupied, Text.trimWhile_trimWhile isWhiteSpace part, ?_⟩
  intro b isBreak inside
  exact unbroken_partsFrom 0 t part member b isBreak
    (inside.trans (Text.trimWhile_infix isWhiteSpace part))

theorem ofText_eq_nil_iff : ofText t = [] ↔ Text.isBlank t = true := by
  rw [← Text.visible_eq_nil_iff, ← visible_ofText]
  constructor
  · intro none
    rw [none]
    rfl
  · intro nothing
    refine List.eq_nil_iff_forall_not_mem.mpr fun p member => ?_
    have whole := isWhole_of_mem_ofText member
    have white : Text.visible p = [] := by
      rw [Text.visible, List.filter_eq_nil_iff] at nothing ⊢
      exact fun c inside => nothing c (List.mem_flatten.mpr ⟨p, member, inside⟩)
    apply whole.nonempty
    rw [← whole.trimmed]
    exact Text.trim_eq_nil_iff.mpr (Text.visible_eq_nil_iff.mp white)

theorem ofText_join_ofText (t : Text) :
    ofText (Text.join ['\n', '\n'] (ofText t)) = ofText t := by
  have back := ofText_join_of_isWhole (fun _ member => isWhole_of_mem_ofText (t := t) member)
    (Or.inl rfl)
  rwa [List.append_nil] at back

end Paragraph

namespace WikiSection

/-- The paragraphs of an overview, without its label. They fail only where there is nothing to show:
the text that stands in for missing paragraphs is always the placeholder. -/
theorem content_ofOverview (reply : Text) : ∃ body,
    (Text.trim reply = overviewLabel ++ body ∨
      ¬ overviewLabel <+: Text.trim reply ∧ body = Text.trim reply) ∧
    (ofOverview reply).content =
      if Text.isBlank body then [emptyOverview] else Paragraph.ofText body := by
  have shown : ∀ body, orElseContent (Paragraph.ofText body)
      [if (Text.trim body).isEmpty then emptyOverview else Text.trim body] =
        if Text.isBlank body then [emptyOverview] else Paragraph.ofText body := by
    intro body
    cases blank : Text.isBlank body with
    | true =>
      rw [Paragraph.ofText_eq_nil_iff.mpr blank, Text.trim_eq_nil_iff.mpr blank]
      rfl
    | false =>
      have occupied : Paragraph.ofText body ≠ [] := fun none => by
        rw [Paragraph.ofText_eq_nil_iff.mp none] at blank
        cases blank
      simp [orElseContent, occupied]
  cases labelled : Text.after? overviewLabel (Text.trim reply) with
  | none =>
    refine ⟨Text.trim reply, Or.inr ⟨Text.after?_eq_none_iff.mp labelled, rfl⟩, ?_⟩
    rw [← shown, ofOverview, labelled]
    rfl
  | some body =>
    refine ⟨body, Or.inl (Text.after?_eq_some_iff.mp labelled), ?_⟩
    rw [← shown, ofOverview, labelled]
    rfl

end WikiSection

namespace Paragraph

/-- The paragraphs of a text are its runs of lines between blank lines, joined and trimmed. So no
visible character is lost; there are paragraphs wherever there is something to see, an overview too;
and paragraphs that are written with blank lines between them are the same paragraphs again. -/
theorem ofText_line_by_line (t : Text) :
    ofText t = ((runs t).map fun lines => Text.trim (joinLines lines)).filter (!·.isEmpty) ∧
    Text.visible (ofText t).flatten = Text.visible t ∧
    (ofText t = [] ↔ Text.isBlank t = true) ∧
    (∃ body, (Text.trim t = WikiSection.overviewLabel ++ body ∨
        ¬ WikiSection.overviewLabel <+: Text.trim t ∧ body = Text.trim t) ∧
      (WikiSection.ofOverview t).content =
        if Text.isBlank body then [WikiSection.emptyOverview] else ofText body) ∧
    ofText (Text.join ['\n', '\n'] (ofText t)) = ofText t := by
  have lines :
      ofText t = ((runs t).map fun lines => Text.trim (joinLines lines)).filter (!·.isEmpty) := by
    rw [ofText_eq_tidy_runs, tidy, List.map_map]
    rfl
  exact ⟨lines, visible_ofText t, ofText_eq_nil_iff, WikiSection.content_ofOverview t,
    ofText_join_ofText t⟩

end Paragraph
end CodeWiki
