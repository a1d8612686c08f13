import CodeWiki.Proofs.Text.Line
import CodeWiki.Section.Reply

/-! Titles and bodies. Behind a marker the rest of its line is a title; the body of a reply is what
follows the line of its first marker, or all of it. -/
namespace CodeWiki.WikiSection

open Unicode

/-! ### Titles -/

theorem trim_dropWhile_blank (t : Text) :
    Text.trim (t.dropWhile fun c => c = ' ' || c = '\t') = Text.trim t := by
  have white : ∀ c ∈ t.takeWhile fun c => c = ' ' || c = '\t', isWhiteSpace c = true := by
    intro c member
    have blank := List.all_eq_true.mp List.all_takeWhile c member
    simp only [Bool.or_eq_true, decide_eq_true_eq] at blank
    rcases blank with rfl | rfl <;> decide
  have cut := Text.trimWhile_append_left white (t.dropWhile fun c => c = ' ' || c = '\t')
  rw [List.takeWhile_append_dropWhile] at cut
  exact cut.symm

/-- The blanks before a title do not matter to it, and the line ends where it ends without them. -/
theorem splitTitle_eq (t : Text) :
    splitTitle t = (Text.trim (Text.firstLine t), Text.laterLines t) := by
  rcases Text.line_cases t with single | ⟨line, rest, single, rfl⟩
  · have shorter : '\n' ∉ t.dropWhile fun c => c = ' ' || c = '\t' := fun member =>
      single ((List.dropWhile_sublist _).mem member)
    have alone : Text.cut? ['\n'] (t.dropWhile fun c => c = ' ' || c = '\t') = none :=
      Text.cut?_eq_none_iff.mpr fun found => shorter (found.subset List.mem_cons_self)
    simp only [splitTitle, alone, trim_dropWhile_blank, Text.firstLine_of_single single,
      Text.laterLines_of_single single]
  · have shorter : '\n' ∉ line.dropWhile fun c => c = ' ' || c = '\t' := fun member =>
      single ((List.dropWhile_sublist _).mem member)
    have kept : (line ++ '\n' :: rest).dropWhile (fun c => c = ' ' || c = '\t') =
        line.dropWhile (fun c => c = ' ' || c = '\t') ++ '\n' :: rest := by
      rw [List.dropWhile_append]
      split
      · rename_i empty
        rw [List.isEmpty_iff.mp empty]
        rfl
      · rfl
    simp only [splitTitle, kept, Text.cut?_singleton rest shorter, trim_dropWhile_blank,
      Text.firstLine_append single, Text.laterLines_append single]

/-! ### Bodies -/

/-- The body of a reply: what follows the line of the first module marker, or all of it. -/
inductive IsBody : Text → Text → Prop
  | whole {reply : Text} (unmarked : ¬ moduleMarker <:+: reply) : IsBody reply reply
  | behind {before after : Text} (first : ¬ moduleMarker <:+: before) :
      IsBody (before ++ moduleMarker ++ after) (Text.laterLines after)

variable {reply body : Text}

theorem moduleMarker_ends_in_colon : moduleMarker = "MODULE".toList ++ [':'] := by decide

theorem titleAndBody_of_isBody (module : Text) (isBody : IsBody reply body) :
    (titleAndBody module reply).2 = body := by
  cases isBody with
  | whole unmarked => simp only [titleAndBody, Text.cut?_eq_none_iff.mpr unmarked]
  | @behind before after first =>
    rw [moduleMarker_ends_in_colon] at first
    have cut := Text.cut?_append_mark (by decide) first after
    rw [← moduleMarker_ends_in_colon, ← List.append_assoc] at cut
    simp only [titleAndBody, cut, splitTitle_eq]

theorem isBody_titleAndBody (module reply : Text) : IsBody reply (titleAndBody module reply).2 := by
  cases cut : Text.cut? moduleMarker reply with
  | none =>
    simp only [titleAndBody, cut]
    exact IsBody.whole (Text.cut?_eq_none_iff.mp cut)
  | some sides =>
    obtain ⟨before, after⟩ := sides
    simp only [titleAndBody, cut, splitTitle_eq]
    rw [Text.eq_append_of_cut? cut]
    exact IsBody.behind (Text.not_infix_of_cut? (by decide) cut)

end CodeWiki.WikiSection
