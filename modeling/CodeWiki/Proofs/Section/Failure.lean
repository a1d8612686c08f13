import CodeWiki.Proofs.Schedule.Retry
import CodeWiki.Proofs.Section.Identifier
import CodeWiki.Proofs.Section.Paragraph

/-! How a failure shows in the wiki. The text that a failed task leaves is read like any reply, so
the section says what failed as long as the text holds no marker in front of the error. -/
namespace CodeWiki

open Schedule.Interleaving (Settles)

variable {attempts made i : Nat} {name t : Text} {replies : Nat → Reply}
  {outcome : Outcome} {e : CompletionError}

/-- No error begins like a marker of subsections. -/
theorem CompletionError.exists_message (e : CompletionError) :
    ∃ c rest, e.message = c :: rest ∧ Unicode.isWhiteSpace c = false ∧ c ≠ 'S' := by
  cases e with
  | rateLimited retryAfterMs =>
    cases retryAfterMs with
    | none => exact ⟨'R', _, rfl, by decide⟩
    | some ms => exact ⟨'R', _, rfl, by decide⟩
  | authentication body => exact ⟨'A', _, rfl, by decide⟩
  | http status body => exact ⟨'H', _, rfl, by decide⟩
  | network reason => exact ⟨'N', _, rfl, by decide⟩
  | invalidResponse reason => exact ⟨'I', _, rfl, by decide⟩

namespace WikiSection

def failureLabel : Text := "Error generating module"

/-- How the text of a failed module begins. -/
def failureOpening (name : Text) : Text := failureLabel ++ ' ' :: name ++ [':', ' ']

theorem failureOpening_append (name message : Text) :
    failureOpening name ++ message =
      (failureLabel ++ ' ' :: (name ++ [':'])) ++ ' ' :: message := by
  simp only [failureOpening, List.append_assoc, List.cons_append, List.nil_append]

theorem errorMarker_module (name message : Text) :
    Subject.errorMarker (.module name) message = failureOpening name ++ message := by
  have label : "Error generating module ".toList = failureLabel ++ [' '] := by decide +kernel
  have colon : ": ".toList = [':', ' '] := by decide +kernel
  change "Error generating module ".toList ++ name ++ ": ".toList ++ message = _
  rw [label, colon]
  simp only [failureOpening, List.append_assoc, List.cons_append, List.nil_append]

theorem text_of_failure (settles : Settles attempts (.module name) replies made outcome)
    (failed : replies made = .failure e) : outcome.text = failureOpening name ++ e.message := by
  cases settles with
  | text _ _ reply | crash _ _ reply =>
    rw [failed] at reply
    cases reply
  | failure _ _ reply | exhausted _ reply =>
    rw [failed] at reply
    cases reply
    exact errorMarker_module name e.message

section Markers

variable {marker : Text}

theorem marker_infix_opening_iff (absent : ' ' ∉ marker) (fresh : ¬ marker <:+: failureLabel)
    (name : Text) :
    marker <:+: failureLabel ++ ' ' :: (name ++ [':']) ↔ marker <:+: name ++ [':'] := by
  rw [Text.infix_append_iff absent]
  simp only [fresh, false_or]

/-- A marker in the text of a failure lies in the name with the colon behind it, or in the error. -/
theorem marker_infix_iff (absent : ' ' ∉ marker) (fresh : ¬ marker <:+: failureLabel)
    (name message : Text) :
    marker <:+: failureOpening name ++ message ↔
      marker <:+: name ++ [':'] ∨ marker <:+: message := by
  rw [failureOpening_append, Text.infix_append_iff absent, marker_infix_opening_iff absent fresh]

end Markers

/-- A reply without the marker of a module has the title of the module, and all of it is body. -/
theorem ofReply_of_unmarked {reply : Text} (name : Text) (unmarked : ¬ moduleMarker <:+: reply) :
    (ofReply name reply).title = Text.capitalize name ∧
      ((ofReply name reply).content = Paragraph.ofText (Text.pieces subsectionMarker reply).1 ∨
        Paragraph.ofText (Text.pieces subsectionMarker reply).1 = [] ∧
          (ofReply name reply).content = [emptyModule]) := by
  have whole : titleAndBody name reply = (Text.capitalize name, reply) := by
    simp only [titleAndBody, Text.cut?_eq_none_iff.mpr unmarked]
  simp only [ofReply, whole, title, content, true_and]
  split
  · rename_i empty
    simp only [Bool.and_eq_true, List.isEmpty_iff] at empty
    exact Or.inr ⟨empty.1, rfl⟩
  · exact Or.inl rfl

/-- What stands before the marker of a module is not read. -/
theorem ofReply_of_cut? {reply before after : Text} (name : Text)
    (marked : Text.cut? moduleMarker reply = some (before, after)) :
    ofReply name reply = ofReply name (moduleMarker ++ after) := by
  have same : titleAndBody name reply = titleAndBody name (moduleMarker ++ after) := by
    simp only [titleAndBody, marked, Text.cut?_append_self]
  simp only [ofReply, same]

theorem body_of_failure (line : '\n' ∉ name) (unmarked : ¬ subsectionMarker <:+: name ++ [':'])
    (e : CompletionError) : ∃ q rest,
      Paragraph.ofText (Text.pieces subsectionMarker (failureOpening name ++ e.message)).1 =
        (failureOpening name ++ q) :: rest := by
  obtain ⟨c, later, message, solid, other⟩ := e.exists_message
  have blank : ' ' ∉ subsectionMarker := by decide
  have before : ¬ subsectionMarker <:+: failureLabel ++ ' ' :: (name ++ [':']) := by
    rw [marker_infix_opening_iff blank (by decide +kernel)]
    exact unmarked
  have early : ¬ subsectionMarker <+: c :: later := by
    rintro ⟨rest, same⟩
    exact other (List.cons.inj same).1.symm
  -- the opening with the first character of the error, which no trimming takes away
  have main : (Text.pieces subsectionMarker (failureOpening name ++ e.message)).1 =
      (failureOpening name ++ [c]) ++ (Text.pieces subsectionMarker later).1 := by
    rw [failureOpening_append, Text.pieces_append before blank, message, Text.pieces_cons early]
    simp only [failureOpening_append, List.append_assoc, List.cons_append, List.nil_append]
  have label : failureLabel.head? = some 'E' := rfl
  have oneLine : '\n' ∉ failureOpening name ++ [c] := by
    have plain : '\n' ∉ failureLabel := by decide +kernel
    have visible : c ≠ '\n' := by
      rintro rfl
      cases solid
    simp [failureOpening, plain, line, visible.symm]
  have content := Paragraph.ofText_append (p := failureOpening name ++ [c]) (by simp)
    (Paragraph.unbroken_of_line oneLine) ?_ ?_ (Text.pieces subsectionMarker later).1
  · obtain ⟨q, rest, content⟩ := content
    refine ⟨c :: q, rest, ?_⟩
    rw [main, content]
    simp
  · intro d first
    simp only [failureOpening, List.append_assoc, List.head?_append, label, Option.some_or] at first
    cases first
    decide +kernel
  · intro d last
    rw [List.getLast?_concat] at last
    cases last
    exact solid

/-- The first paragraph is cut off in the opening if the opening has a marker in it. -/
theorem unmarked_of_paragraph {p : Text} {rest : List Text}
    (body : Paragraph.ofText (Text.pieces subsectionMarker t).1 = p :: rest)
    (begins : failureOpening name <+: p) : ¬ subsectionMarker <:+: name ++ [':'] := by
  intro marked
  have inside : name ++ [':'] <:+: failureOpening name :=
    ⟨failureLabel ++ [' '], [' '], by simp [failureOpening]⟩
  have member : p ∈ Paragraph.ofText (Text.pieces subsectionMarker t).1 := by
    rw [body]
    exact List.mem_cons_self
  have found := ((marked.trans inside).trans begins.isInfix).trans
    (Paragraph.infix_of_mem_ofText member)
  exact Text.not_infix_pieces (by decide) t found

/-- The section of a failed module has the title of the module and begins with the error, unless
there is a marker in the name with its colon or a module's marker in the error. Of a text with a
module's marker only what follows the first is read. -/
theorem failed_module_section {modules : List (Text × Text)} (overview : Text) (line : '\n' ∉ name)
    (settles : Settles attempts (.module name) replies made outcome)
    (failed : replies made = .failure e) (given : modules[i]? = some (name, outcome.text)) :
    (moduleMarker <:+: outcome.text ↔
      moduleMarker <:+: name ++ [':'] ∨ moduleMarker <:+: e.message) ∧
    ∃ s, (assemble overview modules)[i + 1]? = some s ∧
      (¬ moduleMarker <:+: outcome.text → s.title = Text.capitalize name ∧
        ((∃ p rest, s.content = p :: rest ∧ failureOpening name <+: p) ↔
          ¬ subsectionMarker <:+: name ++ [':'])) ∧
      (moduleMarker <:+: outcome.text →
        ∃ before after, Text.cut? moduleMarker outcome.text = some (before, after) ∧
          s.withoutIds = (ofReply name (moduleMarker ++ after)).withoutIds) := by
  have text := text_of_failure settles failed
  obtain ⟨s, here, same⟩ := assemble_module given
  refine ⟨?_, s, here, ?_, ?_⟩
  · rw [text]
    exact marker_infix_iff (by decide) (by decide +kernel) name e.message
  · intro unmarked
    obtain ⟨titled, body⟩ := ofReply_of_unmarked name unmarked
    rw [← title_withoutIds, ← content_withoutIds, same, title_withoutIds, content_withoutIds]
    refine ⟨titled, ?_, ?_⟩
    · rintro ⟨p, rest, content, begins⟩
      rcases body with body | ⟨-, placeholder⟩
      · rw [body] at content
        exact unmarked_of_paragraph content begins
      · rw [placeholder] at content
        cases content
        have label : failureLabel <+: failureOpening name :=
          ⟨' ' :: name ++ [':', ' '], by simp [failureOpening]⟩
        exact absurd (label.trans begins) (by decide)
    · intro bare
      obtain ⟨q, rest, first⟩ := body_of_failure line bare e
      rw [text] at body ⊢
      rw [first] at body
      rcases body with body | ⟨empty, -⟩
      · exact ⟨_, rest, body, List.prefix_append _ q⟩
      · cases empty
  · intro marked
    cases cut : Text.cut? moduleMarker outcome.text with
    | none => exact absurd marked (Text.cut?_eq_none_iff.mp cut)
    | some parts =>
      obtain ⟨before, after⟩ := parts
      exact ⟨before, after, rfl, by rw [same, ofReply_of_cut? name cut]⟩

/-- A marker of subsections in the error leaves the opening alone. -/
theorem subsection_marker_in_error :
    '\n' ∉ "core".toList ∧
      Settles 1 (.module "core") (fun _ => .failure (.http 503 "SUBSECTION: busy")) 1
        ⟨"Error generating module core: HTTP 503: SUBSECTION: busy", 1, .failed⟩ ∧
      ∃ s, (assemble "Fine."
          [("core", "Error generating module core: HTTP 503: SUBSECTION: busy")])[1]? = some s ∧
        s.title = "Core".toList ∧ ∃ p rest, s.content = p :: rest ∧
          failureOpening "core" <+: p := by
  have line : '\n' ∉ "core".toList := by decide
  have text :
      Subject.errorMarker (.module "core") (CompletionError.http 503 "SUBSECTION: busy").message =
        "Error generating module core: HTTP 503: SUBSECTION: busy" := by decide +kernel
  have settles : Settles 1 (.module "core") (fun _ => .failure (.http 503 "SUBSECTION: busy")) 1
      ⟨"Error generating module core: HTTP 503: SUBSECTION: busy", 1, .failed⟩ := by
    rw [← text]
    refine Settles.failure ⟨Nat.le_refl 1, fun k positive early => ?_, ?_⟩ (Nat.le_refl 1) rfl
    · omega
    · decide +kernel
  have given :
      [("core".toList, "Error generating module core: HTTP 503: SUBSECTION: busy".toList)][0]? =
        some ("core".toList, "Error generating module core: HTTP 503: SUBSECTION: busy".toList) :=
      rfl
  obtain ⟨-, s, here, unmarked, -⟩ := failed_module_section "Fine." line settles rfl given
  obtain ⟨titled, opened⟩ := unmarked (by decide +kernel)
  have capital : Text.capitalize "core" = "Core" := by decide +kernel
  exact ⟨line, settles, s, here, titled.trans capital, opened.mpr (by decide +kernel)⟩

/-- A module's marker in the body of a response takes the place of the error, and so does the name
of a module that the colon turns into a marker. -/
theorem marker_in_error_hides_it :
    (assemble "Fine." [("api", (Outcome.ofReply (.module "api") 1
        (.failure (.http 500 "no such MODULE: core\nsee log"))).text)])[1]?.map
          (fun s => (s.title, s.content)) = some ("core".toList, ["see log".toList]) ∧
      (assemble "Fine." [("MODULE", (Outcome.ofReply (.module "MODULE") 1
        (.failure (.network "refused"))).text)])[1]?.map
          (fun s => (s.title, s.content)) =
        some ("Network error: refused".toList, [emptyModule]) := by
  constructor <;> decide +kernel

end WikiSection
end CodeWiki
