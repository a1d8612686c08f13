import CodeWiki.Section.Reply

/-! Making identifiers distinct changes nothing else in a section, and the overview comes first and
keeps its own. -/
namespace CodeWiki

namespace WikiSection

mutual

/-- A section but for its identifiers and those of its subsections. -/
def withoutIds : WikiSection → WikiSection
  | .mk _ title content none => .mk [] title content none
  | .mk _ title content (some children) => .mk [] title content (some (withoutIdsAll children))

def withoutIdsAll : List WikiSection → List WikiSection
  | [] => []
  | s :: rest => s.withoutIds :: withoutIdsAll rest

end

theorem withoutIdsAll_eq_map (sections : List WikiSection) :
    withoutIdsAll sections = sections.map withoutIds := by
  induction sections with
  | nil => rfl
  | cons s rest ih => rw [withoutIdsAll, ih, List.map_cons]

theorem title_withoutIds (s : WikiSection) : s.withoutIds.title = s.title := by
  obtain ⟨id, title, content, _ | children⟩ := s <;> rfl

theorem content_withoutIds (s : WikiSection) : s.withoutIds.content = s.content := by
  obtain ⟨id, title, content, _ | children⟩ := s <;> rfl

end WikiSection

namespace Identifier

open WikiSection

mutual

theorem withoutIds_distinct (used : List Text) :
    ∀ s : WikiSection, (distinct used s).1.withoutIds = s.withoutIds
  | .mk _ _ _ none => rfl
  | .mk name _ _ (some children) => by
    simp only [distinct, withoutIds, withoutIdsAll_distinctAll (unused used name :: used) children]

theorem withoutIdsAll_distinctAll (used : List Text) :
    ∀ sections : List WikiSection, withoutIdsAll (distinctAll used sections).1 =
      withoutIdsAll sections
  | [] => rfl
  | s :: rest => by
    simp only [distinctAll, withoutIdsAll, withoutIds_distinct used s,
      withoutIdsAll_distinctAll (distinct used s).2 rest]

end

end Identifier

namespace WikiSection

theorem map_withoutIds_assemble (overview : Text) (modules : List (Text × Text)) :
    (assemble overview modules).map withoutIds =
      (ofOverview overview).withoutIds :: modules.map fun m => (ofReply m.1 m.2).withoutIds := by
  rw [← withoutIdsAll_eq_map, assemble, Identifier.withoutIdsAll_distinctAll, withoutIdsAll_eq_map,
    List.map_cons, List.map_map]
  rfl

theorem assemble_overview (overview : Text) (modules : List (Text × Text)) :
    (assemble overview modules)[0]? = some (ofOverview overview) := rfl

theorem length_assemble (overview : Text) (modules : List (Text × Text)) :
    (assemble overview modules).length = modules.length + 1 := by
  simpa using congrArg List.length (map_withoutIds_assemble overview modules)

/-- Behind the overview, each section is made from the reply at its place. -/
theorem assemble_module {overview : Text} {modules : List (Text × Text)} {i : Nat}
    {name reply : Text} (given : modules[i]? = some (name, reply)) :
    ∃ s, (assemble overview modules)[i + 1]? = some s ∧
      s.withoutIds = (ofReply name reply).withoutIds := by
  have place := congrArg (·[i + 1]?) (map_withoutIds_assemble overview modules)
  simp only [List.getElem?_map, List.getElem?_cons_succ, given, Option.map_some] at place
  exact Option.map_eq_some_iff.mp place

end WikiSection
end CodeWiki
