import CodeWiki.Proofs.Section.Distinct
import CodeWiki.Proofs.Section.Draft
import CodeWiki.Proofs.Section.Slug

/-! Identifiers of modules. A module is called by its slug unless a section before it is; among
these are the subsections of earlier modules, which a language model names. -/
namespace CodeWiki

theorem eq_take_append_cons_drop {α : Type} {l : List α} {a : α} {i : Nat} (here : l[i]? = some a) :
    l = l.take i ++ a :: l.drop (i + 1) := by
  obtain ⟨bound, rfl⟩ := List.getElem?_eq_some_iff.mp here
  rw [← List.drop_eq_getElem_cons bound, List.take_append_drop]

namespace Identifier

variable {used earlier ids : List Text} {slug id name : Text}

theorem distinctAll_append (used : List Text) (sections later : List WikiSection) :
    (distinctAll used (sections ++ later)).1 =
      (distinctAll used sections).1 ++ (distinctAll (distinctAll used sections).2 later).1 := by
  induction sections generalizing used with
  | nil => rfl
  | cons s rest ih => simp only [List.cons_append, distinctAll, ih]

theorem id_distinct (used : List Text) (s : WikiSection) :
    (distinct used s).1.id = unused used s.id := by
  obtain ⟨id, title, content, _ | children⟩ := s <;> rfl

theorem wanted_of_ne_nil (occupied : id ≠ []) : wanted id = id := by
  rw [wanted, if_neg (by simpa using occupied)]

theorem numbered_ne (base : Text) (n : Nat) : numbered base n ≠ base := by
  intro same
  have lengths := congrArg List.length same
  simp only [numbered, List.length_append, List.length_singleton] at lengths
  omega

/-- A section is called as it asks to be just if no section before it is. -/
theorem Assigned.eq_iff (assigned : Assigned earlier id name) (occupied : id ≠ []) :
    name = id ↔ id ∉ earlier := by
  have given := wanted_of_ne_nil occupied
  cases assigned with
  | kept free =>
    rw [given] at free ⊢
    exact iff_of_true rfl free
  | suffixed taken _ _ _ =>
    rw [given] at taken ⊢
    exact iff_of_false (numbered_ne _ _) (not_not_intro taken)

theorem exists_assigned_of_mem_assign (member : name ∈ assign used ids) :
    ∃ id ∈ ids, ∃ earlier, Assigned earlier id name := by
  induction ids generalizing used with
  | nil => cases member
  | cons id rest ih =>
    rcases List.mem_cons.mp member with rfl | later
    · exact ⟨id, List.mem_cons_self, used, assigned_unused used id⟩
    · obtain ⟨id', inside, assigned⟩ := ih later
      exact ⟨id', List.mem_cons_of_mem _ inside, assigned⟩

/-- What some section asks to be called, some section is called. -/
theorem mem_assign_of_mem (member : id ∈ ids) (occupied : id ≠ []) :
    id ∈ used ∨ id ∈ assign used ids := by
  induction ids generalizing used with
  | nil => cases member
  | cons head rest ih =>
    rw [assign, List.mem_cons]
    rcases List.mem_cons.mp member with rfl | later
    · by_cases taken : id ∈ used
      · exact Or.inl taken
      · have kept := ((assigned_unused used id).eq_iff occupied).mpr taken
        exact Or.inr (Or.inl kept.symm)
    · have placed : id ∈ unused used head :: used ∨ id ∈ assign (unused used head :: used) rest :=
        ih later
      rw [List.mem_cons] at placed
      tauto

/-- What a slug is made into: itself, or itself with a hyphen and more. -/
def StemsFrom (slug id : Text) : Prop := id = slug ∨ slug ++ ['-'] <+: id

theorem StemsFrom.ne_nil (stems : StemsFrom slug id) (occupied : slug ≠ []) : id ≠ [] := by
  rcases stems with rfl | ⟨rest, rfl⟩
  · exact occupied
  · simp

theorem StemsFrom.numbered (stems : StemsFrom slug id) (n : Nat) :
    slug ++ ['-'] <+: numbered id n := by
  rcases stems with rfl | longer
  · exact List.prefix_append _ _
  · rw [Identifier.numbered, List.append_assoc]
    exact longer.trans (List.prefix_append _ _)

theorem StemsFrom.assigned (stems : StemsFrom slug id) (occupied : slug ≠ [])
    (assigned : Assigned earlier id name) : StemsFrom slug name := by
  have given := wanted_of_ne_nil (stems.ne_nil occupied)
  cases assigned with
  | kept _ =>
    rw [given]
    exact stems
  | suffixed _ _ _ _ =>
    rw [given]
    exact Or.inr (stems.numbered _)

theorem stemsFrom_subsection {module : Text} (occupied : slugify module ≠ []) (title : Text) :
    StemsFrom (slugify module) (slugify (module ++ ['-'] ++ title)) := by
  rw [slugify_append (List.cons_ne_nil _ _) isGap_hyphen, if_neg occupied]
  split
  · exact Or.inl rfl
  · exact Or.inr ⟨slugify title, by simp⟩

end Identifier

namespace WikiSection

open Identifier

variable {overview name reply id t : Text} {modules : List (Text × Text)} {i : Nat}

theorem mem_idsAll_iff {sections : List WikiSection} :
    id ∈ idsAll sections ↔ ∃ s ∈ sections, id ∈ s.ids := by
  induction sections with
  | nil => simp [idsAll]
  | cons s rest ih => simp [idsAll, ih]

theorem ids_eq (s : WikiSection) : s.ids = s.id :: idsAll (s.children.getD []) := by
  obtain ⟨id, title, content, _ | children⟩ := s <;> rfl

/-! ### The ids that a reply asks for -/

theorem exists_block_of_child {child : WikiSection}
    (member : child ∈ (ofReply name reply).children.getD []) :
    ∃ block, subsection? name block = some child := by
  simp only [ofReply, children] at member
  split at member
  · cases member
  · obtain ⟨block, -, found⟩ := List.mem_filterMap.mp member
    exact ⟨block, found⟩

theorem stemsFrom_of_subsection? {block : Text} {child : WikiSection} (occupied : slugify name ≠ [])
    (found : subsection? name block = some child) (member : id ∈ child.ids) :
    StemsFrom (slugify name) id := by
  simp only [subsection?] at found
  split at found
  · cases found
  · cases found
    obtain rfl := List.mem_singleton.mp member
    exact stemsFrom_subsection occupied _

theorem stemsFrom_of_mem_ids (occupied : slugify name ≠ [])
    (member : id ∈ (ofReply name reply).ids) : StemsFrom (slugify name) id := by
  rw [ids_eq] at member
  rcases List.mem_cons.mp member with rfl | below
  · exact Or.inl rfl
  · obtain ⟨child, inside, named⟩ := mem_idsAll_iff.mp below
    obtain ⟨block, found⟩ := exists_block_of_child inside
    exact stemsFrom_of_subsection? occupied found named

theorem isTitle_hyphenated (occupied : hyphenated t ≠ []) : IsTitle (hyphenated t) := by
  refine ⟨occupied, ?_, fun newline => ?_⟩
  · exact Text.trimWhile_of_ends
      (fun _ first => not_isWhiteSpace_of_mem_hyphenated (List.mem_of_head? first))
      (fun _ last => not_isWhiteSpace_of_mem_hyphenated (List.mem_of_getLast? last))
  · exact absurd (not_isWhiteSpace_of_mem_hyphenated newline) (by decide)

theorem unmarked_hyphenated (t : Text) : ¬ subsectionMarker <:+: hyphenated t := fun marked =>
  colon_not_mem_hyphenated t (marked.subset (by decide))

/-- A draft with one subsection, which says nothing but its title. -/
def echo (title : Text) : Draft := ⟨title, [], [⟨title, [title]⟩]⟩

theorem admissible_echo (title : IsTitle t) (unmarked : ¬ subsectionMarker <:+: t) :
    (echo t).Admissible := by
  have paragraph : IsParagraph t :=
    ⟨title.nonempty, title.trimmed, Paragraph.unbroken_of_line title.line, unmarked⟩
  refine ⟨title, by simp [echo], fun s member => ?_, Or.inr (List.cons_ne_nil _ _)⟩
  obtain rfl := List.mem_singleton.mp member
  refine ⟨title, unmarked, List.cons_ne_nil _ _, fun p inside => ?_⟩
  rwa [List.mem_singleton.mp inside]

/-- Some reply makes a subsection ask for a slug that begins with the module's own and a hyphen. -/
theorem exists_reply_of_stem (occupied : slugify name ≠ [])
    (stem : slugify name ++ ['-'] <+: slugify t) :
    ∃ reply, slugify t ∈ (ofReply name reply).ids := by
  obtain ⟨rest, whole⟩ := stem
  have hyphen : slugify t = slugify name ++ '-' :: rest := by rw [← whole, List.append_assoc]; rfl
  obtain ⟨more, b, -, slug⟩ := exists_of_slugFrom_eq hyphen
  have titled : hyphenated b ≠ [] := by
    intro empty
    rw [← slug, ← slugify_hyphenated, empty] at more
    exact more rfl
  have below : slugify (name ++ ['-'] ++ hyphenated b) = slugify t := by
    rw [slugify_append (List.cons_ne_nil _ _) isGap_hyphen, slugify_hyphenated, slug,
      if_neg occupied, if_neg more, hyphen]
  have admissible := admissible_echo (isTitle_hyphenated titled) (unmarked_hyphenated b)
  refine ⟨(echo (hyphenated b)).write, ?_⟩
  rw [Draft.ofReply_write name _ admissible, ids_eq, ← below]
  refine List.mem_cons_of_mem _ (mem_idsAll_iff.mpr ?_)
  exact ⟨_, List.mem_singleton.mpr rfl, List.mem_singleton.mpr rfl⟩

/-! ### The ids that are given -/

theorem idsAll_assemble (overview : Text) (modules : List (Text × Text)) :
    idsAll (assemble overview modules) =
      overviewId :: assign [overviewId] (idsAll (modules.map fun m => ofReply m.1 m.2)) :=
  (idsAll_distinctAll [] (parsed overview modules)).1

theorem stems_of_mem_assemble (occupied : ∀ m ∈ modules, slugify m.1 ≠ [])
    (member : id ∈ idsAll (assemble overview modules)) :
    id = overviewId ∨ ∃ m ∈ modules, StemsFrom (slugify m.1) id := by
  rw [idsAll_assemble, List.mem_cons] at member
  refine member.imp_right fun later => ?_
  obtain ⟨given, asked, earlier, assigned⟩ := exists_assigned_of_mem_assign later
  obtain ⟨s, parsed, inside⟩ := mem_idsAll_iff.mp asked
  obtain ⟨m, listed, rfl⟩ := List.mem_map.mp parsed
  have stems := stemsFrom_of_mem_ids (occupied m listed) inside
  exact ⟨m, listed, stems.assigned (occupied m listed) assigned⟩

theorem mem_assemble_of_mem_ids {m : Text × Text} (listed : m ∈ modules)
    (asked : id ∈ (ofReply m.1 m.2).ids) (occupied : id ≠ []) :
    id ∈ idsAll (assemble overview modules) := by
  rw [idsAll_assemble, List.mem_cons, ← List.mem_singleton]
  refine mem_assign_of_mem (mem_idsAll_iff.mpr ⟨_, List.mem_map_of_mem listed, asked⟩) occupied

/-- The section of a module is named when those of the modules before it are. -/
theorem assigned_module (overview : Text) (given : modules[i]? = some (name, reply)) :
    ∃ s, (assemble overview modules)[i + 1]? = some s ∧
      Assigned (idsAll (assemble overview (modules.take i))) (slugify name) s.id := by
  obtain ⟨bound, -⟩ := List.getElem?_eq_some_iff.mp given
  have split : parsed overview modules = parsed overview (modules.take i) ++
      ofReply name reply :: (modules.drop (i + 1)).map fun m => ofReply m.1 m.2 := by
    conv_lhs => rw [eq_take_append_cons_drop given]
    simp only [parsed, List.map_append, List.map_cons, List.cons_append]
  have length : (assemble overview (modules.take i)).length = i + 1 := by
    rw [length_assemble, List.length_take, Nat.min_eq_left (Nat.le_of_lt bound)]
  obtain ⟨names, taken⟩ := idsAll_distinctAll [] (parsed overview (modules.take i))
  refine ⟨(distinct (distinctAll [] (parsed overview (modules.take i))).2 (ofReply name reply)).1,
    ?_, ?_⟩
  · change (distinctAll [] (parsed overview modules)).1[i + 1]? = _
    rw [split, distinctAll_append]
    change (assemble overview (modules.take i) ++ _)[i + 1]? = _
    rw [List.getElem?_append_right (by omega), length, Nat.sub_self]
    rfl
  · rw [id_distinct]
    refine (assigned_unused _ _).congr fun t => ?_
    rw [taken, List.append_nil, List.mem_reverse, ← names]
    rfl

theorem id_module_iff (overview : Text) (given : modules[i]? = some (name, reply))
    (occupied : slugify name ≠ []) : ∃ s, (assemble overview modules)[i + 1]? = some s ∧
      (s.id = slugify name ↔ slugify name ∉ idsAll (assemble overview (modules.take i))) := by
  obtain ⟨s, here, assigned⟩ := assigned_module overview given
  exact ⟨s, here, assigned.eq_iff occupied⟩

/-- A subsection of the first module may take the slug of the second. -/
def Overshadows (earlier later : Text) : Prop := slugify earlier ++ ['-'] <+: slugify later

instance (earlier later : Text) : Decidable (Overshadows earlier later) :=
  inferInstanceAs (Decidable (_ <+: _))

variable {names : List Text}

theorem exists_reply (named : modules.map Prod.fst = names) (here : names[i]? = some name) :
    ∃ reply, modules[i]? = some (name, reply) := by
  rw [← named, List.getElem?_map] at here
  obtain ⟨⟨name', reply⟩, given, rfl⟩ := Option.map_eq_some_iff.mp here
  exact ⟨reply, given⟩

theorem slugify_ne_of_mem_take {earlier : Text} (distinct : (names.map slugify).Nodup)
    (here : names[i]? = some name) (before : earlier ∈ names.take i) :
    slugify name ≠ slugify earlier := by
  rw [eq_take_append_cons_drop here, List.map_append, List.map_cons] at distinct
  have apart := (List.nodup_append.mp distinct).2.2
  exact (apart _ (List.mem_map_of_mem before) _ List.mem_cons_self).symm

theorem id_of_not_overshadowed (occupied : ∀ name ∈ names, slugify name ≠ [])
    (distinct : (names.map slugify).Nodup) (fresh : overviewId ∉ names.map slugify)
    (here : names[i]? = some name) (clear : ∀ earlier ∈ names.take i, ¬ Overshadows earlier name)
    (overview : Text) (named : modules.map Prod.fst = names) :
    ∃ s, (assemble overview modules)[i + 1]? = some s ∧ s.id = slugify name := by
  obtain ⟨reply, given⟩ := exists_reply named here
  have member := List.mem_of_getElem? here
  obtain ⟨s, place, called⟩ := id_module_iff overview given (occupied name member)
  refine ⟨s, place, called.mpr fun taken => ?_⟩
  have earlier : ∀ m ∈ modules.take i, m.1 ∈ names.take i := fun m listed => by
    rw [← named, ← List.map_take]
    exact List.mem_map_of_mem listed
  have named : ∀ m ∈ modules.take i, slugify m.1 ≠ [] := fun m listed =>
    occupied m.1 (List.mem_of_mem_take (earlier m listed))
  rcases stems_of_mem_assemble named taken with home | ⟨m, listed, same | longer⟩
  · exact fresh (home ▸ List.mem_map_of_mem member)
  · exact slugify_ne_of_mem_take distinct here (earlier m listed) same
  · exact clear m.1 (earlier m listed) longer

theorem exists_other_id (occupied : ∀ name ∈ names, slugify name ≠ [])
    (here : names[i]? = some name) {earlier : Text} (before : earlier ∈ names.take i)
    (shadow : Overshadows earlier name) (overview : Text) :
    ∃ modules s, modules.map Prod.fst = names ∧ (assemble overview modules)[i + 1]? = some s ∧
      s.id ≠ slugify name := by
  have named := occupied name (List.mem_of_getElem? here)
  obtain ⟨reply, asked⟩ :=
    exists_reply_of_stem (occupied earlier (List.mem_of_mem_take before)) shadow
  have given : (names.map (·, reply))[i]? = some (name, reply) := by
    rw [List.getElem?_map, here]
    rfl
  have firsts : (names.map (·, reply)).map Prod.fst = names := by
    rw [List.map_map]
    exact List.map_id names
  obtain ⟨s, place, called⟩ := id_module_iff overview given named
  refine ⟨names.map (·, reply), s, firsts, place, fun kept => called.mp kept ?_⟩
  have listed : (earlier, reply) ∈ (names.map (·, reply)).take i := by
    rw [← List.map_take]
    exact List.mem_map_of_mem before
  exact mem_assemble_of_mem_ids listed asked named

theorem map_id_assemble (occupied : ∀ name ∈ names, slugify name ≠ [])
    (distinct : (names.map slugify).Nodup) (fresh : overviewId ∉ names.map slugify)
    (clear : names.Pairwise fun earlier later => ¬ Overshadows earlier later)
    (overview : Text) (named : modules.map Prod.fst = names) :
    (assemble overview modules).map WikiSection.id = overviewId :: names.map slugify := by
  have length : (assemble overview modules).length = names.length + 1 := by
    rw [length_assemble, ← named, List.length_map]
  refine List.ext_getElem? fun k => ?_
  cases k with
  | zero =>
    rw [List.getElem?_map, assemble_overview]
    rfl
  | succ i =>
    rw [List.getElem?_map, List.getElem?_cons_succ, List.getElem?_map]
    cases here : names[i]? with
    | none =>
      have beyond := List.getElem?_eq_none_iff.mp here
      rw [List.getElem?_eq_none (by omega)]
      rfl
    | some name =>
      have before : ∀ earlier ∈ names.take i, ¬ Overshadows earlier name := by
        intro earlier member
        rw [eq_take_append_cons_drop here] at clear
        exact (List.pairwise_append.mp clear).2.2 earlier member name List.mem_cons_self
      obtain ⟨s, place, called⟩ :=
        id_of_not_overshadowed occupied distinct fresh here before overview named
      rw [place, Option.map_some, Option.map_some, called]

/-- A module is called by its slug, or by a numbered form of it where a section before it has the
slug. The replies have no say in this just if no earlier module's slug with a hyphen begins the
slug: else some reply names a subsection so. Where no two slugs are such, two runs give the modules
the same identifiers. -/
theorem module_ids_iff (occupied : ∀ name ∈ names, slugify name ≠ [])
    (distinct : (names.map slugify).Nodup) (fresh : overviewId ∉ names.map slugify) :
    (∀ overview modules i name, modules.map Prod.fst = names → names[i]? = some name →
      ∃ s, (assemble overview modules)[i + 1]? = some s ∧
        Assigned (idsAll (assemble overview (modules.take i))) (slugify name) s.id) ∧
    (∀ (i : Nat) (name : Text), names[i]? = some name →
      ((∀ overview modules, modules.map Prod.fst = names →
          ∃ s, (assemble overview modules)[i + 1]? = some s ∧ s.id = slugify name) ↔
        ∀ earlier ∈ names.take i, ¬ Overshadows earlier name)) ∧
    (names.Pairwise (fun earlier later => ¬ Overshadows earlier later) →
      ∀ overview modules overview' modules', modules.map Prod.fst = names →
        modules'.map Prod.fst = names →
        (assemble overview modules).map WikiSection.id =
          (assemble overview' modules').map WikiSection.id) := by
  refine ⟨?_, ?_, ?_⟩
  · intro overview modules i name named here
    obtain ⟨reply, given⟩ := exists_reply named here
    exact assigned_module overview given
  · intro i name here
    constructor
    · intro always earlier before shadow
      obtain ⟨modules, s, named, place, other⟩ := exists_other_id occupied here before shadow []
      obtain ⟨s', place', called⟩ := always [] modules named
      obtain rfl : s = s' := Option.some.inj (place.symm.trans place')
      exact other called
    · intro clear overview modules named
      exact id_of_not_overshadowed occupied distinct fresh here clear overview named
  · intro clear overview modules overview' modules' named named'
    rw [map_id_assemble occupied distinct fresh clear overview named,
      map_id_assemble occupied distinct fresh clear overview' named']

/-- A module may have the slug that an earlier one's slug begins with, and the other way round it
may not. -/
theorem longer_slug_first :
    (∀ name ∈ ["data_api".toList, "data".toList], slugify name ≠ []) ∧
      (["data_api".toList, "data".toList].map slugify).Nodup ∧
      overviewId ∉ ["data_api".toList, "data".toList].map slugify ∧
      ["data_api".toList, "data".toList].Pairwise
        (fun earlier later => ¬ Overshadows earlier later) ∧
      (assemble "One." [("data_api", "SUBSECTION: data"), ("data", "SUBSECTION: api\nTwo.")]).map
          WikiSection.id =
        (assemble [] [("data_api", []), ("data", [])]).map WikiSection.id := by
  have occupied :
    ∀ name ∈ ["data_api".toList, "data".toList], slugify name ≠ [] := by decide +kernel
  have distinct : (["data_api".toList, "data".toList].map slugify).Nodup := by decide +kernel
  have fresh : overviewId ∉ ["data_api".toList, "data".toList].map slugify := by decide +kernel
  have clear : ["data_api".toList, "data".toList].Pairwise
      (fun earlier later => ¬ Overshadows earlier later) := by decide +kernel
  obtain ⟨-, -, same⟩ := module_ids_iff occupied distinct fresh
  exact ⟨occupied, distinct, fresh, clear, same clear _ _ _ _ rfl rfl⟩

/-- The subsection stands before the module whose slug it asks for, so the module is numbered;
another reply leaves the module its slug. -/
theorem subsection_takes_module_id :
    (∀ name ∈ ["api".toList, "api-routes".toList], slugify name ≠ []) ∧
      (["api".toList, "api-routes".toList].map slugify).Nodup ∧
      overviewId ∉ ["api".toList, "api-routes".toList].map slugify ∧
      (assemble "Fine." [("api", "SUBSECTION: routes\nList."), ("api-routes", "Routes.")]).map
        WikiSection.id = ["overview".toList, "api".toList, "api-routes-2".toList] ∧
      (assemble "Fine." [("api", "List."), ("api-routes", "Routes.")]).map
        WikiSection.id = ["overview".toList, "api".toList, "api-routes".toList] := by
  refine ⟨?_, ?_, ?_, ?_, ?_⟩ <;> decide +kernel

end WikiSection
end CodeWiki
