import CodeWiki.Proofs.Section.ModuleId
import CodeWiki.Proofs.Unicode.Lower

/-! Slugs as normal forms. The texts that slugs leave as they are have a form of their own, and a
slug has it unless a capital i with a dot leaves the dot behind. Numbers keep the form, so it is the
names of modules and the titles of subsections that decide on a whole wiki. -/
namespace CodeWiki

namespace Identifier

open Unicode

variable {written gap : Bool} {t id name base : Text} {used earlier ids : List Text} {c : Char}

/-- Letters and numbers in lower case, with single hyphens between them. -/
structure IsSlug (t : Text) : Prop where
  characters : ∀ c ∈ t, c = '-' ∨ isAlphanumeric c = true ∧ lower c = [c]
  single : ¬ ['-', '-'] <:+: t
  first : t.head? ≠ some '-'
  last : t.getLast? ≠ some '-'

/-! ### Characters of slugs -/

theorem mem_slugFrom_iff (other : c ≠ '-') :
    c ∈ slugFrom written gap t ↔ ∃ d ∈ t, isAlphanumeric d = true ∧ c ∈ lower d := by
  induction t generalizing written gap with
  | nil => simp [slugFrom]
  | cons d t ih =>
    cases alphanumeric : isAlphanumeric d with
    | true =>
      rw [slugFrom_alphanumeric _ _ alphanumeric, List.mem_append, List.mem_append, ih]
      simp [other, alphanumeric]
    | false =>
      rw [slugFrom_other _ _ alphanumeric, ih]
      simp [alphanumeric]

theorem mem_slugify_iff (other : c ≠ '-') :
    c ∈ slugify t ↔ ∃ d ∈ t, isAlphanumeric d = true ∧ c ∈ lower d := mem_slugFrom_iff other

theorem mem_slugify_cases (member : c ∈ slugify t) :
    c = '-' ∨ isAlphanumeric c = true ∧ lower c = [c] ∨ 'İ' ∈ t ∧ c = '\u0307' := by
  by_cases hyphen : c = '-'
  · exact Or.inl hyphen
  · obtain ⟨d, inside, alphanumeric, form⟩ := (mem_slugify_iff hyphen).mp member
    by_cases dotted : d = 'İ'
    · subst dotted
      rw [lower_dotted] at form
      rcases List.mem_cons.mp form with rfl | dot
      · exact Or.inr (Or.inl (by decide))
      · exact Or.inr (Or.inr ⟨inside, List.mem_singleton.mp dot⟩)
    · obtain ⟨e, single, letter, fixed⟩ := lower_of_ne alphanumeric dotted
      rw [single, List.mem_singleton] at form
      subst form
      exact Or.inr (Or.inl ⟨letter, fixed⟩)

theorem dot_mem_slugify_iff : '\u0307' ∈ slugify t ↔ 'İ' ∈ t := by
  constructor
  · intro member
    rcases mem_slugify_cases member with hyphen | ⟨alphanumeric, -⟩ | ⟨inside, -⟩
    · exact absurd hyphen (by decide)
    · rw [not_isAlphanumeric_dot] at alphanumeric
      cases alphanumeric
    · exact inside
  · intro inside
    refine (mem_slugify_iff (by decide)).mpr ⟨'İ', inside, by decide, ?_⟩
    rw [lower_dotted]
    exact List.mem_cons_of_mem _ List.mem_cons_self

theorem dotted_not_mem_slugify (t : Text) : 'İ' ∉ slugify t := by
  intro member
  rcases mem_slugify_cases member with hyphen | ⟨-, fixed⟩ | ⟨-, dot⟩
  · exact absurd hyphen (by decide)
  · rw [lower_dotted] at fixed
    exact absurd fixed (by decide)
  · exact absurd dot (by decide)

theorem head?_slugify_ne (t : Text) : (slugify t).head? ≠ some '-' := by
  induction t with
  | nil => exact nofun
  | cons c t ih =>
    cases alphanumeric : isAlphanumeric c with
    | true =>
      rw [slugify_cons_alphanumeric alphanumeric, List.head?_append_of_ne_nil _ (lower_ne_nil c)]
      intro first
      exact hyphen_not_mem_lower (ne_hyphen_of_isAlphanumeric alphanumeric)
        (List.mem_of_head? first)
    | false => rwa [slugify_cons_other alphanumeric]

/-- A hyphen of a slug has a slug that is not empty behind it. -/
theorem exists_of_hyphen {before after : Text} (whole : slugify t = before ++ '-' :: after) :
    after ≠ [] ∧ after.head? ≠ some '-' := by
  obtain ⟨occupied, b, -, slug⟩ := exists_of_slugFrom_eq whole
  exact ⟨occupied, slug ▸ head?_slugify_ne b⟩

theorem not_double_hyphen_slugify (t : Text) : ¬ ['-', '-'] <:+: slugify t := by
  rintro ⟨before, after, whole⟩
  have hyphens : slugify t = before ++ '-' :: '-' :: after := by
    rw [← whole, List.append_assoc]
    rfl
  exact (exists_of_hyphen hyphens).2 rfl

theorem getLast?_slugify_ne (t : Text) : (slugify t).getLast? ≠ some '-' := by
  intro last
  obtain ⟨before, whole⟩ := List.getLast?_eq_some_iff.mp last
  exact (exists_of_hyphen whole).1 rfl

/-! ### Texts that are slugs already -/

theorem isSlug_slugify_iff : IsSlug (slugify t) ↔ 'İ' ∉ t := by
  constructor
  · intro slug dotted
    rcases slug.characters _ (dot_mem_slugify_iff.mpr dotted) with hyphen | ⟨alphanumeric, -⟩
    · exact absurd hyphen (by decide)
    · rw [not_isAlphanumeric_dot] at alphanumeric
      cases alphanumeric
  · intro plain
    refine ⟨fun c member => ?_, not_double_hyphen_slugify t, head?_slugify_ne t,
      getLast?_slugify_ne t⟩
    rcases mem_slugify_cases member with hyphen | normal | ⟨dotted, -⟩
    · exact Or.inl hyphen
    · exact Or.inr normal
    · exact absurd dotted plain

/-- By induction on the text. A hyphen stands in front of a slug, whatever has been written before
it. -/
theorem slugFrom_of_normal (characters : ∀ c ∈ t, c = '-' ∨ isAlphanumeric c = true ∧ lower c = [c])
    (single : ¬ ['-', '-'] <:+: t) (last : t.getLast? ≠ some '-') :
    slugFrom true false t = t ∧ (t.head? ≠ some '-' → slugify t = t) := by
  induction t with
  | nil => exact ⟨rfl, fun _ => rfl⟩
  | cons c t ih =>
    rw [List.forall_mem_cons] at characters
    have last' : t.getLast? ≠ some '-' := by
      intro ends
      rw [List.getLast?_cons, ends] at last
      exact last rfl
    obtain ⟨behind, whole⟩ :=
      ih characters.2 (fun inside => single (inside.trans (List.suffix_cons c t).isInfix)) last'
    rcases characters.1 with rfl | ⟨alphanumeric, fixed⟩
    · refine ⟨?_, fun first => absurd rfl first⟩
      have occupied : t ≠ [] := by
        rintro rfl
        exact last rfl
      have first : t.head? ≠ some '-' := by
        intro hyphen
        obtain ⟨rest, rfl⟩ := List.head?_eq_some_iff.mp hyphen
        exact single (List.prefix_append ['-', '-'] rest).isInfix
      rw [slugFrom_other _ _ (isGap_hyphen '-' List.mem_cons_self), slugFrom_gap, whole first,
        if_neg occupied]
    · constructor
      · rw [slugFrom_alphanumeric _ _ alphanumeric, fixed, behind]
        rfl
      · intro _
        rw [slugify_cons_alphanumeric alphanumeric, fixed, behind]
        rfl

theorem slugify_eq_self_iff : slugify t = t ↔ IsSlug t := by
  constructor
  · intro fixed
    have plain : 'İ' ∉ t := fixed ▸ dotted_not_mem_slugify t
    exact fixed ▸ isSlug_slugify_iff.mpr plain
  · intro slug
    exact (slugFrom_of_normal slug.characters slug.single slug.last).2 slug.first

theorem slugify_slugify_iff : slugify (slugify t) = slugify t ↔ 'İ' ∉ t :=
  slugify_eq_self_iff.trans isSlug_slugify_iff

/-! ### Identifiers that are made different -/

theorem slugify_ofNat (n : Nat) : slugify (Text.ofNat n) = Text.ofNat n := by
  have normal : ∀ c ∈ Text.ofNat n, isAlphanumeric c = true ∧ lower c = [c] := fun c member =>
    lower_of_isDigit (Nat.isDigit_of_mem_toDigits (by decide) (by decide) member)
  have plain : '-' ∉ Text.ofNat n := fun member =>
    ne_hyphen_of_isAlphanumeric (normal '-' member).1 rfl
  exact slugify_eq_self_iff.mpr ⟨fun c member => Or.inr (normal c member),
    fun double => plain (double.subset List.mem_cons_self),
    fun first => plain (List.mem_of_head? first),
    fun last => plain (List.mem_of_getLast? last)⟩

theorem slugify_numbered_iff (occupied : base ≠ []) (n : Nat) :
    slugify (numbered base n) = numbered base n ↔ slugify base = base := by
  have digits : slugify (Text.ofNat n) ≠ [] := by
    rw [slugify_ofNat]
    exact Nat.toDigits_ne_nil
  rw [numbered, slugify_append (List.cons_ne_nil _ _) isGap_hyphen, if_neg digits, slugify_ofNat]
  split
  · rename_i empty
    constructor
    · intro same
      have lengths := congrArg List.length same
      simp only [List.length_append, List.length_singleton] at lengths
      omega
    · intro same
      exact absurd (same.symm.trans empty) occupied
  · rw [List.append_assoc]
    exact List.append_left_inj _

theorem slugify_wanted_iff : slugify (wanted id) = wanted id ↔ slugify id = id := by
  cases id with
  | nil =>
    have placeholder : slugify placeholder = placeholder := by decide
    exact iff_of_true placeholder rfl
  | cons c id => rfl

theorem wanted_ne_nil (id : Text) : wanted id ≠ [] := by
  cases id with
  | nil => exact (by decide : placeholder ≠ [])
  | cons c id => exact List.cons_ne_nil c id

/-- A section is called in normal form just if it asks for that. -/
theorem Assigned.slugify_iff (assigned : Assigned earlier id name) :
    slugify name = name ↔ slugify id = id := by
  cases assigned with
  | kept _ => exact slugify_wanted_iff
  | suffixed _ _ _ _ => exact (slugify_numbered_iff (wanted_ne_nil id) _).trans slugify_wanted_iff

theorem forall_assign_iff (used ids : List Text) :
    (∀ name ∈ assign used ids, slugify name = name) ↔ ∀ id ∈ ids, slugify id = id := by
  induction ids generalizing used with
  | nil => exact iff_of_true (List.forall_mem_nil _) (List.forall_mem_nil _)
  | cons id rest ih =>
    rw [assign, List.forall_mem_cons, List.forall_mem_cons, ih,
      (assigned_unused used id).slugify_iff]

end Identifier

namespace WikiSection

open Identifier Unicode

variable {name reply block : Text} {child : WikiSection}

theorem ids_of_subsection? (found : subsection? name block = some child) :
    child.ids = [slugify (name ++ ['-'] ++ child.title)] := by
  simp only [subsection?] at found
  split at found
  · cases found
  · cases found
    rfl

theorem slugify_ids_iff : (∀ id ∈ (ofReply name reply).ids, slugify id = id) ↔
    'İ' ∉ name ∧ ∀ s ∈ (ofReply name reply).children.getD [], 'İ' ∉ s.title := by
  have below : ∀ s ∈ (ofReply name reply).children.getD [],
      ((∀ id ∈ s.ids, slugify id = id) ↔ 'İ' ∉ name ∧ 'İ' ∉ s.title) := by
    intro s member
    obtain ⟨block, found⟩ := exists_block_of_child member
    rw [ids_of_subsection? found, List.forall_mem_singleton, slugify_slugify_iff]
    simp
  have own : (ofReply name reply).id = slugify name := rfl
  rw [ids_eq, List.forall_mem_cons, own, slugify_slugify_iff]
  refine and_congr_right fun plain => ⟨fun fixed s member => ?_, fun titles id member => ?_⟩
  · have inside : ∀ id ∈ s.ids, slugify id = id := fun id named =>
      fixed id (mem_idsAll_iff.mpr ⟨s, member, named⟩)
    exact ((below s member).mp inside).2
  · obtain ⟨s, listed, named⟩ := mem_idsAll_iff.mp member
    exact (below s listed).mpr ⟨plain, titles s listed⟩ id named

/-- Each character of a slug is a letter or number in lower case, a single hyphen inside it, or the
dot of a capital i. A slug is its own slug just if there is no such i in the text, and a slug of a
slug always is. All sections of a wiki are called by slugs of that kind, numbered ones included,
just if there is no such i in the names of its modules and the titles of their subsections. -/
theorem slugs_normal_iff (overview : Text) (modules : List (Text × Text)) :
    (∀ t : Text,
      (∀ c ∈ slugify t, c = '-' ∨ isAlphanumeric c = true ∨ 'İ' ∈ t ∧ c = '\u0307') ∧
      (¬ ['-', '-'] <:+: slugify t ∧ (slugify t).head? ≠ some '-' ∧
        (slugify t).getLast? ≠ some '-') ∧
      ((∀ c ∈ slugify t, c = '-' ∨ isAlphanumeric c = true) ↔ 'İ' ∉ t) ∧
      (slugify (slugify t) = slugify t ↔ 'İ' ∉ t) ∧
      slugify (slugify (slugify t)) = slugify (slugify t)) ∧
    ((∀ id ∈ idsAll (assemble overview modules), slugify id = id) ↔
      ∀ m ∈ modules, 'İ' ∉ m.1 ∧ ∀ s ∈ (ofReply m.1 m.2).children.getD [], 'İ' ∉ s.title) := by
  refine ⟨fun t => ⟨fun c member => ?_, ?_, ⟨fun all dotted => ?_, fun plain c member => ?_⟩,
    slugify_slugify_iff, slugify_slugify_iff.mpr (dotted_not_mem_slugify t)⟩, ?_⟩
  · exact (mem_slugify_cases member).imp_right (Or.imp_left And.left)
  · exact ⟨not_double_hyphen_slugify t, head?_slugify_ne t, getLast?_slugify_ne t⟩
  · rcases all _ (dot_mem_slugify_iff.mpr dotted) with hyphen | alphanumeric
    · exact absurd hyphen (by decide)
    · rw [not_isAlphanumeric_dot] at alphanumeric
      cases alphanumeric
  · exact ((isSlug_slugify_iff.mpr plain).characters c member).imp_right And.left
  · have home : slugify overviewId = overviewId := by decide +kernel
    rw [idsAll_assemble, List.forall_mem_cons, forall_assign_iff, and_iff_right home]
    constructor
    · intro fixed m listed
      refine slugify_ids_iff.mp fun id named => fixed id ?_
      exact mem_idsAll_iff.mpr ⟨_, List.mem_map_of_mem listed, named⟩
    · intro plain id member
      obtain ⟨s, parsed, named⟩ := mem_idsAll_iff.mp member
      obtain ⟨m, listed, rfl⟩ := List.mem_map.mp parsed
      exact slugify_ids_iff.mpr (plain m listed) id named

/-- The dot is neither a letter nor a number, and yet it stays in the slug, and in the identifiers
of the module and of its subsection. A second time it gives way to a hyphen. -/
theorem dotted_capital_leaves_dot :
    slugify "İstanbul" = "i\u0307stanbul".toList ∧ isAlphanumeric '\u0307' = false ∧
      slugify (slugify "İstanbul") = "i-stanbul".toList ∧
      idsAll (assemble "Fine." [("İstanbul", "SUBSECTION: Map\nStreets.")]) =
        ["overview".toList, "i\u0307stanbul".toList, "i\u0307stanbul-map".toList] := by
  refine ⟨?_, ?_, ?_, ?_⟩ <;> decide +kernel

end WikiSection
end CodeWiki
