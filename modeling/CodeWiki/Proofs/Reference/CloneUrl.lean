import CodeWiki.Proofs.Reference.Page

/-! The clone URL of a reference, one equation for each form that a reference has. A page comes
before the short form, the short form before a web address, and what is none of these is a slug. -/
namespace CodeWiki.Reference

variable {reference url scheme owner name host path before t u : Text} {c : Char}

section Suffix

theorem withGitSuffix_of_suffix (suffixed : ".git".toList <:+ t) : withGitSuffix t = t := by
  obtain ⟨stem, rfl⟩ := suffixed
  rw [withGitSuffix, Text.before?_eq_some_iff.mpr rfl, Option.getD_some]

theorem withGitSuffix_of_not_suffix (bare : ¬ ".git".toList <:+ t) :
    withGitSuffix t = t ++ ".git".toList := by
  rw [withGitSuffix, Text.before?_eq_none_iff.mpr bare, Option.getD_none]

theorem prefix_withGitSuffix (t : Text) : t <+: withGitSuffix t := by
  by_cases suffixed : ".git".toList <:+ t
  · exact ⟨[], by rw [withGitSuffix_of_suffix suffixed, List.append_nil]⟩
  · rw [withGitSuffix_of_not_suffix suffixed]
    exact List.prefix_append t _

theorem suffix_withGitSuffix (t : Text) : ".git".toList <:+ withGitSuffix t :=
  List.suffix_append _ _

theorem git_suffix_append_iff : ".git".toList <:+ t ++ '/' :: u ↔ ".git".toList <:+ u := by
  constructor
  · intro suffixed
    exact Text.suffix_of_suffix_append suffixed (by decide)
  · rintro ⟨stem, rfl⟩
    exact ⟨t ++ '/' :: stem, by simp⟩

/-- Only what stands behind the last slash counts. -/
theorem withGitSuffix_append (t u : Text) :
    withGitSuffix (t ++ '/' :: u) = t ++ '/' :: withGitSuffix u := by
  by_cases suffixed : ".git".toList <:+ u
  · rw [withGitSuffix_of_suffix suffixed,
      withGitSuffix_of_suffix (git_suffix_append_iff.mpr suffixed)]
  · rw [withGitSuffix_of_not_suffix suffixed,
      withGitSuffix_of_not_suffix (fun found => suffixed (git_suffix_append_iff.mp found))]
    simp

theorem withGitSuffix_homePage (scheme owner name : Text) :
    withGitSuffix (scheme ++ homePage owner name) = scheme ++
      homePage owner (withGitSuffix name) := by
  have written : ∀ name, scheme ++ homePage owner name =
      (scheme ++ homeHost ++ '/' :: owner) ++ '/' :: name := by
    simp [homePage]
  rw [written, written, withGitSuffix_append]

theorem IsName.withGitSuffix (isName : IsName name) : IsName (withGitSuffix name) := by
  by_cases suffixed : ".git".toList <:+ name
  · rwa [withGitSuffix_of_suffix suffixed]
  · rw [withGitSuffix_of_not_suffix suffixed]
    exact isName.append isNameChar_of_mem_git

theorem beginsWithNames_withGitSuffix_iff (ended : t.getLast? ≠ some '/') :
    BeginsWithNames (withGitSuffix t) ↔ BeginsWithNames t := by
  by_cases suffixed : ".git".toList <:+ t
  · rw [withGitSuffix_of_suffix suffixed]
  · rw [withGitSuffix_of_not_suffix suffixed]
    exact ⟨fun begins => begins.of_append ended (by decide), fun begins => begins.append _⟩

theorem mentionsPage_withGitSuffix_iff (ended : t.getLast? ≠ some '/') :
    MentionsPage (withGitSuffix t) ↔ MentionsPage t := by
  by_cases suffixed : ".git".toList <:+ t
  · rw [withGitSuffix_of_suffix suffixed]
  · rw [withGitSuffix_of_not_suffix suffixed]
    exact ⟨fun mentions => mentions.of_append ended (by decide),
      fun mentions => mentions.of_infix (List.prefix_append t _).isInfix⟩

end Suffix

section Core

theorem getLast?_core (reference : Text) : (core reference).getLast? ≠ some '/' := by
  intro last
  simpa using Text.getLast?_dropEndWhile last

/-- White space in front, and white space and slashes behind, do not reach into a text with solid
ends. -/
theorem core_append (occupied : t ≠ []) (left : ∀ c ∈ before, Unicode.isWhiteSpace c = true)
    (first : ∀ c, t.head? = some c → Unicode.isWhiteSpace c = false)
    (last : ∀ c, t.getLast? = some c → Unicode.isWhiteSpace c = false ∧ c ≠ '/') (after : Text) :
    core (before ++ t ++ after) =
      t ++ Text.dropEndWhile (· = '/') (Text.dropEndWhile Unicode.isWhiteSpace after) := by
  have trimmed := Text.trimWhile_append occupied left first (fun c here => (last c here).1) after
  rw [core, Text.trim, trimmed]
  exact Text.dropEndWhile_append (fun c here => by simpa using (last c here).2) _

theorem core_of_ends (first : ∀ c, t.head? = some c → Unicode.isWhiteSpace c = false)
    (last : ∀ c, t.getLast? = some c → Unicode.isWhiteSpace c = false ∧ c ≠ '/') : core t = t := by
  have trimmed : Text.trim t = t := Text.trimWhile_of_ends first fun c here => (last c here).1
  rw [core, trimmed]
  exact Text.dropEndWhile_of_last fun c here => by simpa using (last c here).2

theorem IsPath.core_append {start : Text} (isPath : IsPath path) (first : start.head? = some c)
    (solid : Unicode.isWhiteSpace c = false) :
    core (start ++ path) = start ++ path := by
  obtain ⟨start, rfl⟩ := List.head?_eq_some_iff.mp first
  apply core_of_ends
  · intro d head
    cases head
    exact solid
  · intro d last
    rw [List.getLast?_append_of_ne_nil _ isPath.nonempty] at last
    refine ⟨isPath.solid d (List.mem_of_getLast? last), ?_⟩
    rintro rfl
    exact isPath.last last

theorem IsPath.trimWhile_slash (isPath : IsPath path) : Text.trimWhile (· = '/') path = path := by
  apply Text.trimWhile_of_ends
  · intro c first
    have other : c ≠ '/' := fun same => isPath.first (same ▸ first)
    simpa using other
  · intro c last
    have other : c ≠ '/' := fun same => isPath.last (same ▸ last)
    simpa using other

end Core

theorem hasWebScheme_iff : hasWebScheme t = true ↔ ∃ scheme ∈ webSchemes, scheme <+: t := by
  simp [hasWebScheme, webSchemes]

theorem secureShell?_of_web (web : hasWebScheme t = true) : secureShell? t = none := by
  obtain ⟨scheme, known, rest, rfl⟩ := hasWebScheme_iff.mp web
  rcases mem_webSchemes.mp known with rfl | rfl <;> rfl

theorem secureShell?_of_host (absent : ':' ∉ host) (path : Text) :
    secureShell? ("git@" ++ host ++ ':' :: path) = some (host, path) := by
  rw [secureShell?, List.append_assoc, Text.after?_append, Option.bind_some]
  exact Text.cut?_singleton path absent

theorem eq_of_secureShell? (short : secureShell? t = some (host, path)) :
    t = "git@" ++ host ++ ':' :: path := by
  obtain ⟨rest, behind, cut⟩ := Option.bind_eq_some_iff.mp short
  rw [Text.after?_eq_some_iff.mp behind, Text.eq_append_of_cut? cut]
  simp

section Branches

theorem cloneUrl?_of_page (found : firstPage? (core reference) = some t) :
    cloneUrl? reference =
      some (withGitSuffix (if "http".toList.isPrefixOf t then t else "https://" ++ t)) := by
  have content : core reference ≠ [] := by
    intro empty
    rw [empty] at found
    cases found
  simp only [cloneUrl?, List.isEmpty_iff, content, if_false, found]

theorem cloneUrl?_of_webPage (known : scheme ∈ webSchemes)
    (found : firstPage? (core reference) = some (scheme ++ homePage owner name)) :
    cloneUrl? reference = some (scheme ++ homePage owner (withGitSuffix name)) := by
  have web : "http".toList.isPrefixOf (scheme ++ homePage owner name) = true := by
    rcases mem_webSchemes.mp known with rfl | rfl <;> rfl
  rw [cloneUrl?_of_page found, web, if_pos rfl, withGitSuffix_homePage]

theorem cloneUrl?_of_barePage (found : firstPage? (core reference) = some (homePage owner name)) :
    cloneUrl? reference = some ("https://" ++ homePage owner (withGitSuffix name)) := by
  have bare : "http".toList.isPrefixOf (homePage owner name) = false := rfl
  rw [cloneUrl?_of_page found, bare]
  exact congrArg some (withGitSuffix_homePage "https://" owner name)

theorem cloneUrl?_of_secureShell (unmentioned : ¬ MentionsPage (core reference))
    (short : secureShell? (core reference) = some (host, path)) :
    cloneUrl? reference =
      some ("https://" ++ host ++ '/' :: withGitSuffix (Text.trimWhile (· = '/') path)) := by
  have content : core reference ≠ [] := by
    intro empty
    rw [empty] at short
    cases short
  have written : withGitSuffix ("https://" ++ host ++ ['/'] ++ Text.trimWhile (· = '/') path) =
      "https://" ++ host ++ '/' :: withGitSuffix (Text.trimWhile (· = '/') path) := by
    rw [← withGitSuffix_append]
    simp
  simp only [cloneUrl?, List.isEmpty_iff, content, if_false, firstPage?_eq_none_iff.mpr unmentioned,
    short, written]

theorem cloneUrl?_of_web (unmentioned : ¬ MentionsPage (core reference))
    (web : hasWebScheme (core reference) = true) :
    cloneUrl? reference = some (withGitSuffix (core reference)) := by
  have content : core reference ≠ [] := by
    intro empty
    rw [empty] at web
    cases web
  simp only [cloneUrl?, List.isEmpty_iff, content, if_false, firstPage?_eq_none_iff.mpr unmentioned,
    secureShell?_of_web web, web, if_true]

theorem cloneUrl?_of_slug (content : core reference ≠ [])
    (unmentioned : ¬ MentionsPage (core reference)) (long : secureShell? (core reference) = none)
    (bare : hasWebScheme (core reference) = false) :
    cloneUrl? reference =
      some ("https://" ++ homeHost ++ '/' :: withGitSuffix (core reference)) := by
  have written : withGitSuffix ("https://" ++ homeHost ++ ['/'] ++ core reference) =
      "https://" ++ homeHost ++ '/' :: withGitSuffix (core reference) := by
    rw [← withGitSuffix_append]
    simp
  simp only [cloneUrl?, List.isEmpty_iff, content, if_false, firstPage?_eq_none_iff.mpr unmentioned,
    long, bare, written, Bool.false_eq_true]

/-- The clone URL of a page. -/
def IsHomeUrl (url : Text) : Prop :=
  ∃ scheme owner name, scheme ∈ webSchemes ∧ IsName owner ∧ IsName name ∧
    ".git".toList <:+ name ∧ url = scheme ++ homePage owner name

/-- The names of an owner and of a repository, and nothing else. -/
def IsNames (t : Text) : Prop := ∃ owner name, IsName owner ∧ IsName name ∧ t = owner ++ '/' :: name

theorem isNames_of_withGitSuffix (ended : path.getLast? ≠ some '/') (isOwner : IsName owner)
    (isName : IsName name) (same : withGitSuffix path = owner ++ '/' :: name) : IsNames path := by
  by_cases suffixed : ".git".toList <:+ path
  · rw [withGitSuffix_of_suffix suffixed] at same
    exact ⟨owner, name, isOwner, isName, same⟩
  · have behind : ".git".toList <:+ name := by
      apply git_suffix_append_iff.mp
      rw [← same]
      exact suffix_withGitSuffix path
    obtain ⟨stem, rfl⟩ := behind
    rw [withGitSuffix_of_not_suffix suffixed] at same
    have split : path = owner ++ '/' :: stem := by
      apply List.append_cancel_right
      rw [same, List.append_assoc, List.cons_append]
    refine ⟨owner, stem, isOwner, ⟨?_, fun c member => isName.chars c (by simp [member])⟩, split⟩
    rintro rfl
    simp [split] at ended

theorem isHomeUrl_iff (known : scheme ∈ webSchemes) (absent : '/' ∉ host)
    (ended : path.getLast? ≠ some '/') :
    IsHomeUrl (scheme ++ host ++ '/' :: withGitSuffix path) ↔ host = homeHost ∧ IsNames path := by
  constructor
  · rintro ⟨scheme', owner, name, known', isOwner, isName, suffixed, same⟩
    have same' : scheme = scheme' ∧
        host ++ '/' :: withGitSuffix path = homeHost ++ '/' :: (owner ++ '/' :: name) := by
      rcases mem_webSchemes.mp known with rfl | rfl <;>
        rcases mem_webSchemes.mp known' with rfl | rfl <;> simp_all [homePage]
    obtain ⟨rfl, places⟩ := Text.append_cons_inj absent (by decide) same'.2
    exact ⟨rfl, isNames_of_withGitSuffix ended isOwner isName places⟩
  · rintro ⟨rfl, owner, name, isOwner, isName, rfl⟩
    refine ⟨scheme, owner, withGitSuffix name, known, isOwner, isName.withGitSuffix,
      suffix_withGitSuffix name, ?_⟩
    rw [withGitSuffix_append]
    simp [homePage]

theorem exists_homeUrl (mentions : MentionsPage (core reference)) :
    ∃ url, cloneUrl? reference = some url ∧ IsHomeUrl url := by
  cases found : firstPage? (core reference) with
  | none => exact absurd mentions (firstPage?_eq_none_iff.mp found)
  | some page =>
    obtain ⟨before, here, -, begins⟩ := page?_of_firstPage? found
    obtain ⟨scheme, known, begins⟩ := page?_eq_some_iff.mp begins
    obtain ⟨owner, name, rest, isOwner, isName, -, -, rfl⟩ := pageBehind?_eq_some_iff.mp begins
    have suffixed := suffix_withGitSuffix name
    rcases known with known | rfl
    · exact ⟨_, cloneUrl?_of_webPage known found, scheme, owner, _, known, isOwner,
        isName.withGitSuffix, suffixed, rfl⟩
    · exact ⟨_, cloneUrl?_of_barePage found, "https://", owner, _, https_mem, isOwner,
        isName.withGitSuffix, suffixed, rfl⟩

/-- What a clone URL comes from. -/
theorem cloneUrl?_cases (known : cloneUrl? reference = some url) :
    (MentionsPage (core reference) ∧ IsHomeUrl url) ∨ ¬ MentionsPage (core reference) ∧
      ((∃ host path, secureShell? (core reference) = some (host, path) ∧
          url = "https://" ++ host ++ '/' :: withGitSuffix (Text.trimWhile (· = '/') path)) ∨
        (hasWebScheme (core reference) = true ∧ url = withGitSuffix (core reference)) ∨
        (secureShell? (core reference) = none ∧ hasWebScheme (core reference) = false ∧
          url = "https://" ++ homeHost ++ '/' :: withGitSuffix (core reference))) := by
  by_cases mentions : MentionsPage (core reference)
  · obtain ⟨home, found, isHome⟩ := exists_homeUrl mentions
    rw [known] at found
    cases found
    exact Or.inl ⟨mentions, isHome⟩
  refine Or.inr ⟨mentions, ?_⟩
  cases short : secureShell? (core reference) with
  | some place =>
    obtain ⟨host, path⟩ := place
    rw [cloneUrl?_of_secureShell mentions short] at known
    exact Or.inl ⟨host, path, rfl, (Option.some.inj known).symm⟩
  | none =>
    refine Or.inr ?_
    cases web : hasWebScheme (core reference) with
    | true =>
      rw [cloneUrl?_of_web mentions web] at known
      exact Or.inl ⟨rfl, (Option.some.inj known).symm⟩
    | false =>
      have content : core reference ≠ [] := by
        intro empty
        simp [cloneUrl?, empty] at known
      rw [cloneUrl?_of_slug content mentions short web] at known
      exact Or.inr ⟨rfl, rfl, (Option.some.inj known).symm⟩

theorem hasWebScheme_of_cloneUrl? (known : cloneUrl? reference = some url) :
    hasWebScheme url = true := by
  rcases cloneUrl?_cases known with ⟨-, scheme, owner, name, member, -, -, -, rfl⟩ |
    ⟨-, ⟨host, path, -, rfl⟩ | ⟨web, rfl⟩ | ⟨-, -, rfl⟩⟩
  · exact hasWebScheme_iff.mpr ⟨scheme, member, List.prefix_append scheme _⟩
  · rfl
  · obtain ⟨scheme, member, begins⟩ := hasWebScheme_iff.mp web
    exact hasWebScheme_iff.mpr ⟨scheme, member, begins.trans (prefix_withGitSuffix _)⟩
  · rfl

end Branches

end CodeWiki.Reference
