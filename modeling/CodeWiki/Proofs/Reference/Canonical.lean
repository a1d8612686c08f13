import CodeWiki.Proofs.Reference
import CodeWiki.Proofs.Reference.CloneUrl

/-! Clone URLs of clone URLs. A clone URL stands for itself unless a page can be read in it that is
not the whole of it; then it is the page that counts, and the page's URL stands for itself. -/
namespace CodeWiki.Reference

variable {reference url scheme host path t : Text}

/-- A page can be read at the beginning of the path, but it is not the page of the home host, or
there is more to the path. -/
def Strays (host path : Text) : Prop :=
  homeHost <:+ host ∧ BeginsWithNames path ∧ ¬ (host = homeHost ∧ IsNames path)

theorem core_of_url (web : hasWebScheme url = true) (suffixed : ".git".toList <:+ url) :
    core url = url := by
  obtain ⟨scheme, known, rest, rfl⟩ := hasWebScheme_iff.mp web
  apply core_of_ends
  · intro c first
    rcases mem_webSchemes.mp known with rfl | rfl <;> (cases first; decide)
  · obtain ⟨stem, same⟩ := suffixed
    intro c last
    rw [← same, List.getLast?_append_of_ne_nil stem (by decide)] at last
    cases last
    decide

theorem cloneUrl?_of_homeUrl (home : IsHomeUrl url) : cloneUrl? url = some url := by
  obtain ⟨scheme, owner, name, known, isOwner, isName, suffixed, rfl⟩ := home
  have web : hasWebScheme (scheme ++ homePage owner name) = true :=
    hasWebScheme_iff.mpr ⟨scheme, known, List.prefix_append scheme _⟩
  have ended : ".git".toList <:+ scheme ++ homePage owner name := by
    rw [← withGitSuffix_of_suffix suffixed, ← withGitSuffix_homePage]
    exact suffix_withGitSuffix _
  have found := page?_of_names (Or.inl known) isOwner isName stopsName_nil
  rw [List.append_nil] at found
  have first : firstPage? (core (scheme ++ homePage owner name)) =
      some (scheme ++ homePage owner name) := by
    rw [core_of_url web ended]
    exact firstPage?_of_page? found
  rw [cloneUrl?_of_webPage known first, withGitSuffix_of_suffix suffixed]

/-- The page that a URL mentions takes its place, unless it mentions none. -/
theorem cloneUrl?_url (web : hasWebScheme url = true) (suffixed : ".git".toList <:+ url) :
    (MentionsPage url → ∃ home, cloneUrl? url = some home ∧ IsHomeUrl home) ∧
      (¬ MentionsPage url → cloneUrl? url = some url) := by
  have whole := core_of_url web suffixed
  constructor
  · intro mentions
    exact exists_homeUrl (by rwa [whole])
  · intro unmentioned
    have direct : cloneUrl? url = some (withGitSuffix (core url)) :=
      cloneUrl?_of_web (by rwa [whole]) (by rwa [whole])
    rwa [whole, withGitSuffix_of_suffix suffixed] at direct

theorem fixed_iff (web : hasWebScheme url = true) (suffixed : ".git".toList <:+ url) :
    cloneUrl? url = some url ↔ (MentionsPage url → IsHomeUrl url) := by
  obtain ⟨replaced, kept⟩ := cloneUrl?_url web suffixed
  constructor
  · intro fixed mentions
    obtain ⟨home, found, isHome⟩ := replaced mentions
    rw [fixed] at found
    cases found
    exact isHome
  · intro whole
    by_cases mentions : MentionsPage url
    · exact cloneUrl?_of_homeUrl (whole mentions)
    · exact kept mentions

/-- The URL of a place stands for itself unless it strays to a page. -/
theorem fixed_iff_not_strays (known : scheme ∈ webSchemes) (absent : '/' ∉ host)
    (ended : path.getLast? ≠ some '/') (unmentioned : ¬ MentionsPage path)
    (same : url = scheme ++ host ++ '/' :: withGitSuffix path) :
    cloneUrl? url = some url ↔ ¬ Strays host path := by
  have web : hasWebScheme url = true := by
    rw [same, List.append_assoc]
    exact hasWebScheme_iff.mpr ⟨scheme, known, List.prefix_append scheme _⟩
  have suffixed : ".git".toList <:+ url := by
    rw [same, git_suffix_append_iff]
    exact suffix_withGitSuffix path
  rw [fixed_iff web suffixed, same, mentionsPage_url_iff known absent,
    beginsWithNames_withGitSuffix_iff ended, mentionsPage_withGitSuffix_iff ended,
    isHomeUrl_iff known absent ended]
  simp only [unmentioned, or_false, Strays]
  tauto

/-- A reference to a page, or with the scheme of a web address, has a clone URL that stands for
itself. A place in the short form and a slug have one unless they stray. Whatever stands for a clone
URL stands for itself. -/
theorem cloneUrl?_again_iff (known : cloneUrl? reference = some url) :
    (MentionsPage (core reference) ∨ hasWebScheme (core reference) = true →
      cloneUrl? url = some url) ∧
    (∀ host path, ¬ MentionsPage (core reference) →
      secureShell? (core reference) = some (host, path) → '/' ∉ host →
      (cloneUrl? url = some url ↔ ¬ Strays host (Text.trimWhile (· = '/') path))) ∧
    (¬ MentionsPage (core reference) → secureShell? (core reference) = none →
      hasWebScheme (core reference) = false →
      (cloneUrl? url = some url ↔ ¬ Strays homeHost (core reference))) ∧
    (cloneUrl? url = some url ↔ (MentionsPage url → IsHomeUrl url)) ∧
    ∃ last, cloneUrl? url = some last ∧ cloneUrl? last = some last := by
  have web := hasWebScheme_of_cloneUrl? known
  have suffixed := suffix_of_cloneUrl? known
  have fixed := fixed_iff web suffixed
  refine ⟨?_, ?_, ?_, fixed, ?_⟩
  · intro form
    by_cases mentions : MentionsPage (core reference)
    · obtain ⟨home, found, isHome⟩ := exists_homeUrl mentions
      rw [known] at found
      cases found
      exact cloneUrl?_of_homeUrl isHome
    · have address := form.resolve_left mentions
      rw [cloneUrl?_of_web mentions address] at known
      cases known
      refine fixed.mpr fun mentioned => absurd ?_ mentions
      exact (mentionsPage_withGitSuffix_iff (getLast?_core reference)).mp mentioned
  · intro host path mentions short absent
    rw [cloneUrl?_of_secureShell mentions short] at known
    have written := eq_of_secureShell? short
    refine fixed_iff_not_strays https_mem absent ?_ ?_ (Option.some.inj known).symm
    · intro last
      simpa using Text.getLast?_dropEndWhile last
    · intro mentioned
      apply mentions
      have inside : path <:+: core reference := ⟨"git@" ++ host ++ [':'], [], by simp [written]⟩
      exact mentioned.of_infix ((Text.trimWhile_infix _ path).trans inside)
  · intro mentions long bare
    have content : core reference ≠ [] := by
      intro empty
      simp [cloneUrl?, empty] at known
    rw [cloneUrl?_of_slug content mentions long bare] at known
    exact fixed_iff_not_strays https_mem (by decide) (getLast?_core reference) mentions
      (Option.some.inj known).symm
  · obtain ⟨replaced, kept⟩ := cloneUrl?_url web suffixed
    by_cases mentions : MentionsPage url
    · obtain ⟨home, found, isHome⟩ := replaced mentions
      exact ⟨home, found, cloneUrl?_of_homeUrl isHome⟩
    · exact ⟨url, kept mentions, kept mentions⟩

/-- On another host a path may have more than two names. -/
theorem nested_group_stands_for_itself :
    cloneUrl? "git@gitlab.com:group/sub/project" = some "https://gitlab.com/group/sub/project.git" ∧
      cloneUrl? "https://gitlab.com/group/sub/project.git" =
        some "https://gitlab.com/group/sub/project.git" := by
  have known : cloneUrl? "git@gitlab.com:group/sub/project" =
      some "https://gitlab.com/group/sub/project.git" := by decide
  have unmentioned : ¬ MentionsPage (core "git@gitlab.com:group/sub/project") :=
    firstPage?_eq_none_iff.mp (by decide)
  have short : secureShell? (core "git@gitlab.com:group/sub/project") =
      some ("gitlab.com".toList, "group/sub/project".toList) := by decide
  obtain ⟨-, placed, -⟩ := cloneUrl?_again_iff known
  refine ⟨known, (placed _ _ unmentioned short (by decide)).mpr ?_⟩
  rintro ⟨hosted, -⟩
  exact absurd hosted (by decide)

/-- A host that ends like the home host gives way to it, and a third name in a slug is lost. -/
theorem clone_url_of_clone_url_differs :
    (cloneUrl? "git@notgithub.com:owner/repo" = some "https://notgithub.com/owner/repo.git" ∧
      cloneUrl? "https://notgithub.com/owner/repo.git" = some "https://github.com/owner/repo.git") ∧
    cloneUrl? "owner/repo/tree" = some "https://github.com/owner/repo/tree.git" ∧
      cloneUrl? "https://github.com/owner/repo/tree.git" =
        some "https://github.com/owner/repo.git" := by
  refine ⟨⟨?_, ?_⟩, ?_, ?_⟩ <;> decide

end CodeWiki.Reference
