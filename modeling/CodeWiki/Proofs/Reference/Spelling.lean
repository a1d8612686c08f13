import CodeWiki.Proofs.Reference.CloneUrl

/-! The spellings of a repository of the home host. They reach its clone URL in three ways, as a
page, in the short form and as a slug, and the URL gives back the names of the owner and of the
repository. -/
namespace CodeWiki.Reference

variable {reference owner name before after rest t : Text} {c : Char}

/-- The ways to write the repository, without what may surround them. -/
def spellings (owner name : Text) : List Text :=
  [owner ++ '/' :: name, homePage owner name, "https://" ++ homePage owner name,
    "git@" ++ homeHost ++ ':' :: owner ++ '/' :: name, "ssh://git@" ++ homePage owner name]

section Surroundings

theorem IsName.last_solid (isName : IsName name) (start : Text)
    (last : (start ++ name).getLast? = some c) : Unicode.isWhiteSpace c = false ∧ c ≠ '/' := by
  rw [List.getLast?_append_of_ne_nil start isName.nonempty] at last
  have member := List.mem_of_getLast? last
  refine ⟨isName.solid member, ?_⟩
  rintro rfl
  exact isName.slash_not_mem member

theorem dropEndWhile_slashes (n : Nat) (white : ∀ c ∈ after, Unicode.isWhiteSpace c = true) :
    Text.dropEndWhile (· = '/')
      (Text.dropEndWhile Unicode.isWhiteSpace (List.replicate n '/' ++ after)) = [] := by
  have slashes : ∀ c ∈ List.replicate n '/', c = '/' := fun c => List.eq_of_mem_replicate
  have solid : ∀ c, (List.replicate n '/').getLast? = some c → Unicode.isWhiteSpace c = false := by
    intro c last
    rw [slashes c (List.mem_of_getLast? last)]
    decide
  rw [Text.dropEndWhile_append solid, Text.dropEndWhile_of_all white, List.append_nil]
  apply Text.dropEndWhile_of_all
  intro c member
  simpa using slashes c member

/-- White space around a spelling, and slashes behind it, are no part of the reference. -/
theorem core_spelling (isName : IsName name) (start : Text) (n : Nat)
    (left : ∀ c ∈ before, Unicode.isWhiteSpace c = true)
    (first : ∀ c, (start ++ name).head? = some c → Unicode.isWhiteSpace c = false)
    (right : ∀ c ∈ after, Unicode.isWhiteSpace c = true) :
    core (before ++ (start ++ name) ++ List.replicate n '/' ++ after) = start ++ name := by
  have occupied : start ++ name ≠ [] := by simp [isName.nonempty]
  have whole := core_append occupied left first (fun c => isName.last_solid start)
    (List.replicate n '/' ++ after)
  rw [dropEndWhile_slashes n right, List.append_nil] at whole
  rwa [List.append_assoc]

theorem exists_start (isOwner : IsName owner) (known : t ∈ spellings owner name) :
    ∃ start, t = start ++ name ∧ ∀ c, t.head? = some c → Unicode.isWhiteSpace c = false := by
  simp only [spellings, List.mem_cons, List.not_mem_nil, or_false] at known
  rcases known with rfl | rfl | rfl | rfl | rfl
  · refine ⟨owner ++ ['/'], by simp, ?_⟩
    intro c first
    obtain ⟨d, owner, rfl⟩ := List.exists_cons_of_ne_nil isOwner.nonempty
    cases first
    exact isOwner.solid List.mem_cons_self
  · refine ⟨homePage owner [], by simp [homePage], ?_⟩
    intro c first
    cases first
    decide
  · refine ⟨"https://" ++ homePage owner [], by simp [homePage], ?_⟩
    intro c first
    cases first
    decide
  · refine ⟨"git@" ++ homeHost ++ ':' :: owner ++ ['/'], by simp, ?_⟩
    intro c first
    cases first
    decide
  · refine ⟨"ssh://git@" ++ homePage owner [], by simp [homePage], ?_⟩
    intro c first
    cases first
    decide

end Surroundings

section Forms

theorem secureShell?_of_names (isOwner : IsName owner) (isName : IsName name) :
    secureShell? (owner ++ '/' :: name) = none := by
  have other : isNameChar '@' = false := by decide
  cases short : secureShell? (owner ++ '/' :: name) with
  | none => rfl
  | some place =>
    obtain ⟨host, path⟩ := place
    have member : '@' ∈ owner ++ '/' :: name := by
      rw [eq_of_secureShell? short]
      simp
    simp [isOwner.not_mem other, isName.not_mem other] at member

theorem hasWebScheme_of_names (isOwner : IsName owner) (isName : IsName name) :
    hasWebScheme (owner ++ '/' :: name) = false := by
  have other : isNameChar ':' = false := by decide
  have colon : ∀ scheme ∈ webSchemes, ':' ∈ scheme := by decide
  rw [Bool.eq_false_iff, Ne, hasWebScheme_iff]
  rintro ⟨scheme, known, begins⟩
  have member := begins.mem (colon scheme known)
  simp [isOwner.not_mem other, isName.not_mem other] at member

theorem cloneUrl?_of_names (isOwner : IsName owner) (isName : IsName name)
    (same : core reference = owner ++ '/' :: name) :
    cloneUrl? reference = some ("https://" ++ homePage owner (withGitSuffix name)) := by
  have content : core reference ≠ [] := by simp [same]
  have unmentioned : ¬ MentionsPage (core reference) := by
    rw [same]
    exact not_mentionsPage_names isOwner isName
  have long : secureShell? (core reference) = none := by
    rw [same]
    exact secureShell?_of_names isOwner isName
  have bare : hasWebScheme (core reference) = false := by
    rw [same]
    exact hasWebScheme_of_names isOwner isName
  rw [cloneUrl?_of_slug content unmentioned long bare, same, withGitSuffix_append]
  simp [homePage]

theorem firstPage?_homePage (isOwner : IsName owner) (isName : IsName name) :
    firstPage? (homePage owner name) = some (homePage owner name) := by
  have found := page?_of_names (Or.inr rfl) isOwner isName stopsName_nil
  rw [List.nil_append, List.append_nil] at found
  exact firstPage?_of_page? found

/-- What follows the name of the repository in its address does not count. -/
theorem cloneUrl?_of_address (isOwner : IsName owner) (isName : IsName name)
    (stops : StopsName rest) (same : core reference = "https://" ++ homePage owner name ++ rest) :
    cloneUrl? reference = some ("https://" ++ homePage owner (withGitSuffix name)) := by
  have found := firstPage?_of_page? (page?_of_names (Or.inl https_mem) isOwner isName stops)
  rw [← same] at found
  exact cloneUrl?_of_webPage https_mem found

theorem cloneUrl?_of_short (isOwner : IsName owner) (isName : IsName name)
    (same : core reference = "git@" ++ homeHost ++ ':' :: owner ++ '/' :: name) :
    cloneUrl? reference = some ("https://" ++ homePage owner (withGitSuffix name)) := by
  have written : core reference = "git@" ++ homeHost ++ ':' :: (owner ++ '/' :: name) := by
    rw [same]
    simp
  have unmentioned : ¬ MentionsPage (core reference) := by
    rw [written, mentionsPage_colon_iff (by decide)]
    exact not_mentionsPage_names isOwner isName
  have short : secureShell? (core reference) = some (homeHost, owner ++ '/' :: name) := by
    rw [written]
    exact secureShell?_of_host (by decide) _
  rw [cloneUrl?_of_secureShell unmentioned short, (isPath_names isOwner isName).trimWhile_slash,
    withGitSuffix_append]
  simp [homePage]

/-- A reference that comes down to one of the spellings has the clone URL of its form. -/
theorem cloneUrl?_of_spelling (isOwner : IsName owner) (isName : IsName name)
    (known : core reference ∈ spellings owner name) :
    cloneUrl? reference = some ("https://" ++ homePage owner (withGitSuffix name)) := by
  have page := firstPage?_homePage isOwner isName
  simp only [spellings, List.mem_cons, List.not_mem_nil, or_false] at known
  rcases known with slug | bare | web | short | long
  · exact cloneUrl?_of_names isOwner isName slug
  · have found : firstPage? (core reference) = some (homePage owner name) := by
      rw [bare]
      exact page
    exact cloneUrl?_of_barePage found
  · exact cloneUrl?_of_address isOwner isName stopsName_nil (by simpa using web)
  · exact cloneUrl?_of_short isOwner isName short
  · have later : firstPage? (core reference) = firstPage? (homePage owner name) := by
      rw [long]
      rfl
    exact cloneUrl?_of_barePage (later.trans page)

end Forms

section Slug

theorem behindHost?_homeUrl (isOwner : IsName owner) (isName : IsName name) :
    behindHost? ("https://" ++ homePage owner name) = some (owner ++ '/' :: name) := by
  have other : isNameChar ':' = false := by decide
  have unmarked : ∀ {t}, IsName t → ¬ homeHost ++ [':'] <:+: t :=
    fun isName inside => isName.not_mem other (inside.subset (by simp))
  have slash : '/' ∉ homeHost ++ [':'] := by decide
  have path := Text.not_infix_append (unmarked isOwner) (unmarked isName) slash
  have short : ∀ t : Text, t.length ≤ homeHost.length → ¬ homeHost ++ [':'] <:+: t := by
    intro t bound inside
    have longer := inside.length_le
    rw [List.length_append, List.length_singleton] at longer
    omega
  have place := Text.not_infix_append (short homeHost (by decide)) path slash
  have opening := Text.not_infix_append (short [] (by decide)) place slash
  have whole := Text.not_infix_append (short "https:" (by decide)) opening slash
  have colon : Text.cut? (homeHost ++ [':']) ("https://" ++ homePage owner name) = none :=
    Text.cut?_eq_none_iff.mpr whole
  have cut : Text.cut? (homeHost ++ ['/']) ("https://" ++ homePage owner name) =
      some ("https://".toList, owner ++ '/' :: name) :=
    Text.cut?_append "ithub.com/" _ (by decide)
  simp only [behindHost?, colon, cut, Option.map_some]

theorem slug_homeUrl (isOwner : IsName owner) (isName : IsName name)
    (bare : ¬ ".git".toList <:+ name) :
    slug ("https://" ++ homePage owner (name ++ ".git")) = owner ++ '/' :: name := by
  have longer : IsName (name ++ ".git") := isName.append isNameChar_of_mem_git
  have trimmed : Text.trim ("https://" ++ homePage owner (name ++ ".git")) =
      "https://" ++ homePage owner (name ++ ".git") := by
    apply Text.trimWhile_of_ends
    · intro c first
      cases first
      decide
    · intro c last
      have written : "https://" ++ homePage owner (name ++ ".git") =
          "https://" ++ homePage owner [] ++ (name ++ ".git") := by
        simp [homePage]
      rw [written] at last
      exact (longer.last_solid _ last).1
  have behind := behindHost?_homeUrl isOwner longer
  have path := (isPath_names isOwner longer).trimWhile_slash
  have stem :
      Text.before? ".git" (owner ++ '/' :: (name ++ ".git")) = some (owner ++ '/' :: name) :=
    Text.before?_eq_some_iff.mpr (by simp)
  have whole : Text.before? ".git" name = none := Text.before?_eq_none_iff.mpr bare
  have parts : (owner ++ '/' :: name).splitOn '/' = [owner, name] := by
    rw [List.splitOn_eq_splitOnP, List.splitOnP_append_cons_of_forall_mem ?_ '/' (by simp),
      ← List.splitOn_eq_splitOnP, List.splitOn_eq_singleton isName.slash_not_mem]
    intro c member
    have other : c ≠ '/' := fun same => isOwner.slash_not_mem (same ▸ member)
    simpa using other
  simp only [slug, trimmed, behind, path, stem, Option.getD_some, parts, whole, Option.getD_none]
  simp

end Slug

theorem withGitSuffix_name {suffix : Text} (bare : ¬ ".git".toList <:+ name)
    (known : suffix ∈ [[], ".git".toList]) : withGitSuffix (name ++ suffix) = name ++ ".git" := by
  simp only [List.mem_cons, List.not_mem_nil, or_false] at known
  rcases known with rfl | rfl
  · rw [List.append_nil, withGitSuffix_of_not_suffix bare]
  · exact withGitSuffix_of_suffix (List.suffix_append name _)

/-- All spellings of a repository have one clone URL, from which its short name is read back. -/
theorem spellings_agree (isOwner : IsName owner) (isName : IsName name)
    (bare : ¬ ".git".toList <:+ name) :
    (∀ suffix ∈ [[], ".git".toList], ∀ before after, Text.isBlank before = true →
      Text.isBlank after = true →
      (∀ spelling ∈ spellings owner (name ++ suffix), ∀ n,
        cloneUrl? (before ++ spelling ++ List.replicate n '/' ++ after) =
          some ("https://" ++ homePage owner (name ++ ".git"))) ∧
      ∀ further,
        cloneUrl?
            (before ++ ("https://" ++ homePage owner (name ++ suffix)) ++ '/' :: further ++ after) =
          some ("https://" ++ homePage owner (name ++ ".git"))) ∧
    slug ("https://" ++ homePage owner (name ++ ".git")) = owner ++ '/' :: name := by
  refine ⟨?_, slug_homeUrl isOwner isName bare⟩
  intro suffix known before after left right
  rw [Text.isBlank, List.all_eq_true] at left right
  have longer : IsName (name ++ suffix) := by
    simp only [List.mem_cons, List.not_mem_nil, or_false] at known
    rcases known with rfl | rfl
    · rwa [List.append_nil]
    · exact isName.append isNameChar_of_mem_git
  rw [← withGitSuffix_name bare known]
  constructor
  · intro spelling member n
    obtain ⟨start, rfl, first⟩ := exists_start isOwner member
    apply cloneUrl?_of_spelling isOwner longer
    rwa [core_spelling longer start n left first right]
  · intro further
    have member :
        "https://" ++ homePage owner (name ++ suffix) ∈ spellings owner (name ++ suffix) := by
      simp [spellings]
    obtain ⟨start, same, first⟩ := exists_start isOwner member
    have occupied : "https://".toList ++ homePage owner (name ++ suffix) ≠ [] := by
      rw [same]
      simp [longer.nonempty]
    have last : ∀ c, ("https://" ++ homePage owner (name ++ suffix)).getLast? = some c →
        Unicode.isWhiteSpace c = false ∧ c ≠ '/' := by
      rw [same]
      exact fun c => longer.last_solid start
    have whole := core_append occupied left first last ('/' :: further ++ after)
    rw [← List.append_assoc] at whole
    refine cloneUrl?_of_address isOwner longer ?_ whole
    have inside := Text.isPrefix_dropEndWhile (· = '/')
      (Text.dropEndWhile Unicode.isWhiteSpace ('/' :: further ++ after))
    exact (stopsName_slash _).beginning (inside.trans (Text.isPrefix_dropEndWhile _ _))

/-- The owner may be called like the home host. -/
theorem owner_called_like_home_host :
    IsName "github.com" ∧ IsName ".github" ∧ ¬ ".git".toList <:+ ".github".toList ∧
      cloneUrl? "\t git@github.com:github.com/.github.git//\n" =
        some "https://github.com/github.com/.github.git" ∧
      cloneUrl? "github.com/.github" = some "https://github.com/github.com/.github.git" ∧
      cloneUrl? "https://github.com/github.com/.github/tree/main" =
        some "https://github.com/github.com/.github.git" ∧
      slug "https://github.com/github.com/.github.git" = "github.com/.github" := by
  have isOwner : IsName "github.com" := ⟨by decide, List.all_eq_true.mp (by decide +kernel)⟩
  have isName : IsName ".github" := ⟨by decide, List.all_eq_true.mp (by decide +kernel)⟩
  have bare : ¬ ".git".toList <:+ ".github".toList := by decide
  obtain ⟨agree, short⟩ := spellings_agree isOwner isName bare
  have plain := agree [] (by simp) [] [] rfl rfl
  have suffixed := (agree ".git" (by simp) "\t " "\n" (by decide +kernel) (by decide +kernel)).1
  refine ⟨isOwner, isName, bare, ?_, ?_, ?_, short⟩
  · exact suffixed "git@github.com:github.com/.github.git" (by decide +kernel) 2
  · exact plain.1 "github.com/.github" (by decide +kernel) 0
  · exact plain.2 "tree/main"

end CodeWiki.Reference
