import CodeWiki.Proofs.Text.Cut
import CodeWiki.Proofs.Text.Trim
import CodeWiki.Proofs.Unicode
import CodeWiki.Reference

/-! Pages of repositories in a text. The search finds the leftmost one, each name in it as long as
possible, and it finds none only where the home host is nowhere followed by two names. A page lies
between slashes, so in a URL it begins either with the host or in the path. -/
namespace CodeWiki.Reference

/-- The name of an owner or of a repository. -/
structure IsName (t : Text) : Prop where
  nonempty : t ≠ []
  chars : ∀ c ∈ t, isNameChar c = true

/-- No name goes on at the beginning of `t`. -/
def StopsName (t : Text) : Prop := ∀ c, t.head? = some c → isNameChar c = false

/-- The page of a repository, without a scheme. -/
def homePage (owner name : Text) : Text := homeHost ++ '/' :: owner ++ '/' :: name

def BeginsWithNames (t : Text) : Prop :=
  ∃ owner name rest, IsName owner ∧ IsName name ∧ t = owner ++ '/' :: name ++ rest

/-- Somewhere in `t` the home host is followed by the names of an owner and a repository. -/
def MentionsPage (t : Text) : Prop :=
  ∃ before rest, t = before ++ homeHost ++ '/' :: rest ∧ BeginsWithNames rest

/-- The path of a repository on a host. -/
structure IsPath (path : Text) : Prop where
  nonempty : path ≠ []
  solid : ∀ c ∈ path, Unicode.isWhiteSpace c = false
  first : path.head? ≠ some '/'
  last : path.getLast? ≠ some '/'

def webSchemes : List Text := ["https://", "http://"]

variable {t u scheme owner name rest page path : Text} {c : Char}

theorem mem_webSchemes : scheme ∈ webSchemes ↔ scheme = "https://" ∨ scheme = "http://" := by
  rw [webSchemes, List.mem_cons, List.mem_singleton]

theorem https_mem : "https://".toList ∈ webSchemes := List.mem_cons_self

theorem http_mem : "http://".toList ∈ webSchemes := List.mem_cons_of_mem _ List.mem_cons_self

theorem isNameChar_slash : isNameChar '/' = false := by decide

theorem isNameChar_of_isWhiteSpace (white : Unicode.isWhiteSpace c = true) :
    isNameChar c = false := by
  have dash : c ≠ '-' := by
    rintro rfl
    revert white
    decide
  have dot : c ≠ '.' := by
    rintro rfl
    revert white
    decide
  simp [isNameChar, Unicode.isWord_of_isWhiteSpace white, dash, dot]

theorem IsName.not_mem (isName : IsName name) (other : isNameChar c = false) : c ∉ name := by
  intro member
  rw [isName.chars c member] at other
  cases other

theorem IsName.slash_not_mem (isName : IsName name) : '/' ∉ name := isName.not_mem isNameChar_slash

theorem IsName.solid (isName : IsName name) (member : c ∈ name) :
    Unicode.isWhiteSpace c = false := by
  cases white : Unicode.isWhiteSpace c with
  | false => rfl
  | true => exact absurd member (isName.not_mem (isNameChar_of_isWhiteSpace white))

theorem isNameChar_of_mem_git : ∀ c ∈ ".git".toList, isNameChar c = true :=
  List.all_eq_true.mp (by decide +kernel)

theorem IsName.append (isName : IsName name) (chars : ∀ c ∈ t, isNameChar c = true) :
    IsName (name ++ t) := by
  refine ⟨by simp [isName.nonempty], ?_⟩
  intro c member
  rcases List.mem_append.mp member with here | there
  · exact isName.chars c here
  · exact chars c there

theorem isPath_names (isOwner : IsName owner) (isName : IsName name) :
    IsPath (owner ++ '/' :: name) where
  nonempty := by simp
  solid := by
    intro c member
    rcases List.mem_append.mp member with here | there
    · exact isOwner.solid here
    · rcases List.mem_cons.mp there with rfl | there
      · decide
      · exact isName.solid there
  first := by
    obtain ⟨c, owner, rfl⟩ := List.exists_cons_of_ne_nil isOwner.nonempty
    intro first
    cases first
    exact isOwner.slash_not_mem List.mem_cons_self
  last := by
    intro last
    rw [List.getLast?_append_of_ne_nil owner (List.cons_ne_nil '/' name),
      List.getLast?_cons_of_ne_nil isName.nonempty] at last
    exact isName.slash_not_mem (List.mem_of_getLast? last)

theorem stopsName_nil : StopsName [] := by
  intro c first
  cases first

theorem stopsName_slash (t : Text) : StopsName ('/' :: t) := by
  intro c first
  cases first
  exact isNameChar_slash

theorem StopsName.beginning (stops : StopsName t) (begins : u <+: t) : StopsName u := by
  intro c first
  obtain ⟨u, rfl⟩ := List.head?_eq_some_iff.mp first
  obtain ⟨rest, rfl⟩ := begins
  exact stops c rfl

theorem stopsName_dropWhile (t : Text) : StopsName (t.dropWhile isNameChar) := by
  intro c first
  have kept := List.head?_dropWhile_not isNameChar t
  rw [first] at kept
  exact kept

/-- Names at the beginning of a text go on as far as they can. -/
theorem BeginsWithNames.longest (begins : BeginsWithNames t) :
    ∃ owner name rest, IsName owner ∧ IsName name ∧ StopsName rest ∧
      t = owner ++ '/' :: name ++ rest := by
  obtain ⟨owner, name, rest, isOwner, isName, rfl⟩ := begins
  refine ⟨owner, name ++ rest.takeWhile isNameChar, rest.dropWhile isNameChar, isOwner,
    isName.append fun c => List.mem_takeWhile_imp, stopsName_dropWhile rest, ?_⟩
  simp

theorem ownerAndName?_of_names (isOwner : IsName owner) (isName : IsName name)
    (stops : StopsName rest) :
    ownerAndName? ('/' :: owner ++ '/' :: name ++ rest) = some ('/' :: owner ++ '/' :: name) := by
  have written : '/' :: owner ++ '/' :: name ++ rest = '/' :: (owner ++ '/' :: (name ++ rest)) := by
    simp only [List.cons_append, List.append_assoc]
  have slash : StopsName ('/' :: (name ++ rest)) := stopsName_slash _
  have ownerRead := Text.takeWhile_append_of_head isOwner.chars slash
  have ownerLeft := Text.dropWhile_append_of_head isOwner.chars slash
  have nameRead := Text.takeWhile_append_of_head isName.chars stops
  have opened : ∀ t, Text.after? ['/'] ('/' :: t) = some t := Text.after?_append ['/']
  have occupied : (owner.isEmpty || name.isEmpty) = false := by
    simp [isOwner.nonempty, isName.nonempty]
  rw [written]
  simp only [ownerAndName?, bind, Option.bind_some, opened, ownerRead, ownerLeft, nameRead,
    occupied, Bool.false_eq_true, if_false, List.cons_append, List.nil_append, List.append_assoc]

theorem names_of_ownerAndName? (found : ownerAndName? t = some path) :
    ∃ owner name rest, IsName owner ∧ IsName name ∧ StopsName rest ∧
      t = '/' :: owner ++ '/' :: name ++ rest ∧ path = '/' :: owner ++ '/' :: name := by
  simp only [ownerAndName?, bind, Option.bind_eq_some_iff] at found
  obtain ⟨t, opened, later, closed, found⟩ := found
  split at found
  · cases found
  · rename_i occupied
    rw [Bool.not_eq_true, Bool.or_eq_false_iff] at occupied
    obtain rfl := Text.after?_eq_some_iff.mp opened
    have separated := Text.after?_eq_some_iff.mp closed
    refine ⟨t.takeWhile isNameChar, later.takeWhile isNameChar, later.dropWhile isNameChar,
      ⟨by simpa using occupied.1, fun c => List.mem_takeWhile_imp⟩,
      ⟨by simpa using occupied.2, fun c => List.mem_takeWhile_imp⟩, ?_, ?_, ?_⟩
    · exact stopsName_dropWhile later
    · calc ['/'] ++ t = '/' :: (t.takeWhile isNameChar ++ t.dropWhile isNameChar) := by simp
        _ = '/' :: (t.takeWhile isNameChar ++ '/' :: (later.takeWhile isNameChar ++
              later.dropWhile isNameChar)) := by rw [separated]; simp
        _ = _ := by simp
    · simpa using found.symm

theorem pageBehind?_eq_some_iff : pageBehind? scheme t = some page ↔
    ∃ owner name rest, IsName owner ∧ IsName name ∧ StopsName rest ∧
      t = scheme ++ homePage owner name ++ rest ∧ page = scheme ++ homePage owner name := by
  constructor
  · intro found
    simp only [pageBehind?, bind, Option.bind_eq_some_iff] at found
    obtain ⟨hosted, behindScheme, named, behindHost, path, names, same⟩ := found
    obtain ⟨owner, name, rest, isOwner, isName, stops, rfl, rfl⟩ := names_of_ownerAndName? names
    obtain rfl := Text.after?_eq_some_iff.mp behindScheme
    obtain rfl := Text.after?_eq_some_iff.mp behindHost
    refine ⟨owner, name, rest, isOwner, isName, stops, ?_, ?_⟩
    · simp [homePage]
    · simpa [homePage] using same.symm
  · rintro ⟨owner, name, rest, isOwner, isName, stops, rfl, rfl⟩
    have names := ownerAndName?_of_names isOwner isName stops
    have written : scheme ++ homePage owner name ++ rest =
        scheme ++ (homeHost ++ ('/' :: owner ++ '/' :: name ++ rest)) := by
      simp [homePage]
    simp only [pageBehind?, bind, written, Text.after?_append, Option.bind_some, names]
    simp [homePage]

/-- A text begins with at most one of the schemes and the host, so that it does not matter in which
order they are tried. -/
theorem page?_eq_some_iff : page? t = some page ↔
    ∃ scheme, (scheme ∈ webSchemes ∨ scheme = []) ∧ pageBehind? scheme t = some page := by
  constructor
  · intro found
    rcases Option.or_eq_some_iff.mp found with found | ⟨-, found⟩
    · exact ⟨"https://", Or.inl https_mem, found⟩
    · rcases Option.or_eq_some_iff.mp found with found | ⟨-, found⟩
      · exact ⟨"http://", Or.inl http_mem, found⟩
      · exact ⟨[], Or.inr rfl, found⟩
  · rintro ⟨scheme, known, found⟩
    obtain ⟨owner, name, rest, -, -, -, rfl, -⟩ := pageBehind?_eq_some_iff.mp found
    rw [mem_webSchemes] at known
    rcases known with (rfl | rfl) | rfl
    · rw [page?, found, Option.some_or]
    · have secure : pageBehind? "https://" ("http://" ++ homePage owner name ++ rest) = none := rfl
      rw [page?, found, secure, Option.none_or, Option.some_or]
    · have secure : pageBehind? "https://" ([] ++ homePage owner name ++ rest) = none := rfl
      have plain : pageBehind? "http://" ([] ++ homePage owner name ++ rest) = none := rfl
      rw [page?, found, secure, plain, Option.none_or, Option.none_or]

theorem page?_of_names (known : scheme ∈ webSchemes ∨ scheme = []) (isOwner : IsName owner)
    (isName : IsName name) (stops : StopsName rest) :
    page? (scheme ++ homePage owner name ++ rest) = some (scheme ++ homePage owner name) := by
  apply page?_eq_some_iff.mpr
  refine ⟨scheme, known, pageBehind?_eq_some_iff.mpr ?_⟩
  exact ⟨owner, name, rest, isOwner, isName, stops, rfl, rfl⟩

/-- A page at the beginning of a text is the leftmost one. -/
theorem firstPage?_of_page? (found : page? t = some page) : firstPage? t = some page := by
  cases t with
  | nil => cases found
  | cons c t => rw [firstPage?, found, Option.some_or]

theorem page?_of_firstPage? (found : firstPage? t = some page) :
    ∃ before here, t = before ++ here ∧ page? here = some page := by
  induction t with
  | nil => cases found
  | cons c t ih =>
    rcases Option.or_eq_some_iff.mp found with found | ⟨-, found⟩
    · exact ⟨[], c :: t, rfl, found⟩
    · obtain ⟨before, here, rfl, begins⟩ := ih found
      exact ⟨c :: before, here, rfl, begins⟩

theorem firstPage?_ne_none (before : Text) (found : page? t = some page) :
    firstPage? (before ++ t) ≠ none := by
  induction before with
  | nil =>
    rw [List.nil_append, firstPage?_of_page? found]
    exact Option.some_ne_none page
  | cons c before ih =>
    rw [List.cons_append, firstPage?, Ne, Option.or_eq_none_iff, not_and]
    exact fun _ => ih

theorem firstPage?_eq_none_iff : firstPage? t = none ↔ ¬ MentionsPage t := by
  constructor
  · rintro none ⟨before, rest, rfl, begins⟩
    obtain ⟨owner, name, rest, isOwner, isName, stops, rfl⟩ := begins.longest
    have found : page? (homePage owner name ++ rest) = some (homePage owner name) :=
      page?_of_names (Or.inr rfl) isOwner isName stops
    apply firstPage?_ne_none before found
    rw [← none]
    simp [homePage]
  · intro unmentioned
    cases found : firstPage? t with
    | none => rfl
    | some page =>
      obtain ⟨before, here, rfl, begins⟩ := page?_of_firstPage? found
      obtain ⟨scheme, -, begins⟩ := page?_eq_some_iff.mp begins
      obtain ⟨owner, name, rest, isOwner, isName, -, rfl, -⟩ := pageBehind?_eq_some_iff.mp begins
      refine absurd ⟨before ++ scheme, owner ++ '/' :: name ++ rest, ?_, owner, name, rest, isOwner,
        isName, rfl⟩ unmentioned
      simp [homePage]

/-- Between slashes: the host stands before the first of them with the names behind it, or the whole
page comes later. -/
theorem mentionsPage_slash_iff (absent : '/' ∉ t) : MentionsPage (t ++ '/' :: u) ↔
    (homeHost <:+ t ∧ BeginsWithNames u) ∨ MentionsPage u := by
  have hostSlash : '/' ∉ homeHost := by decide
  constructor
  · rintro ⟨before, rest, same, begins⟩
    -- the first slash stands in front of the host or right behind it
    by_cases member : '/' ∈ before
    · obtain ⟨first, later, rfl, fresh⟩ := List.eq_append_cons_of_mem member
      have separated : t ++ '/' :: u = first ++ '/' :: (later ++ homeHost ++ '/' :: rest) := by
        rw [same]
        simp
      obtain ⟨-, rfl⟩ := Text.append_cons_inj absent fresh separated
      exact Or.inr ⟨later, rest, rfl, begins⟩
    · have fresh : '/' ∉ before ++ homeHost := by simp [member, hostSlash]
      obtain ⟨rfl, rfl⟩ := Text.append_cons_inj absent fresh same
      exact Or.inl ⟨List.suffix_append before homeHost, begins⟩
  · rintro (⟨⟨before, rfl⟩, begins⟩ | ⟨before, rest, rfl, begins⟩)
    · exact ⟨before, u, rfl, begins⟩
    · exact ⟨t ++ '/' :: before, rest, by simp, begins⟩

/-- What is written behind a text that does not end in a slash, and has none itself, adds no
names. -/
theorem BeginsWithNames.of_append (begins : BeginsWithNames (t ++ u))
    (ended : t.getLast? ≠ some '/') (absent : '/' ∉ u) : BeginsWithNames t := by
  obtain ⟨owner, name, rest, isOwner, isName, same⟩ := begins
  have member : '/' ∈ t := by
    have somewhere : '/' ∈ t ++ u := by simp [same]
    simpa [absent] using somewhere
  obtain ⟨first, later, rfl, fresh⟩ := List.eq_append_cons_of_mem member
  have separated : first ++ '/' :: (later ++ u) = owner ++ '/' :: (name ++ rest) := by
    simpa using same
  obtain ⟨rfl, named⟩ := Text.append_cons_inj fresh isOwner.slash_not_mem separated
  cases later with
  | nil => simp at ended
  | cons c later =>
    obtain ⟨d, name, rfl⟩ := List.exists_cons_of_ne_nil isName.nonempty
    obtain rfl : c = d := (List.cons.inj named).1
    refine ⟨first, [c], later, isOwner, ⟨List.cons_ne_nil c [], ?_⟩, by simp⟩
    intro d member
    obtain rfl := List.mem_singleton.mp member
    exact isName.chars d List.mem_cons_self

theorem MentionsPage.of_append (mentions : MentionsPage (t ++ u)) (ended : t.getLast? ≠ some '/')
    (absent : '/' ∉ u) : MentionsPage t := by
  obtain ⟨before, rest, same, begins⟩ := mentions
  rcases List.append_eq_append_iff.mp same with ⟨between, -, rfl⟩ | ⟨between, rfl, behind⟩
  · simp at absent
  · cases between with
    | nil =>
      rw [List.nil_append] at behind
      simp [← behind] at absent
    | cons c between =>
      obtain ⟨rfl, rfl⟩ := List.cons.inj behind
      refine ⟨before, between, rfl, begins.of_append ?_ absent⟩
      intro last
      simp [List.getLast?_append, List.getLast?_cons, last] at ended

theorem BeginsWithNames.append (begins : BeginsWithNames t) (u : Text) :
    BeginsWithNames (t ++ u) := by
  obtain ⟨owner, name, rest, isOwner, isName, rfl⟩ := begins
  exact ⟨owner, name, rest ++ u, isOwner, isName, by simp⟩

theorem MentionsPage.of_infix (mentions : MentionsPage t) (inside : t <:+: u) : MentionsPage u := by
  obtain ⟨before, rest, rfl, begins⟩ := mentions
  obtain ⟨left, right, rfl⟩ := inside
  exact ⟨left ++ before, rest ++ right, by simp, begins.append right⟩

/-- Two names alone are no page: there is but one slash. -/
theorem not_mentionsPage_names (isOwner : IsName owner) (isName : IsName name) :
    ¬ MentionsPage (owner ++ '/' :: name) := by
  have absent := isName.slash_not_mem
  rw [mentionsPage_slash_iff isOwner.slash_not_mem]
  rintro (⟨-, owner', name', rest, -, -, rfl⟩ | ⟨before, rest, rfl, -⟩)
  · simp at absent
  · simp at absent

/-- The home host has no colon, so it cannot reach over one. -/
theorem mentionsPage_colon_iff (absent : '/' ∉ t) :
    MentionsPage (t ++ ':' :: u) ↔ MentionsPage u := by
  constructor
  · intro mentions
    by_cases member : '/' ∈ u
    · obtain ⟨first, later, rfl, fresh⟩ := List.eq_append_cons_of_mem member
      have before : '/' ∉ t ++ ':' :: first := by simp [absent, fresh]
      have written : t ++ ':' :: (first ++ '/' :: later) = (t ++ ':' :: first) ++ '/' :: later := by
        simp
      rw [written, mentionsPage_slash_iff before] at mentions
      rw [mentionsPage_slash_iff fresh]
      rcases mentions with ⟨hosted, begins⟩ | later
      · exact Or.inl ⟨Text.suffix_of_suffix_append hosted (by decide), begins⟩
      · exact Or.inr later
    · obtain ⟨before, rest, same, -⟩ := mentions
      have somewhere : '/' ∈ t ++ ':' :: u := by simp [same]
      simp [absent, member] at somewhere
  · intro mentions
    exact mentions.of_infix ⟨t ++ [':'], [], by simp⟩

/-- In a URL a page begins with the host or in the path. -/
theorem mentionsPage_url_iff (known : scheme ∈ webSchemes) (absent : '/' ∉ t) :
    MentionsPage (scheme ++ t ++ '/' :: u) ↔
      (homeHost <:+ t ∧ BeginsWithNames u) ∨ MentionsPage u := by
  have opened : ∀ name : Text, '/' ∉ name → ¬ homeHost <:+ name →
      (MentionsPage (name ++ ['/', '/'] ++ t ++ '/' :: u) ↔ MentionsPage (t ++ '/' :: u)) := by
    intro name fresh other
    have written : name ++ ['/', '/'] ++ t ++ '/' :: u =
        name ++ '/' :: ([] ++ '/' :: (t ++ '/' :: u)) := by
      simp
    have nowhere : ¬ homeHost <:+ ([] : Text) := by decide
    rw [written, mentionsPage_slash_iff fresh, mentionsPage_slash_iff (by simp)]
    simp only [other, nowhere, false_and, false_or]
  rw [← mentionsPage_slash_iff absent]
  rcases mem_webSchemes.mp known with rfl | rfl
  · exact opened "https:".toList (by decide) (by decide)
  · exact opened "http:".toList (by decide) (by decide)

end CodeWiki.Reference
