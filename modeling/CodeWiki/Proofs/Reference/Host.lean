import CodeWiki.Proofs.Generation.Key
import CodeWiki.Proofs.Reference.CloneUrl

/-! References to repositories on other hosts. Such a reference is resolved to the repository that
it names unless a page of the home host can be read in it: behind a host that only ends like the
home host, or in the path. -/
namespace CodeWiki.Reference

open Generation (Uses uses_of_cloneUrl?)

/-- How a reference names a host and a path on it. -/
structure Form where
  opening : Text
  /-- What ends the host. -/
  separator : Char
  /-- The scheme under which the repository is cloned. -/
  scheme : Text

namespace Form

def http : Form := ⟨"http://", '/', "http://"⟩

def https : Form := ⟨"https://", '/', "https://"⟩

def secureShell : Form := ⟨"git@", ':', "https://"⟩

def all : List Form := [http, https, secureShell]

/-- The reference to the repository on the host at the path. -/
def write (form : Form) (host path : Text) : Text := form.opening ++ host ++ form.separator :: path

/-- The host has an end. A slash ends it in every form. -/
def Delimits (form : Form) (host : Text) : Prop := '/' ∉ host ∧ form.separator ∉ host

/-- The clone URL of the repository. -/
def url (form : Form) (host path : Text) : Text :=
  form.scheme ++ host ++ '/' :: if ".git".toList.isSuffixOf path then path else path ++ ".git"

/-- A page of the home host can be read in the reference: across the slash behind a host that ends
like the home host, or in the path. -/
def LeadsHome (form : Form) (host path : Text) : Prop :=
  (form.separator = '/' ∧ homeHost <:+ host ∧ BeginsWithNames path) ∨ MentionsPage path

end Form

variable {host path : Text} {form : Form}

namespace Form

/-- In the address of a page the clone URL has the same scheme; only the short form has another. -/
theorem web_or_secureShell (known : form ∈ all) :
    (∃ scheme ∈ webSchemes, form = ⟨scheme, '/', scheme⟩) ∨ form = secureShell := by
  simp only [all, List.mem_cons, List.not_mem_nil, or_false] at known
  rcases known with rfl | rfl | rfl
  · exact Or.inl ⟨"http://", http_mem, rfl⟩
  · exact Or.inl ⟨"https://", https_mem, rfl⟩
  · exact Or.inr rfl

theorem scheme_mem (known : form ∈ all) : form.scheme ∈ webSchemes := by
  rcases web_or_secureShell known with ⟨scheme, member, rfl⟩ | rfl
  · exact member
  · exact https_mem

theorem url_eq (form : Form) (host path : Text) :
    form.url host path = form.scheme ++ host ++ '/' :: withGitSuffix path := by
  rw [url]
  split
  · rename_i suffixed
    rw [withGitSuffix_of_suffix (List.isSuffixOf_iff_suffix.mp suffixed)]
  · rename_i bare
    rw [List.isSuffixOf_iff_suffix] at bare
    rw [withGitSuffix_of_not_suffix bare]

theorem core_write (known : form ∈ all) (isPath : IsPath path) (host : Text) :
    core (form.write host path) = form.write host path := by
  have solid : ∃ c, form.opening.head? = some c ∧ Unicode.isWhiteSpace c = false := by
    rcases web_or_secureShell known with ⟨scheme, member, rfl⟩ | rfl
    · rcases mem_webSchemes.mp member with rfl | rfl <;> exact ⟨'h', rfl, by decide⟩
    · exact ⟨'g', rfl, by decide⟩
  obtain ⟨c, first, solid⟩ := solid
  have opened : (form.opening ++ host ++ [form.separator]).head? = some c := by
    simp [List.head?_append, first]
  have whole := isPath.core_append opened solid
  simpa only [write, List.append_assoc, List.cons_append, List.nil_append] using whole

theorem mentionsPage_write_iff (known : form ∈ all) (delimits : form.Delimits host) (path : Text) :
    MentionsPage (form.write host path) ↔ form.LeadsHome host path := by
  rcases web_or_secureShell known with ⟨scheme, member, rfl⟩ | rfl
  · simp only [write, LeadsHome, true_and]
    exact mentionsPage_url_iff member delimits.1
  · have absent : '/' ∉ "git@" ++ host := by simp [delimits.1]
    have short : MentionsPage (secureShell.write host path) ↔ MentionsPage path :=
      mentionsPage_colon_iff absent
    have other : secureShell.separator ≠ '/' := by decide
    simp only [short, LeadsHome, other, false_and, false_or]

theorem cloneUrl?_write (known : form ∈ all) (isPath : IsPath path) (delimits : form.Delimits host)
    (stays : ¬ form.LeadsHome host path) :
    cloneUrl? (form.write host path) = some (form.url host path) := by
  have whole := core_write known isPath host
  have unmentioned : ¬ MentionsPage (core (form.write host path)) := by
    rw [whole, mentionsPage_write_iff known delimits]
    exact stays
  rw [url_eq]
  rcases web_or_secureShell known with ⟨scheme, member, rfl⟩ | rfl
  · have web : hasWebScheme (core (write ⟨scheme, '/', scheme⟩ host path)) = true := by
      rw [whole, hasWebScheme_iff]
      exact ⟨scheme, member, host ++ '/' :: path, by simp [write]⟩
    rw [cloneUrl?_of_web unmentioned web, whole]
    exact congrArg some (withGitSuffix_append (scheme ++ host) path)
  · have short : secureShell? (core (secureShell.write host path)) = some (host, path) := by
      rw [whole]
      exact secureShell?_of_host delimits.2 path
    rw [cloneUrl?_of_secureShell unmentioned short, isPath.trimWhile_slash]
    rfl

theorem not_isHomeUrl (known : form ∈ all) (isPath : IsPath path) (delimits : form.Delimits host)
    (foreign : host ≠ homeHost) : ¬ IsHomeUrl (form.url host path) := by
  rw [url_eq, isHomeUrl_iff (scheme_mem known) delimits.1 isPath.last]
  exact fun home => foreign home.1

end Form

/-- The repository on its own host is the one that is cloned and looked up, unless the reference
leads to a page of the home host. -/
theorem uses_own_host_iff (known : form ∈ Form.all) (isPath : IsPath path)
    (delimits : form.Delimits host) (foreign : host ≠ homeHost) :
    (Uses (form.write host path) (form.url host path) ↔ ¬ form.LeadsHome host path) ∧
    (form.LeadsHome host path → ∃ home, IsHomeUrl home ∧ Uses (form.write host path) home) := by
  have replaced : form.LeadsHome host path →
      ∃ home, IsHomeUrl home ∧ Uses (form.write host path) home := by
    intro leads
    have mentions : MentionsPage (core (form.write host path)) := by
      rwa [Form.core_write known isPath, Form.mentionsPage_write_iff known delimits]
    obtain ⟨home, found, isHome⟩ := exists_homeUrl mentions
    exact ⟨home, isHome, uses_of_cloneUrl? found⟩
  refine ⟨⟨?_, ?_⟩, replaced⟩
  · intro own leads
    obtain ⟨home, isHome, uses⟩ := replaced leads
    obtain rfl := own.unique uses
    exact Form.not_isHomeUrl known isPath delimits foreign isHome
  · intro stays
    exact uses_of_cloneUrl? (Form.cloneUrl?_write known isPath delimits stays)

/-- The home host with a single name behind it is no page. -/
theorem single_name_behind_home_host :
    Form.https ∈ Form.all ∧ IsPath "mirrors/github.com/docs" ∧ Form.https.Delimits "gitlab.com" ∧
      "gitlab.com".toList ≠ homeHost ∧
      Uses "https://gitlab.com/mirrors/github.com/docs"
        "https://gitlab.com/mirrors/github.com/docs.git" := by
  have known : Form.https ∈ Form.all := by simp [Form.all]
  have solid : "mirrors/github.com/docs".toList.all (!Unicode.isWhiteSpace ·) = true := by decide
  have isPath : IsPath "mirrors/github.com/docs" := by
    refine ⟨by decide, fun c member => ?_, by decide, by decide⟩
    simpa using List.all_eq_true.mp solid c member
  have delimits : Form.https.Delimits "gitlab.com" := ⟨by decide, by decide⟩
  have foreign : "gitlab.com".toList ≠ homeHost := by decide
  have stays : ¬ Form.https.LeadsHome "gitlab.com" "mirrors/github.com/docs" := by
    rw [← Form.mentionsPage_write_iff known delimits, ← firstPage?_eq_none_iff]
    decide
  have own := (uses_own_host_iff known isPath delimits foreign).1.mpr stays
  have written : Form.https.write "gitlab.com" "mirrors/github.com/docs" =
      "https://gitlab.com/mirrors/github.com/docs" := by decide
  have cloned : Form.https.url "gitlab.com" "mirrors/github.com/docs" =
      "https://gitlab.com/mirrors/github.com/docs.git" := by decide
  rw [written, cloned] at own
  exact ⟨known, isPath, delimits, foreign, own⟩

/-- Hosts that are neither the home host nor below it are left for it: one that only ends like it,
and one with its name and two more in the path. -/
theorem other_host_left_for_home_host :
    (∀ host ∈ ["notgithub.com".toList, "mirror.org"],
      host ≠ homeHost ∧ ¬ '.' :: homeHost <:+ host) ∧
      cloneUrl? "https://notgithub.com/owner/repo" = some "https://github.com/owner/repo.git" ∧
      cloneUrl? "https://mirror.org/github.com/a/b" = some "https://github.com/a/b.git" ∧
      cloneUrl? "git@mirror.org:github.com/a/b" = some "https://github.com/a/b.git" := by
  refine ⟨by decide, ?_, ?_, ?_⟩ <;> decide

end CodeWiki.Reference
