import CodeWiki.Text.Quoted

/-!
References to repositories. A reference is what a user types: an `owner/repo` slug, the address of a
web page or of a clone, or the short form for a secure shell. All of them come down to one canonical
clone URL, from which the short name of the repository is read back.
-/
namespace CodeWiki.Reference

/-- The host of the repositories that slugs refer to. -/
def homeHost : Text := "github.com"

/-- Ends a URL in exactly one more `.git` than its stem has. -/
def withGitSuffix (url : Text) : Text := (Text.before? ".git" url).getD url ++ ".git"

/-- Characters of owner and repository names. -/
def isNameChar (c : Char) : Bool := Unicode.isWord c || c = '-' || c = '.'

/-- `/owner/repo` at the start of `t`, with names as long as possible. -/
def ownerAndName? (t : Text) : Option Text := do
  let t ← Text.after? ['/'] t
  let owner := t.takeWhile isNameChar
  let rest ← Text.after? ['/'] (t.dropWhile isNameChar)
  let name := rest.takeWhile isNameChar
  if owner.isEmpty || name.isEmpty then none else some (['/'] ++ owner ++ ['/'] ++ name)

/-- The page of a repository at the start of `t`, behind the given scheme. -/
def pageBehind? (scheme t : Text) : Option Text := do
  let t ← Text.after? scheme t
  let t ← Text.after? homeHost t
  let path ← ownerAndName? t
  some (scheme ++ homeHost ++ path)

/-- The page of a repository at the start of `t`, with its scheme if it has one. -/
def page? (t : Text) : Option Text :=
  (pageBehind? "https://" t).or ((pageBehind? "http://" t).or (pageBehind? [] t))

/-- The leftmost page of a repository in `t`. -/
def firstPage? : Text → Option Text
  | [] => none
  | c :: t => (page? (c :: t)).or (firstPage? t)

/-- Host and path of the secure-shell form `git@host:path`. -/
def secureShell? (t : Text) : Option (Text × Text) :=
  (Text.after? "git@" t).bind (Text.cut? [':'])

/-- Whether `t` begins with the scheme of a web address. -/
def hasWebScheme (t : Text) : Bool :=
  "https://".toList.isPrefixOf t || "http://".toList.isPrefixOf t

/-- A reference without surrounding white space and trailing slashes. -/
def core (reference : Text) : Text := Text.dropEndWhile (· = '/') (Text.trim reference)

/-- The canonical clone URL of a reference; none for a reference without content. A page of the home
host counts wherever it stands in the reference. -/
def cloneUrl? (reference : Text) : Option Text :=
  let core := core reference
  if core.isEmpty then none
  else match firstPage? core with
    | some page =>
      some (withGitSuffix (if "http".toList.isPrefixOf page then page else "https://" ++ page))
    | none =>
      match secureShell? core with
      | some (host, path) =>
        some (withGitSuffix ("https://" ++ host ++ ['/'] ++ Text.trimWhile (· = '/') path))
      | none =>
        if hasWebScheme core then some (withGitSuffix core)
        else some (withGitSuffix ("https://" ++ homeHost ++ ['/'] ++ core))

/-- What follows the home host in a text, after a colon if there is such a place, else after a
slash. -/
def behindHost? (t : Text) : Option Text :=
  match Text.cut? (homeHost ++ [':']) t with
  | some (_, rest) => some rest
  | none => (Text.cut? (homeHost ++ ['/']) t).map Prod.snd

/-- The short name `owner/repo` of a repository of the home host; any other text is its own short
name, trimmed. -/
def slug (reference : Text) : Text :=
  let reference := Text.trim reference
  match behindHost? reference with
  | none => reference
  | some rest =>
    let path := Text.trimWhile (· = '/') rest
    match ((Text.before? ".git" path).getD path).splitOn '/' with
    | owner :: repo :: _ => owner ++ ['/'] ++ (Text.before? ".git" repo).getD repo
    | _ => reference

end CodeWiki.Reference
