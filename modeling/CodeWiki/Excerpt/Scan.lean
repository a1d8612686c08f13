import CodeWiki.Text.Basic

/-!
Comments as a reader meets them who goes through source text once, from left to right: whatever
opens first hides the text up to its end, and what stands in a comment opens nothing.
-/
namespace CodeWiki

/-- What comments begin or end with: some characters of one line. -/
structure Delimiter where
  text : Text
  occupied : text ≠ [] := by decide
  single : '\n' ∉ text := by decide
deriving DecidableEq, Repr

/-- A kind of comment: up to the end of the line, or up to the next closing delimiter. -/
inductive CommentKind where
  | line (opening : Delimiter)
  | block (opening closing : Delimiter)
deriving DecidableEq, Repr

/-- A comment in a text, and the text behind it. -/
structure Comment where
  kind : CommentKind
  text : Text
  rest : Text
deriving DecidableEq, Repr

namespace CommentKind

def opening : CommentKind → Delimiter
  | line opening => opening
  | block opening _ => opening

def hashLine : CommentKind := line { text := "#" }

def slashLine : CommentKind := line { text := "//" }

def slashBlock : CommentKind := block { text := "/*" } { text := "*/" }

def singleQuoted : CommentKind := block { text := "'''" } { text := "'''" }

def doubleQuoted : CommentKind := block { text := "\"\"\"" } { text := "\"\"\"" }

/-- The comment that a text begins with. A block that is never closed is no comment. -/
def begins? (kind : CommentKind) (t : Text) : Option Comment :=
  (Text.after? kind.opening.text t).bind fun inside =>
    match kind with
    | line opening =>
      some ⟨kind, opening.text ++ inside.takeWhile (· ≠ '\n'), inside.dropWhile (· ≠ '\n')⟩
    | block opening closing => (Text.cut? closing.text inside).map fun (body, rest) =>
      ⟨kind, opening.text ++ body ++ closing.text, rest⟩

end CommentKind

namespace Comment

/-- The comment that a text begins with, of the first kind that opens there. -/
def first? (kinds : List CommentKind) (t : Text) : Option Comment := kinds.findSome? (·.begins? t)

/-- The number of characters that are read at once: a comment, or a single character outside of
comments. -/
def stride (kinds : List CommentKind) (t : Text) : Nat :=
  match first? kinds t with
  | some comment => comment.text.length
  | none => 1

/-- The places of a text outside of comments and at the beginning of comments, each given by what is
still to be read. The number is how many characters of the comment at hand are still to be
skipped. -/
def placesFrom (kinds : List CommentKind) : Nat → Text → List Text
  | _, [] => []
  | left + 1, _ :: t => placesFrom kinds left t
  | 0, c :: t => (c :: t) :: placesFrom kinds (stride kinds (c :: t) - 1) t

def places (kinds : List CommentKind) (t : Text) : List Text := placesFrom kinds 0 t

/-- The comments of a text, from left to right. -/
def all (kinds : List CommentKind) (t : Text) : List Comment :=
  (places kinds t).filterMap (first? kinds)

/-- A text without its comments. -/
def scan (kinds : List CommentKind) (t : Text) : Text :=
  (places kinds t).filterMap fun place => if (first? kinds place).isSome then none else place.head?

def slashKinds : List CommentKind := [.slashLine, .slashBlock]

def quoteKinds : List CommentKind := [.hashLine, .singleQuoted, .doubleQuoted]

def withoutBlankLines (t : Text) : Text :=
  Text.join ['\n'] ((Text.lines t).filter (!Text.isBlank ·))

/-- Whether an opening begins in the last line of a text when `rest` stands behind it. -/
def opensInLastLine (opening rest : Text) : Text → Bool
  | [] => false
  | c :: t =>
    (!(c :: t).contains '\n' && opening.isPrefixOf (c :: t ++ rest)) ||
      opensInLastLine opening rest t

/-- Whether a comment is mistaken when those of an earlier kind have been removed. A line comment
that begins in its last line has taken its end. Of blocks it may lose any as long as what is left of
it is the comment that then begins there. -/
def isSpoiltBy (earlier : CommentKind) (comment : Comment) : Bool :=
  match earlier with
  | .line opening => opensInLastLine opening.text comment.rest comment.text
  | .block _ _ => comment.kind.begins? (scan [earlier] (comment.text ++ comment.rest)) ≠
      some ⟨comment.kind, scan [earlier] comment.text, scan [earlier] comment.rest⟩

/-- Whether no comment is mistaken if the kinds are looked for one after another, each in what the
ones before left. -/
def isUnspoilt : List CommentKind → Text → Bool
  | [], _ => true
  | earlier :: later, t =>
    ((all (earlier :: later) t).all fun comment => comment.kind = earlier ||
      !isSpoiltBy earlier comment) && isUnspoilt later (scan [earlier] t)

end Comment
end CodeWiki
