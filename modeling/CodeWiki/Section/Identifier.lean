import CodeWiki.Section.Basic
import CodeWiki.Text.LetterCase

/-!
Identifiers of sections: made from titles, and made different from one another.
-/
namespace CodeWiki.Identifier

open Unicode

/-- The identifier of the text behind what has been written. The flags tell whether something has
been written, and whether characters have been passed over since. -/
def slugFrom : Bool → Bool → Text → Text
  | _, _, [] => []
  | written, gap, c :: t =>
    if isAlphanumeric c then
      (if written && gap then ['-'] else []) ++ lower c ++ slugFrom true false t
    else slugFrom written true t

/-- Lower case, with each run of characters that are neither letters nor numbers replaced by one
hyphen, except at the ends. -/
def slugify (t : Text) : Text := slugFrom false false t

def placeholder : Text := "section"

/-- The `n`-th identifier that is made from `base`. -/
def numbered (base : Text) (n : Nat) : Text := base ++ ['-'] ++ Text.ofNat n

/-- The first of the numbered identifiers from `n` on that is not used; among one more than there
are used ones, one is free. -/
def firstFree (used : List Text) (base : Text) (n : Nat) : Nat :=
  ((List.range (used.length + 1)).map (n + ·)).find? (fun k => !used.contains (numbered base k))
    |>.getD n

/-- The identifier that a section gets when those in `used` are taken. -/
def unused (used : List Text) (id : Text) : Text :=
  let id := if id.isEmpty then placeholder else id
  if used.contains id then numbered id (firstFree used id 2) else id

mutual

/-- The section with its identifiers made different from those in `used` and from one another, and
all identifiers used then. A section is named before its subsections. -/
def distinct (used : List Text) : WikiSection → WikiSection × List Text
  | .mk id title content none =>
    let id := unused used id
    (.mk id title content none, id :: used)
  | .mk id title content (some children) =>
    let id := unused used id
    let (children, used) := distinctAll (id :: used) children
    (.mk id title content (some children), used)

def distinctAll (used : List Text) : List WikiSection → List WikiSection × List Text
  | [] => ([], used)
  | s :: rest =>
    let (s, used) := distinct used s
    let (rest, used) := distinctAll used rest
    (s :: rest, used)

end

end CodeWiki.Identifier
