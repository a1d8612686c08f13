import CodeWiki.Text.Basic

/-!
Paragraphs: the parts of a text between its blank lines.
-/
namespace CodeWiki.Paragraph

/-- The white space that a blank line may hold. -/
def isLineBlank (c : Char) : Bool := c = ' ' || c = '\t' || c = '\r'

/-- What keeps paragraphs apart: a line end, blanks, and the next line end. -/
def IsBreak (t : Text) : Prop :=
  ∃ blanks, t = '\n' :: blanks ++ ['\n'] ∧ ∀ c ∈ blanks, isLineBlank c

/-- The length of the break that `t` begins with: a line end, blanks, and the next line end. -/
def breakLength? : Text → Option Nat
  | '\n' :: t =>
    match t.dropWhile isLineBlank with
    | '\n' :: _ => some ((t.takeWhile isLineBlank).length + 2)
    | _ => none
  | _ => none

/-- The parts of a text between breaks, found from the left without overlap. The number is how many
characters of the last break are still to be skipped. -/
def partsFrom : Nat → Text → Text × List Text
  | _, [] => ([], [])
  | left + 1, _ :: t => partsFrom left t
  | 0, c :: t =>
    match breakLength? (c :: t) with
    | some (left + 1) =>
      let (part, later) := partsFrom left t
      ([], part :: later)
    | _ =>
      let (part, later) := partsFrom 0 t
      (c :: part, later)

/-- The paragraphs of a text, trimmed, without the empty ones. -/
def ofText (t : Text) : List Text :=
  let (first, later) := partsFrom 0 t
  ((first :: later).map Text.trim).filter (!·.isEmpty)

end CodeWiki.Paragraph
