import CodeWiki.Text.LetterCase

/-!
The busiest lines of a file. A line scores for tokens of control flow and assignment, for grouping
symbols and for the number of its different words.
-/
namespace CodeWiki.Density

/-- Parts of a line that show control flow, waiting or assignment. -/
def logicTokens : List Text :=
  ["if ", "for ", "while ", "return ", "await ", "async ", "= "].map String.toList

def groupingSymbols : List Char := ['\x7b', '(', '[', ':']

/-- Words that say nothing about the logic of a line. -/
def stopWords : List Text :=
  ["import", "from", "export", "require", "const", "let", "var", "self", "this"].map String.toList

/-- The different words of a line that are not stop words, in lower case. -/
def contentWords (line : Text) : List Text :=
  ((Text.words (Text.toLower line)).filter (!stopWords.contains ·)).eraseDups

/-- The score of a line; a blank line and a line that begins like a comment have none. -/
def score (line : Text) : Option Nat :=
  match Text.trim line with
  | [] => none
  | c :: rest =>
    if c = '#' || c = '/' || c = '*' then none
    else
      let line := c :: rest
      let logic := if logicTokens.any (Text.hasPart · line) then 5 else 0
      let grouping := if line.any groupingSymbols.contains then 2 else 0
      some (logic + grouping + (contentWords line).length)

structure Scored where
  number : Nat
  score : Nat
  line : Text
deriving DecidableEq, Repr

/-- The lines that have a score, in file order. -/
def scored (code : Text) : List Scored :=
  (Text.lines code).zipIdx.filterMap fun (line, number) =>
    (score line).map fun score => { number, score, line }

/-- The best `limit` of the scored lines, in file order. Of lines with equal scores the earlier one
is better. -/
def select (limit : Nat) (lines : List Scored) : List Scored :=
  ((lines.mergeSort fun a b => b.score ≤ a.score).take limit).mergeSort fun a b =>
    a.number ≤ b.number

/-- The busiest `limit` lines of `code`, in file order. -/
def busiest (limit : Nat) (code : Text) : Text :=
  Text.join ['\n'] ((select limit (scored code)).map Scored.line)

end CodeWiki.Density
