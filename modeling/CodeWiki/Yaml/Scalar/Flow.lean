import CodeWiki.Number.Radix
import CodeWiki.Yaml.Source

/-!
Scalars that may go on over several lines: plain ones and those in quotation marks. The white space
between two lines is folded: a single line break becomes a space, of several breaks all but the
first remain.
-/
namespace CodeWiki.Yaml

/-- White space that has been met inside a scalar. -/
structure Gap where
  /-- Blanks of the line. -/
  blanks : Text := []
  /-- Whether the line has ended; blanks are dropped from then on. -/
  folded : Bool := false
  /-- The break that ended the line; there is none if it was escaped. -/
  first : Text := []
  /-- Further breaks. -/
  more : Text := []
deriving DecidableEq, Repr

namespace Gap

/-- The gap with one more blank or line break. -/
def add (gap : Gap) (p : Placed) : Gap :=
  if p.isBlank then
    if gap.folded then gap else { gap with blanks := gap.blanks ++ [p.char] }
  else if gap.folded then { gap with more := gap.more ++ [p.char] }
  else { folded := true, first := [p.char] }

def escaped : Gap := { folded := true }

def isEmpty (gap : Gap) : Bool := !gap.folded && gap.blanks.isEmpty

def text (gap : Gap) : Text :=
  if !gap.folded then gap.blanks
  else if gap.first = ['\n'] then (if gap.more.isEmpty then [' '] else gap.more)
  else gap.first ++ gap.more

end Gap

namespace Plain

/-- Characters that have a meaning of their own between brackets. -/
def isFlowIndicator (c : Char) : Bool :=
  c = ',' || c = '[' || c = ']' || c = '\x7b' || c = '\x7d'

/-- Whether a plain scalar ends at a character: at a colon in front of a gap and, between brackets,
at an indicator. -/
def endsAt (inFlow : Bool) (p : Placed) (rest : Source) : Bool :=
  (p.char = ':' && rest.startsGap) || (inFlow && isFlowIndicator p.char)

/-- Whether a colon stands right in front of an indicator, which is an error between brackets. -/
def strayColon (inFlow : Bool) (p : Placed) (rest : Source) : Bool :=
  inFlow && p.char = ':' && match rest with
    | next :: _ => isFlowIndicator next.char || next.char = '?'
    | [] => false

/-- Whether a plain scalar ends behind a gap: where the indentation ends, at a document marker and
at a comment. -/
def endsBehindGap (inFlow : Bool) (minColumn : Nat) (p : Placed) (rest : Source) : Bool :=
  (!inFlow && p.column < minColumn) || Source.startsDocumentMarker (p :: rest) || p.char = '#'

/-- The plain scalar at hand, the gap behind it, and what follows the gap. -/
def readFrom (inFlow : Bool) (minColumn : Nat) : Gap → Source → Option (Text × Gap × Source)
  | gap, [] => some ([], gap, [])
  | gap, p :: rest =>
    if p.isGap then
      if gap.folded && p.char = '\t' && p.column < minColumn then none
      else readFrom inFlow minColumn (gap.add p) rest
    else if !gap.isEmpty && endsBehindGap inFlow minColumn p rest then some ([], gap, p :: rest)
    else if strayColon inFlow p rest then none
    else if endsAt inFlow p rest then some ([], gap, p :: rest)
    else do
      let (t, last, rest) ← readFrom inFlow minColumn {} rest
      some (gap.text ++ p.char :: t, last, rest)

end Plain

namespace Quoted

/-- What a letter behind a backslash stands for. -/
def escapes : List (Char × Char) := [
  ('0', '\x00'), ('a', '\x07'), ('b', '\x08'), ('t', '\t'), ('\t', '\t'), ('n', '\n'),
  ('v', '\x0b'), ('f', '\x0c'), ('r', '\r'), ('e', '\x1b'), (' ', ' '), ('"', '"'), ('/', '/'),
  ('\\', '\\'), ('N', '\x85'), ('_', '\u00a0'), ('L', '\u2028'), ('P', '\u2029')]

/-- The number of digits behind a letter that introduces a code point. -/
def codeLength? (c : Char) : Option Nat :=
  if c = 'x' then some 2 else if c = 'u' then some 4 else if c = 'U' then some 8 else none

def charOf? (n : Nat) : Option Char := if n.isValidChar then some (Char.ofNat n) else none

/-- The character of the escape sequence behind a backslash, and the length of that sequence. -/
def escape? : Source → Option (Char × Nat)
  | [] => none
  | p :: rest =>
    match codeLength? p.char with
    | some length => do
      let digits := Source.text (rest.take length)
      if digits.length < length then none
      else some (← charOf? (← Radix.natural? 16 digits), length + 1)
    | none => (escapes.lookup p.char).map (·, 1)

/-- The rest of a scalar up to its closing mark, and what follows. The number is how many characters
have been dealt with already. In double marks a backslash escapes; in single marks only the mark
itself can be written, as two marks. -/
def readFrom (mark : Char) : Nat → Gap → Source → Option (Text × Source)
  | _, _, [] => none
  | skip + 1, gap, _ :: rest => readFrom mark skip gap rest
  | 0, gap, p :: rest =>
    if p.isGap then readFrom mark 0 (gap.add p) rest
    else if Source.startsDocumentMarker (p :: rest) then none
    else if p.char = mark then
      if mark = '\'' && Source.starts mark rest then do
        let (t, rest) ← readFrom mark 1 {} rest
        some (gap.text ++ mark :: t, rest)
      else some (gap.text, rest)
    else if mark = '"' && p.char = '\\' then
      if (rest.head?.map Placed.isBreak).getD false then do
        let (t, rest) ← readFrom mark 1 Gap.escaped rest
        some (gap.text ++ t, rest)
      else do
        let (c, length) ← escape? rest
        let (t, rest) ← readFrom mark length {} rest
        some (gap.text ++ c :: t, rest)
    else do
      let (t, rest) ← readFrom mark 0 {} rest
      some (gap.text ++ p.char :: t, rest)

end Quoted
end CodeWiki.Yaml
