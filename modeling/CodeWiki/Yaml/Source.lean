import CodeWiki.Text.Basic

/-!
YAML text as a row of characters that know their place. Indentation and the limits of implicit keys
are rules about places, so they are computed once, and all further reading is on lists.
-/
namespace CodeWiki.Yaml

/-- A character at its place: line and column count from zero, the index is the number of characters
before it. A line break of any kind is one character; all but the two separators of Unicode become
`\n`. -/
structure Placed where
  char : Char
  line : Nat
  column : Nat
  index : Nat
deriving DecidableEq, Repr

namespace Placed

def isBreak (p : Placed) : Bool := p.char = '\n' || p.char = '\u2028' || p.char = '\u2029'

/-- Whether the character is a space or a tab. -/
def isBlank (p : Placed) : Bool := p.char = ' ' || p.char = '\t'

def isGap (p : Placed) : Bool := p.isBlank || p.isBreak

end Placed

abbrev Source := List Placed

namespace Source

/-- Whether a character may stand in a document at all. -/
def isAllowed (c : Char) : Bool :=
  let n := c.toNat
  n = 0x09 || n = 0x0A || n = 0x0D || (0x20 ≤ n && n ≤ 0x7E) || n = 0x85 ||
    (0xA0 ≤ n && n ≤ 0xFFFD) || 0x10000 ≤ n

def endsLine (c : Char) : Bool :=
  c = '\n' || c = '\r' || c = '\x85' || c = '\u2028' || c = '\u2029'

/-- What a character that ends a line is taken as. -/
def breakChar (c : Char) : Char := if c = '\u2028' || c = '\u2029' then c else '\n'

/-- Places the characters of a text. A `\n` right behind a `\r` belongs to the same break, which the
flag tells. -/
def place (line column index : Nat) (afterReturn : Bool) : Text → Source
  | [] => []
  | c :: t =>
    if afterReturn && c = '\n' then place line column (index + 1) false t
    else if endsLine c then
      ⟨breakChar c, line, column, index⟩ :: place (line + 1) 0 (index + 1) (c = '\r') t
    else ⟨c, line, column, index⟩ :: place line (column + 1) (index + 1) false t

/-- The characters of a text, if all of them are allowed. -/
def ofText? (t : Text) : Option Source :=
  if t.all isAllowed then some (place 0 0 0 false t) else none

def text (s : Source) : Text := s.map Placed.char

/-- Whether nothing, a blank or a line break comes next. -/
def startsGap : Source → Bool
  | [] => true
  | p :: _ => p.isGap

def starts (c : Char) : Source → Bool
  | [] => false
  | p :: _ => p.char = c

/-- Whether the line consists of three times the character `c`, up to a blank at least. -/
def startsMarker (c : Char) : Source → Bool
  | p :: q :: r :: rest =>
    p.column = 0 && p.char = c && q.char = c && r.char = c && startsGap rest
  | _ => false

/-- Whether a marker comes next that starts or ends a document. -/
def startsDocumentMarker (s : Source) : Bool := startsMarker '-' s || startsMarker '.' s

/-- The rest of the line, and what follows the line. -/
def splitLine (s : Source) : Source × Source :=
  (s.takeWhile (!·.isBreak), (s.dropWhile (!·.isBreak)).drop 1)

end Source
end CodeWiki.Yaml
