import CodeWiki.Unicode.Alphabetic
import CodeWiki.Unicode.Mark
import CodeWiki.Unicode.Number
import CodeWiki.Unicode.Cased
import CodeWiki.Unicode.GraphemeExtend
import CodeWiki.Unicode.Unprintable
import CodeWiki.Unicode.CaseMapping

/-!
Classes of characters and the case forms of a single character, read off the property tables. Every
table lists its runs in increasing order, so a search may end at the first run that lies beyond the
code point sought.
-/
namespace CodeWiki.Unicode

/-- Whether `n` lies in one of the increasing `runs`. -/
def inRuns : List (Nat × Nat) → Nat → Bool
  | [], _ => false
  | (first, last) :: rest, n => if n < first then false else n ≤ last || inRuns rest n

/-- The property White_Space. -/
def isWhiteSpace (c : Char) : Bool :=
  inRuns [(0x09, 0x0D), (0x20, 0x20), (0x85, 0x85), (0xA0, 0xA0), (0x1680, 0x1680),
    (0x2000, 0x200A), (0x2028, 0x2029), (0x202F, 0x202F), (0x205F, 0x205F), (0x3000, 0x3000)]
    c.toNat

/-- Letters, marks, decimal digits, connector punctuation and the two joiners: the characters that
make up words. -/
def isWord (c : Char) : Bool :=
  inRuns alphabetic c.toNat || inRuns mark c.toNat || inRuns decimalNumber c.toNat ||
    inRuns [(0x5F, 0x5F), (0x200C, 0x200D), (0x203F, 0x2040), (0x2054, 0x2054),
      (0xFE33, 0xFE34), (0xFE4D, 0xFE4F), (0xFF3F, 0xFF3F)] c.toNat

/-- Letters and numbers of every kind. -/
def isAlphanumeric (c : Char) : Bool :=
  inRuns alphabetic c.toNat || inRuns decimalNumber c.toNat || inRuns otherNumber c.toNat

/-- The property Cased. -/
def isCased (c : Char) : Bool := inRuns cased c.toNat

/-- The property Case_Ignorable. -/
def isCaseIgnorable (c : Char) : Bool := inRuns caseIgnorable c.toNat

/-- The property Grapheme_Extend. -/
def extendsGrapheme (c : Char) : Bool := inRuns graphemeExtend c.toNat

/-- Whether a character has a visible form; the space counts as visible. -/
def isPrintable (c : Char) : Bool := !inRuns unprintable c.toNat

/-- The image of `n` under the increasing `runs`; a code point of no run maps to itself. -/
def mapRuns : List CaseRun → Nat → Nat
  | [], n => n
  | run :: rest, n =>
    if n < run.first then n
    else if n ≤ run.last then
      if (n - run.first) % run.step = 0 then ((n : Int) + run.offset).toNat else n
    else mapRuns rest n

/-- The case form of `c` for a table of single characters and a table of expansions. -/
def caseForm (runs : List CaseRun) (expansions : List (Nat × List Nat)) (c : Char) : List Char :=
  match expansions.lookup c.toNat with
  | some codes => codes.map Char.ofNat
  | none => [Char.ofNat (mapRuns runs c.toNat)]

/-- The lower-case form of a character by itself. -/
def lower (c : Char) : List Char := caseForm lowerRuns lowerExpansions c

/-- The upper-case form of a character by itself. -/
def upper (c : Char) : List Char := caseForm upperRuns upperExpansions c

end CodeWiki.Unicode
