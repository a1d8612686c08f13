import CodeWiki.Number.Floating
import CodeWiki.Number.Radix

/-!
The numbers that plain scalars denote.
-/
namespace CodeWiki.Yaml

namespace Whole

def marks : List (Text × Nat) := [("0x", 16), ("0o", 8), ("0b", 2)]

def marked? (t : Text) : Option Nat :=
  marks.findSome? fun (mark, radix) => (Text.after? mark t).bind (Radix.natural? radix)

/-- Whether a decimal numeral begins with a zero that is not all of it. -/
def hasLeadingZero (t : Text) : Bool := 1 < t.length && t.head? = some '0'

/-- The whole number below `2^64` that a scalar denotes, with or without a plus sign. A decimal
numeral with a leading zero is no number. -/
def read? (t : Text) : Option Nat :=
  let t := (Text.after? ['+'] t).getD t
  let decimal := if hasLeadingZero t then none else Radix.natural? 10 t
  ((marked? t).or decimal).filter (· < UInt64.size)

end Whole

namespace Fraction

/-- The words for an infinity, in the three permitted forms. -/
def infinityWords : List Text := [".inf", ".Inf", ".INF"].map String.toList

def nanWords : List Text := [".nan", ".NaN", ".NAN"].map String.toList

/-- The double that a scalar denotes. A numeral beyond the range of doubles denotes none. -/
def read? (t : Text) : Option Floating :=
  if nanWords.contains t then some .nan
  else if infinityWords.contains t || infinityWords.any (t = '+' :: ·) then some (.infinite false)
  else if infinityWords.any (t = '-' :: ·) then some (.infinite true)
  else (Decimal.ofText? t).bind fun x =>
    let value := FloatFormat.double.ofDecimal x
    if value.isFinite then some value else none

end Fraction
end CodeWiki.Yaml
