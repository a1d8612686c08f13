import CodeWiki.Number.Shortest

/-!
How the shortest decimal of a floating-point value is laid out as text.
-/
namespace CodeWiki

structure NumberStyle where
  /-- The exponents of the first digit for which a number is written without an exponent. -/
  positional : Int → Bool
  /-- Whether a whole number is followed by `.0`. -/
  pointAlways : Bool
  nan : Text
  /-- The texts of the positive and of the negative infinity. -/
  infinity : Text
  minusInfinity : Text

namespace NumberStyle

/-- Digits with the decimal point behind the first `places` of them; zeros fill what is missing on
either side. -/
def withPoint (style : NumberStyle) (digits : Text) (places : Int) : Text :=
  if places ≤ 0 then
    "0." ++ List.replicate (-places).toNat '0' ++ digits
  else if digits.length ≤ places.toNat then
    digits ++ List.replicate (places.toNat - digits.length) '0' ++
      (if style.pointAlways then ".0".toList else [])
  else digits.take places.toNat ++ ['.'] ++ digits.drop places.toNat

/-- Digits with the point behind the first and an exponent with its sign. -/
def withExponent (digits : Text) (exponent : Int) : Text :=
  let mantissa :=
    match digits with
    | c :: d :: rest => c :: '.' :: d :: rest
    | digits => digits
  mantissa ++ ['e', if exponent < 0 then '-' else '+'] ++ Text.ofNat exponent.natAbs

def write (style : NumberStyle) (format : FloatFormat) : Floating → Text
  | .nan => style.nan
  | .infinite negative => if negative then style.minusInfinity else style.infinity
  | .finite negative mantissa exponent =>
    let sign := if negative then ['-'] else []
    if mantissa = 0 then sign ++ style.withPoint ['0'] 1
    else
      let (n, k) := format.shortest mantissa exponent
      let all := Text.ofNat n
      let digits := Text.dropEndWhile (· = '0') all
      let first : Int := all.length + k - 1
      sign ++ (if style.positional first then style.withPoint digits (first + 1)
        else withExponent digits first)

/-- The plain style: never an exponent, a point only before a fraction. -/
def plain : NumberStyle where
  positional _ := true
  pointAlways := false
  nan := "NaN"
  infinity := "inf"
  minusInfinity := "-inf"

end NumberStyle
end CodeWiki
