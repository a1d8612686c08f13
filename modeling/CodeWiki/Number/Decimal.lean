import CodeWiki.Text.Basic

/-!
Decimal numerals: how they are read, and the integer arithmetic of rounding.
-/
namespace CodeWiki

def digitValue (c : Char) : Nat := c.toNat - '0'.toNat

/-- The number that a row of decimal digits denotes. -/
def digitsValue (digits : Text) : Nat := digits.foldl (fun n c => 10 * n + digitValue c) 0

/-- `n / d` rounded to the nearest integer, a half to the even neighbour. -/
def roundHalfEven (n d : Nat) : Nat :=
  let quotient := n / d
  let twice := 2 * (n % d)
  if twice < d then quotient
  else if d < twice then quotient + 1
  else quotient + quotient % 2

structure Decimal where
  negative : Bool
  digits : Nat
  exponent : Int
deriving DecidableEq, Repr

namespace Decimal

/-- The sign in front of a numeral, if there is one, and what follows it. -/
def takeSign : Text → Bool × Text
  | '+' :: t => (false, t)
  | '-' :: t => (true, t)
  | t => (false, t)

/-- The exponent at the end of a numeral: nothing, or `e` with a sign and at least one digit. -/
def exponent? : Text → Option Int
  | [] => some 0
  | c :: t =>
    let (negative, digits) := takeSign t
    if (c = 'e' || c = 'E') && !digits.isEmpty && digits.all Char.isDigit then
      some (if negative then -(digitsValue digits : Int) else digitsValue digits)
    else none

/-- Reads a numeral: a sign, digits with at most one point among them, and an exponent. The sign,
the point and the exponent may be missing, and so may the digits on one side of the point. -/
def ofText? (t : Text) : Option Decimal :=
  let (negative, t) := takeSign t
  let whole := t.takeWhile Char.isDigit
  let t := t.dropWhile Char.isDigit
  let (fraction, t) :=
    match t with
    | '.' :: t => (t.takeWhile Char.isDigit, t.dropWhile Char.isDigit)
    | t => ([], t)
  if whole.isEmpty && fraction.isEmpty then none
  else (exponent? t).map fun exponent =>
    { negative, digits := digitsValue (whole ++ fraction), exponent := exponent - fraction.length }

end Decimal
end CodeWiki
