import CodeWiki.Json.Basic
import CodeWiki.Number.Style

/-!
The values of JSON numerals. A numeral without point and exponent is a whole number while it fits
into 64 bits; every other numeral is a double, computed from the leading digits that fit into 64
bits by one multiplication with or division by a power of ten.
-/
namespace CodeWiki.Json

structure NumeralParts where
  negative : Bool
  whole : Text
  fraction : Text
  exponent : Option Decimal
deriving Repr

/-- The exponent behind the mark, as a signed whole number. -/
def exponentPart : Text → Option Decimal
  | [] => none
  | _ :: t =>
    let (negative, digits) := Decimal.takeSign t
    some { negative, digits := digitsValue digits, exponent := 0 }

def numeralParts (numeral : Text) : NumeralParts :=
  let (negative, t) := Decimal.takeSign numeral
  let whole := t.takeWhile Char.isDigit
  let t := t.dropWhile Char.isDigit
  let (fraction, t) :=
    match t with
    | '.' :: t => (t.takeWhile Char.isDigit, t.dropWhile Char.isDigit)
    | t => ([], t)
  { negative, whole, fraction, exponent := exponentPart t }

/-- Appends digits to a number below `2^64` while it stays below, and counts those left over. -/
def absorb (n : Nat) : Text → Nat × Nat
  | [] => (n, 0)
  | c :: digits =>
    let next := 10 * n + digitValue c
    if next < UInt64.size then absorb next digits else (n, digits.length + 1)

/-- The whole number below `2^64` that a numeral denotes. -/
def natural? (numeral : Text) : Option Nat :=
  let parts := numeralParts numeral
  let n := digitsValue parts.whole
  if !parts.negative && parts.fraction.isEmpty && parts.exponent.isNone && n < UInt64.size then
    some n
  else none

def powerOfTen (k : Nat) : Floating := FloatFormat.double.round false (Nat.pow 10 k) 1

/-- `x / 10^k`, in steps that never divide by more than `10^308`. -/
def scaleDown (x : Floating) (k : Nat) : Floating :=
  if x.isZero then x
  else if k ≤ 308 then FloatFormat.double.div x (powerOfTen k)
  else scaleDown (FloatFormat.double.div x (powerOfTen 308)) (k - 308)
termination_by k

/-- `n · 10^k` as a double; none if it is too large for one. -/
def scaled? (n : Nat) (k : Int) : Option Floating :=
  let x := FloatFormat.double.ofNat n
  if k < 0 then some (scaleDown x k.natAbs)
  else if k ≤ 308 then
    let y := FloatFormat.double.mul x (powerOfTen k.toNat)
    if y.isFinite then some y else none
  else if n = 0 then some x
  else none

/-- The greatest number that an exponent may be written with. -/
def maxExponentNumeral : Nat := 2147483647

/-- The double that a numeral denotes; none if it is out of range. -/
def double? (numeral : Text) : Option Floating :=
  let parts := numeralParts numeral
  let (head, dropped) := absorb 0 parts.whole
  let (significand, ignored) := absorb head parts.fraction
  let exponent : Int := (dropped : Int) - (parts.fraction.length - ignored : Nat)
  let magnitude :=
    match parts.exponent with
    | none => scaled? significand exponent
    | some e =>
      if maxExponentNumeral < e.digits then
        if significand != 0 && !e.negative then none else some (FloatFormat.double.ofNat 0)
      else scaled? significand (if e.negative then exponent - e.digits else exponent + e.digits)
  magnitude.map fun
    | .finite _ mantissa exponent => .finite parts.negative mantissa exponent
    | x => x

/-- Whether a numeral denotes a number of the supported range. -/
def inRange (numeral : Text) : Bool := (double? numeral).isSome

/-- How doubles and singles are written: positional for first digits from `10^-6` to `10^12`, and
always recognizable as a fraction or by an exponent. -/
def numberStyle : NumberStyle where
  positional exponent := -6 ≤ exponent && exponent ≤ 12
  pointAlways := true
  nan := "null"
  infinity := "null"
  minusInfinity := "null"

/-- A single-precision number as a value; one that is not finite has no numeral and becomes
`null`. -/
def ofSingle (x : Floating) : Json :=
  if x.isFinite then number (numberStyle.write .single x) else null

end CodeWiki.Json
