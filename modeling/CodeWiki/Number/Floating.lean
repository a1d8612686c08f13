import CodeWiki.Number.Decimal

/-!
Binary floating-point numbers as exact values. Every operation computes the exact result first and
rounds it once, to the nearest value of the format, a tie to the even mantissa.
-/
namespace CodeWiki

/-- `±mantissa · 2^exponent`, an infinity, or no number at all. -/
inductive Floating where
  | finite (negative : Bool) (mantissa : Nat) (exponent : Int)
  | infinite (negative : Bool)
  | nan
deriving DecidableEq, Repr

/-- A binary format: the width of its mantissas and the range of their exponents. -/
structure FloatFormat where
  precision : Nat
  minExponent : Int
  maxExponent : Int
deriving DecidableEq, Repr

/-- `base^k` for a `k` of either sign, as numerator and denominator. -/
def powerOf (base : Nat) (k : Int) : Nat × Nat := (Nat.pow base k.toNat, Nat.pow base (-k).toNat)

namespace FloatFormat

def single : FloatFormat := ⟨24, -149, 104⟩

def double : FloatFormat := ⟨53, -1074, 971⟩

/-- The exponent of the highest binary digit of `n / d`, for `n` and `d` above zero. -/
def topExponent (n d : Nat) : Int :=
  let guess : Int := (Nat.log2 n : Int) - Nat.log2 d
  let (up, down) := powerOf 2 guess
  if d * up ≤ n * down then guess else guess - 1

/-- The value of the format that is nearest to `±n / d`. -/
def round (format : FloatFormat) (negative : Bool) (n d : Nat) : Floating :=
  if n = 0 then .finite negative 0 format.minExponent
  else
    let exponent := max format.minExponent (topExponent n d - (format.precision - 1 : Nat))
    let (up, down) := powerOf 2 exponent
    let mantissa := roundHalfEven (n * down) (d * up)
    let (mantissa, exponent) :=
      if mantissa = Nat.pow 2 format.precision then (mantissa / 2, exponent + 1)
      else (mantissa, exponent)
    if format.maxExponent < exponent then .infinite negative
    else .finite negative mantissa exponent

/-- The value of the format that is nearest to a decimal number. Numbers beyond the range of every
value are sorted out first, so that no large power of ten is ever formed for them. -/
def ofDecimal (format : FloatFormat) (x : Decimal) : Floating :=
  let top : Int := (Text.ofNat x.digits).length + x.exponent
  if x.digits = 0 || top < format.minExponent then .finite x.negative 0 format.minExponent
  else if format.maxExponent + format.precision < top then .infinite x.negative
  else
    let (up, down) := powerOf 10 x.exponent
    format.round x.negative (x.digits * up) down

/-- Reads a number: a decimal numeral, or an infinity or `nan` in letters of either case. -/
def ofText? (format : FloatFormat) (t : Text) : Option Floating :=
  match Decimal.ofText? t with
  | some x => some (format.ofDecimal x)
  | none =>
    let (negative, name) := Decimal.takeSign t
    let name := name.map Char.toLower
    if name = "inf".toList || name = "infinity".toList then some (.infinite negative)
    else if name = "nan".toList then some .nan
    else none

def ofNat (format : FloatFormat) (n : Nat) : Floating := format.round false n 1

/-- The value of the format that is nearest to `x`. -/
def convert (format : FloatFormat) : Floating → Floating
  | .finite negative mantissa exponent =>
    let (up, down) := powerOf 2 exponent
    format.round negative (mantissa * up) down
  | x => x

/-- The product of two finite values; `nan` if one of them is not finite. -/
def mul (format : FloatFormat) : Floating → Floating → Floating
  | .finite s m e, .finite t n f =>
    let (up, down) := powerOf 2 (e + f)
    format.round (s != t) (m * n * up) down
  | _, _ => .nan

/-- The quotient of two finite values; `nan` if one of them is not finite or the divisor is zero. -/
def div (format : FloatFormat) : Floating → Floating → Floating
  | .finite s m e, .finite t n f =>
    if n = 0 then .nan
    else
      let (up, down) := powerOf 2 (e - f)
      format.round (s != t) (m * up) (n * down)
  | _, _ => .nan

end FloatFormat

namespace Floating

/-- Whether the value is neither infinite nor `nan`. -/
def isFinite : Floating → Bool
  | finite .. => true
  | _ => false

/-- Whether the value is a zero of either sign. -/
def isZero : Floating → Bool
  | finite _ 0 _ => true
  | _ => false

/-- The integer nearest to the value times `scale`, with a half going to the even neighbour; zero
for a value that is not finite and positive. -/
def scaledRound (scale : Nat) : Floating → Nat
  | finite false mantissa exponent =>
    let (up, down) := powerOf 2 exponent
    roundHalfEven (mantissa * scale * up) down
  | _ => 0

/-- The value without its fraction; zero for a value that is not finite and positive. -/
def floor : Floating → Nat
  | finite false mantissa exponent =>
    let (up, down) := powerOf 2 exponent
    mantissa * up / down
  | _ => 0

/-- Whether the value lies between zero and `bound`, both included. -/
def isWithin (bound : Nat) : Floating → Bool
  | finite negative mantissa exponent =>
    let (up, down) := powerOf 2 exponent
    mantissa = 0 || (!negative && mantissa * up ≤ bound * down)
  | _ => false

end Floating
end CodeWiki
