import CodeWiki.Number.Floating

/-!
The shortest decimal that reads back as a given floating-point value. The decimals that read back
form an interval around the value; of all powers of ten with a multiple inside the interval the
largest is taken, and of its multiples the one nearest to the value.
-/
namespace CodeWiki.FloatFormat

/-- The values that round to `mantissa · 2^exponent`, all in units of `2^(exponent - 2)`. The ends
belong to the interval exactly when the mantissa is even. -/
structure Interval where
  low : Nat
  middle : Nat
  high : Nat
  exponent : Int
  closed : Bool

/-- The interval of a positive value. Right above a power of two the values below lie closer, unless
the exponent is already the least one. -/
def interval (format : FloatFormat) (mantissa : Nat) (exponent : Int) : Interval :=
  let narrow := mantissa = Nat.pow 2 (format.precision - 1) && format.minExponent < exponent
  { low := 4 * mantissa - (if narrow then 1 else 2)
    middle := 4 * mantissa
    high := 4 * mantissa + 2
    exponent := exponent - 2
    closed := mantissa % 2 = 0 }

namespace Interval

def holds (i : Interval) (n : Nat) (k : Int) : Bool :=
  let (two, twoDown) := powerOf 2 i.exponent
  let (ten, tenDown) := powerOf 10 k
  let point := n * ten * twoDown
  let low := i.low * two * tenDown
  let high := i.high * two * tenDown
  if i.closed then low ≤ point && point ≤ high else low < point && point < high

/-- The multiple of `10^k` in the interval that is nearest to its middle; of two that are equally
near, the even one. -/
def nearest? (i : Interval) (k : Int) : Option Nat :=
  let (two, twoDown) := powerOf 2 i.exponent
  let (ten, tenDown) := powerOf 10 k
  let n := i.middle * two * tenDown
  let d := ten * twoDown
  let below := n / d
  match i.holds below k, i.holds (below + 1) k with
  | true, true => some (roundHalfEven n d)
  | true, false => some below
  | false, true => some (below + 1)
  | false, false => none

/-- The multiple of the largest power of ten not above `10^k` that has one in the interval, with the
exponent of that power. -/
def coarsest (i : Interval) : Nat → Int → Nat × Int
  | 0, k => (i.middle, k)
  | fuel + 1, k =>
    match i.nearest? k with
    | some n => (n, k)
    | none => coarsest i fuel (k - 1)

end Interval

/-- The digits and the exponent of the shortest decimal for a positive value. No power of ten beyond
the integral digits of the interval has a multiple in it, and `10^(exponent - 2)` always has one. -/
def shortest (format : FloatFormat) (mantissa : Nat) (exponent : Int) : Nat × Int :=
  let i := format.interval mantissa exponent
  let (two, _) := powerOf 2 i.exponent
  let start : Int := (Text.ofNat (i.high * two)).length
  i.coarsest (start - min 0 i.exponent + 1).toNat start

end CodeWiki.FloatFormat
