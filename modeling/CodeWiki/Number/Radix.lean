import CodeWiki.Text.Basic

/-!
Whole numbers in a number system with up to sixteen digits.
-/
namespace CodeWiki.Radix

/-- The value of a hexadecimal digit, in letters of either case. -/
def hexValue? (c : Char) : Option Nat :=
  if '0' ≤ c && c ≤ '9' then some (c.toNat - '0'.toNat)
  else if 'a' ≤ c && c ≤ 'f' then some (c.toNat - 'a'.toNat + 10)
  else if 'A' ≤ c && c ≤ 'F' then some (c.toNat - 'A'.toNat + 10)
  else none

/-- The value of a digit of the system with the given radix. -/
def digit? (radix : Nat) (c : Char) : Option Nat := (hexValue? c).filter (· < radix)

/-- The number that a row of digits denotes; none if there is no digit, or anything else. -/
def natural? (radix : Nat) (t : Text) : Option Nat :=
  if t.isEmpty then none
  else t.foldlM (fun n c => (digit? radix c).map (radix * n + ·)) 0

end CodeWiki.Radix
