import CodeWiki.Text.Basic

/-!
UTF-8. A row of bytes is taken apart from the left into characters and faults, where a fault is a
byte that begins no character together with what might have continued it. Strict decoding allows no
fault; lenient decoding puts the replacement character for each.
-/
namespace CodeWiki

abbrev Bytes := List UInt8

namespace Utf8

def encode (t : Text) : Bytes := t.flatMap String.utf8EncodeChar

def continues (b : UInt8) : Bool := 0x80 ≤ b && b < 0xC0

/-- Whether `b` may follow the first byte `a` of a character: the shortest form, no surrogates, and
nothing beyond the last code point. -/
def follows (a b : UInt8) : Bool :=
  if a = 0xE0 then 0xA0 ≤ b && b < 0xC0
  else if a = 0xED then 0x80 ≤ b && b < 0xA0
  else if a = 0xF0 then 0x90 ≤ b && b < 0xC0
  else if a = 0xF4 then 0x80 ≤ b && b < 0x90
  else continues b

/-- The number of bytes of a character that begins with `a`; zero if none does. -/
def width (a : UInt8) : Nat :=
  if a < 0x80 then 1
  else if a < 0xC2 then 0
  else if a < 0xE0 then 2
  else if a < 0xF0 then 3
  else if a < 0xF5 then 4
  else 0

/-- The low six bits of a byte that continues a character. -/
def low (b : UInt8) : Nat := b.toNat % 64

/-- The characters of a row of bytes, with `none` for each fault. -/
def decodeEach : Bytes → List (Option Char)
  | [] => []
  | a :: rest =>
    match width a, rest with
    | 1, rest => some (Char.ofNat a.toNat) :: decodeEach rest
    | 2, b :: rest =>
      if continues b then some (Char.ofNat (a.toNat % 32 * 64 + low b)) :: decodeEach rest
      else none :: decodeEach (b :: rest)
    | 3, b :: c :: rest =>
      if !follows a b then none :: decodeEach (b :: c :: rest)
      else if !continues c then none :: decodeEach (c :: rest)
      else some (Char.ofNat ((a.toNat % 16 * 64 + low b) * 64 + low c)) :: decodeEach rest
    | 3, [b] => if follows a b then [none] else none :: decodeEach [b]
    | 4, b :: c :: d :: rest =>
      if !follows a b then none :: decodeEach (b :: c :: d :: rest)
      else if !continues c then none :: decodeEach (c :: d :: rest)
      else if !continues d then none :: decodeEach (d :: rest)
      else some (Char.ofNat (((a.toNat % 8 * 64 + low b) * 64 + low c) * 64 + low d)) ::
        decodeEach rest
    | 4, [b, c] =>
      if !follows a b then none :: decodeEach [b, c]
      else if !continues c then none :: decodeEach [c]
      else [none]
    | 4, [b] => if follows a b then [none] else none :: decodeEach [b]
    | _, rest => none :: decodeEach rest

/-- The text of a row of bytes without faults. -/
def decode? (bytes : Bytes) : Option Text := (decodeEach bytes).mapM id

/-- The text of a row of bytes, with the replacement character for every fault. -/
def decodeLossy (bytes : Bytes) : Text := (decodeEach bytes).map (·.getD '\ufffd')

end Utf8
end CodeWiki
