import CodeWiki.Json.Basic
import CodeWiki.Number.Radix

/-!
Reading JSON text. The reader accepts the grammar and nothing else; it sets no bound on depth or on
the size of numbers.
-/
namespace CodeWiki.Json

def isBlankChar (c : Char) : Bool := c = ' ' || c = '\n' || c = '\t' || c = '\r'

def skipBlank (t : Text) : Text := t.dropWhile isBlankChar

/-- What a string holds at one place: a character, or a unit given by its hexadecimal number. -/
inductive Piece where
  | char (c : Char)
  | unit (n : Nat)
deriving DecidableEq, Repr

def unit? (a b c d : Char) : Option Nat := Radix.natural? 16 [a, b, c, d]

/-- The character that a single letter behind a backslash stands for. -/
def escaped? (c : Char) : Option Char :=
  if c = '"' || c = '\\' || c = '/' then some c
  else if c = 'b' then some '\x08'
  else if c = 'f' then some '\x0c'
  else if c = 'n' then some '\n'
  else if c = 'r' then some '\r'
  else if c = 't' then some '\t'
  else none

/-- The pieces of a string up to its closing quotation mark, and what follows. Control characters
may not stand in a string as they are. -/
def stringPieces? : Text → Option (List Piece × Text)
  | [] => none
  | '"' :: t => some ([], t)
  | '\\' :: 'u' :: a :: b :: c :: d :: t => do
    let n ← unit? a b c d
    let (pieces, rest) ← stringPieces? t
    some (.unit n :: pieces, rest)
  | '\\' :: c :: t => do
    let c ← escaped? c
    let (pieces, rest) ← stringPieces? t
    some (.char c :: pieces, rest)
  | c :: t =>
    if c.toNat < 0x20 then none
    else do
      let (pieces, rest) ← stringPieces? t
      some (.char c :: pieces, rest)

/-- Whether a unit is the first half of a pair. -/
def isHighSurrogate (n : Nat) : Bool := 0xD800 ≤ n && n < 0xDC00

/-- Whether a unit is the second half of a pair. -/
def isLowSurrogate (n : Nat) : Bool := 0xDC00 ≤ n && n < 0xE000

/-- The text of a row of pieces, if every surrogate in it has its partner right beside it. -/
def pieceText? : List Piece → JsonString
  | [] => some []
  | .char c :: rest => (pieceText? rest).map (c :: ·)
  | .unit n :: .unit m :: rest =>
    if isHighSurrogate n then
      if isLowSurrogate m then
        (pieceText? rest).map (Char.ofNat (0x10000 + (n - 0xD800) * 0x400 + (m - 0xDC00)) :: ·)
      else none
    else if isLowSurrogate n then none
    else (pieceText? (.unit m :: rest)).map (Char.ofNat n :: ·)
  | .unit n :: rest =>
    if isHighSurrogate n || isLowSurrogate n then none
    else (pieceText? rest).map (Char.ofNat n :: ·)

/-- The string behind an opening quotation mark, and what follows. -/
def readString? (t : Text) : Option (JsonString × Text) :=
  (stringPieces? t).map fun (pieces, rest) => (pieceText? pieces, rest)

/-- The digits at hand, if there is at least one, and what follows. -/
def readDigits? (t : Text) : Option (Text × Text) :=
  let digits := t.takeWhile Char.isDigit
  if digits.isEmpty then none else some (digits, t.dropWhile Char.isDigit)

/-- The digits before the point: no zero stands in front of other digits. -/
def readWhole? (t : Text) : Option (Text × Text) := do
  let (digits, rest) ← readDigits? t
  if digits.length > 1 && digits.head? = some '0' then none else some (digits, rest)

/-- The point and the digits behind it, or nothing. -/
def readFraction? : Text → Option (Text × Text)
  | '.' :: t => (readDigits? t).map fun (digits, rest) => ('.' :: digits, rest)
  | t => some ([], t)

/-- The exponent with its mark and sign, or nothing. -/
def readExponent? : Text → Option (Text × Text)
  | [] => some ([], [])
  | e :: t =>
    if e = 'e' || e = 'E' then
      match t with
      | '+' :: t => (readDigits? t).map fun (digits, rest) => (e :: '+' :: digits, rest)
      | '-' :: t => (readDigits? t).map fun (digits, rest) => (e :: '-' :: digits, rest)
      | t => (readDigits? t).map fun (digits, rest) => (e :: digits, rest)
    else some ([], e :: t)

def readNumeral? (t : Text) : Option (Text × Text) := do
  let (sign, t) := match t with
    | '-' :: t => (['-'], t)
    | t => ([], t)
  let (whole, t) ← readWhole? t
  let (fraction, t) ← readFraction? t
  let (exponent, t) ← readExponent? t
  some (sign ++ whole ++ fraction ++ exponent, t)

mutual

/-- The value at hand, and what follows. Each level and each item uses up a unit of `fuel`. -/
def readValue? : Nat → Text → Option (Json × Text)
  | 0, _ => none
  | fuel + 1, t =>
    match skipBlank t with
    | '"' :: t => (readString? t).map fun (content, rest) => (.string content, rest)
    | '[' :: t =>
      match skipBlank t with
      | ']' :: rest => some (.array [], rest)
      | t => (readItems? fuel t).map fun (items, rest) => (.array items, rest)
    | '\x7b' :: t =>
      match skipBlank t with
      | '\x7d' :: rest => some (.object [], rest)
      | t => (readMembers? fuel t).map fun (members, rest) => (.object members, rest)
    | 'n' :: 'u' :: 'l' :: 'l' :: rest => some (.null, rest)
    | 't' :: 'r' :: 'u' :: 'e' :: rest => some (.bool true, rest)
    | 'f' :: 'a' :: 'l' :: 's' :: 'e' :: rest => some (.bool false, rest)
    | t => (readNumeral? t).map fun (numeral, rest) => (.number numeral, rest)

/-- The items at hand up to the closing bracket, and what follows. -/
def readItems? : Nat → Text → Option (List Json × Text)
  | 0, _ => none
  | fuel + 1, t => do
    let (item, t) ← readValue? fuel t
    match skipBlank t with
    | ']' :: rest => some ([item], rest)
    | ',' :: t =>
      let (items, rest) ← readItems? fuel t
      some (item :: items, rest)
    | _ => none

/-- The members at hand up to the closing brace, and what follows. -/
def readMembers? : Nat → Text → Option (List (JsonString × Json) × Text)
  | 0, _ => none
  | fuel + 1, t =>
    match skipBlank t with
    | '"' :: t => do
      let (key, t) ← readString? t
      match skipBlank t with
      | ':' :: t =>
        let (value, t) ← readValue? fuel t
        match skipBlank t with
        | '\x7d' :: rest => some ([(key, value)], rest)
        | ',' :: t =>
          let (members, rest) ← readMembers? fuel t
          some ((key, value) :: members, rest)
        | _ => none
      | _ => none
    | _ => none

end

/-- Reads a text that holds one value and nothing else. Each unit of fuel pays for a character. -/
def read? (t : Text) : Option Json := do
  let (value, rest) ← readValue? (t.length + 1) t
  if (skipBlank rest).isEmpty then some value else none

end CodeWiki.Json
