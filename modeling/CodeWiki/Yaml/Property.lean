import CodeWiki.Number.Radix
import CodeWiki.Text.Utf8
import CodeWiki.Yaml.Source
import CodeWiki.Yaml.Token

/-!
Names, tags and directives.
-/
namespace CodeWiki.Yaml

def isNameChar (c : Char) : Bool := c.isAlphanum || c = '_' || c = '-'

namespace Anchor

/-- Whether the name of an anchor may end in front of a character. -/
def endsAt : Source → Bool
  | [] => true
  | p :: _ => p.isGap || "?:,]\x7d%@`".toList.contains p.char

/-- The name behind the mark of an anchor or alias, and what follows. -/
def readName? (s : Source) : Option (Text × Source) :=
  let name := Source.text (s.takeWhile fun p => isNameChar p.char)
  let rest := s.dropWhile fun p => isNameChar p.char
  if name.isEmpty || !endsAt rest then none else some (name, rest)

end Anchor

namespace Tag

def isTagChar (c : Char) : Bool := isNameChar c || ";/?:@&=+$.!~*'()".toList.contains c

/-- Whether a character may stand in a tag that is given in full. -/
def isFullTagChar (c : Char) : Bool := isTagChar c || ",[]".toList.contains c

/-- The bytes that are written with percent signs, and what follows. -/
def escapedBytes : Text → Bytes × Text
  | '%' :: a :: b :: t =>
    match Radix.natural? 16 [a, b] with
    | some n =>
      let (bytes, rest) := escapedBytes t
      (UInt8.ofNat n :: bytes, rest)
    | none => ([], '%' :: a :: b :: t)
  | t => ([], t)

/-- The characters of the longest address at the start of a line, and how many characters it takes.
Bytes that are written with percent signs have to make up characters. -/
def readAddress? (isChar : Char → Bool) : Nat → Text → Option (Text × Nat)
  | _, [] => some ([], 0)
  | skip + 1, _ :: t => (readAddress? isChar skip t).map fun (address, n) => (address, n + 1)
  | 0, c :: t =>
    if c = '%' then do
      let (bytes, rest) := escapedBytes (c :: t)
      if bytes.isEmpty then none
      else
        let decoded ← Utf8.decode? bytes
        let (address, n) ← readAddress? isChar (t.length - rest.length) t
        some (decoded ++ address, n + 1)
    else if isChar c then
      (readAddress? isChar 0 t).map fun (address, n) => (c :: address, n + 1)
    else some ([], 0)

/-- Whether a tag may end in front of a character. -/
def endsAt (inFlow : Bool) (s : Source) : Bool := s.startsGap || (inFlow && s.starts ',')

/-- The handle at the start of a text: an exclamation mark and a name, up to a second exclamation
mark if there is one. -/
def readHandle? : Text → Option (Text × Text)
  | '!' :: t =>
    let name := t.takeWhile isNameChar
    match t.dropWhile isNameChar with
    | '!' :: rest => some ('!' :: name ++ ['!'], rest)
    | rest => some ('!' :: name, rest)
  | _ => none

/-- The tag given in full behind its opening mark, and how many characters it takes. -/
def readFull? (t : Text) : Option (Token × Nat) := do
  let (address, n) ← readAddress? isFullTagChar 0 t
  if n = 0 || (t.drop n).head? != some '>' then none else some (.tag [] address, n + 1)

/-- The tag behind its exclamation mark, and how many characters it takes. A tag without a handle
has the handle `!`; the exclamation mark alone is given in full. -/
def readShort? (t : Text) : Option (Token × Nat) := do
  let (handle, rest) ← readHandle? ('!' :: t)
  if handle.length > 1 && handle.getLast? = some '!' then
    let (suffix, n) ← readAddress? isTagChar 0 rest
    if n = 0 then none else some (.tag handle suffix, handle.length - 1 + n)
  else
    let (more, n) ← readAddress? isTagChar 0 rest
    let suffix := handle.drop 1 ++ more
    some (if suffix.isEmpty then .tag [] ['!'] else .tag ['!'] suffix, handle.length - 1 + n)

/-- The tag behind its exclamation mark, and what follows. -/
def read? (inFlow : Bool) (s : Source) : Option (Token × Source) := do
  let line := Source.text s.splitLine.1
  let (tag, n) ←
    match line with
    | '<' :: t => (readFull? t).map fun (tag, n) => (tag, n + 1)
    | t => readShort? t
  let rest : Source := s.drop n
  if endsAt inFlow rest then some (tag, rest) else none

end Tag

namespace Directive

def isBlankChar (c : Char) : Bool := c = ' ' || c = '\t'

def isEnd (t : Text) : Bool :=
  match t.dropWhile isBlankChar with
  | [] => true
  | c :: _ => c = '#'

/-- The number at the start of a text, with at most nine digits, and what follows. -/
def readNumber? (t : Text) : Option (Nat × Text) :=
  let digits := t.takeWhile Char.isDigit
  if digits.length > 9 then none
  else (Radix.natural? 10 digits).map fun n => (n, t.dropWhile Char.isDigit)

def version? (t : Text) : Option Token := do
  let (major, t) ← readNumber? (t.dropWhile isBlankChar)
  match t with
  | '.' :: t =>
    let (minor, t) ← readNumber? t
    if isEnd t then some (.version major minor) else none
  | _ => none

/-- Whether a text is empty or starts with a blank. -/
def startsBlank : Text → Bool
  | [] => true
  | c :: _ => isBlankChar c

/-- The handle and its meaning behind the name of the directive. -/
def tag? (t : Text) : Option Token := do
  let (handle, t) ← Tag.readHandle? (t.dropWhile isBlankChar)
  if handle.length > 1 && handle.getLast? != some '!' then none
  else if t.isEmpty || !startsBlank t then none
  else
    let t := t.dropWhile isBlankChar
    let (meaning, n) ← Tag.readAddress? Tag.isFullTagChar 0 t
    let rest := t.drop n
    if n = 0 || !startsBlank rest || !isEnd rest then none else some (.tagDirective handle meaning)

/-- The directive of a line, behind its percent sign. -/
def ofLine? (line : Text) : Option Token :=
  let name := line.takeWhile isNameChar
  let t := line.dropWhile isNameChar
  if !startsBlank t then none
  else if name = "YAML".toList then version? t
  else if name = "TAG".toList then tag? t
  else none

end Directive
end CodeWiki.Yaml
