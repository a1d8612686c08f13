import CodeWiki.Json.Basic

/-!
JSON text. The compact form has no white space; the indented form puts every item on a line of its
own, two spaces deeper than the bracket around it.
-/
namespace CodeWiki.Json

/-- The four hexadecimal digits of a control character. -/
def controlDigits (c : Char) : Text :=
  let digits := Nat.toDigits 16 c.toNat
  List.replicate (4 - digits.length) '0' ++ digits

/-- A character inside quotation marks. Only the quotation mark, the backslash and control
characters are escaped. -/
def escape (c : Char) : Text :=
  if c = '"' then "\\\""
  else if c = '\\' then "\\\\"
  else if c = '\x08' then "\\b"
  else if c = '\x0c' then "\\f"
  else if c = '\n' then "\\n"
  else if c = '\r' then "\\r"
  else if c = '\t' then "\\t"
  else if c.toNat < 0x20 then "\\u" ++ controlDigits c
  else [c]

/-- A string with its quotation marks. A string that is no text is written as a lone surrogate. -/
def writeString : JsonString → Text
  | some t => ['"'] ++ t.flatMap escape ++ ['"']
  | none => "\"\\ud800\""

structure Layout where
  /-- What stands in front of an item or a closing bracket at the given depth. -/
  gap : Nat → Text
  /-- What stands behind the colon of a member. -/
  afterColon : Text

def Layout.compact : Layout where
  gap _ := []
  afterColon := []

def Layout.indented : Layout where
  gap depth := '\n' :: List.replicate (2 * depth) ' '
  afterColon := [' ']

mutual

def write (layout : Layout) (depth : Nat) : Json → Text
  | null => "null"
  | bool true => "true"
  | bool false => "false"
  | number numeral => numeral
  | string content => writeString content
  | array [] => "[]"
  | array (first :: rest) =>
    ['['] ++ layout.gap (depth + 1) ++ write layout (depth + 1) first ++
      writeItems layout (depth + 1) rest ++ layout.gap depth ++ [']']
  | object [] => "\x7b\x7d"
  | object ((key, value) :: rest) =>
    ['\x7b'] ++ layout.gap (depth + 1) ++ writeString key ++ [':'] ++ layout.afterColon ++
      write layout (depth + 1) value ++ writeMembers layout (depth + 1) rest ++ layout.gap depth ++
      ['\x7d']

def writeItems (layout : Layout) (depth : Nat) : List Json → Text
  | [] => []
  | item :: rest =>
    [','] ++ layout.gap depth ++ write layout depth item ++ writeItems layout depth rest

def writeMembers (layout : Layout) (depth : Nat) : List (JsonString × Json) → Text
  | [] => []
  | (key, value) :: rest =>
    [','] ++ layout.gap depth ++ writeString key ++ [':'] ++ layout.afterColon ++
      write layout depth value ++ writeMembers layout depth rest

end

def compact (value : Json) : Text := write .compact 0 value

/-- The text of a value with one item a line. -/
def indented (value : Json) : Text := write .indented 0 value

end CodeWiki.Json
