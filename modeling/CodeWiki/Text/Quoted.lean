import CodeWiki.Text.Basic

/-!
Text shown between quotation marks, with everything escaped that would not show by itself.
-/
namespace CodeWiki.Text

open Unicode

/-- The escape by code point: `\u`, then the hexadecimal number in braces. -/
def codeEscape (c : Char) : Text := ['\\', 'u', '\x7b'] ++ Nat.toDigits 16 c.toNat ++ ['\x7d']

/-- One character as it is shown between quotation marks. Characters that attach to the one before
them, and those without a visible form, are given by code point. -/
def shown (c : Char) : Text :=
  if c = '\x00' then ['\\', '0']
  else if c = '\t' then ['\\', 't']
  else if c = '\r' then ['\\', 'r']
  else if c = '\n' then ['\\', 'n']
  else if c = '"' || c = '\\' then ['\\', c]
  else if extendsGrapheme c || !isPrintable c then codeEscape c
  else [c]

def quoted (t : Text) : Text := ['"'] ++ t.flatMap shown ++ ['"']

end CodeWiki.Text
