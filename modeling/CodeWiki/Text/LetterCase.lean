import CodeWiki.Text.Basic

/-!
Case forms of whole texts. Only the lower case of a capital sigma depends on its neighbours.
-/
namespace CodeWiki.Text

open Unicode

/-- Whether the first character that is not case-ignorable is a cased one. -/
def startsCased : Text → Bool
  | [] => false
  | c :: rest => if isCaseIgnorable c then startsCased rest else isCased c

/-- Lower case of the text that follows the characters of `before`, which are listed from the
nearest to the farthest. A capital sigma becomes final when a cased character stands before it and
none behind it, case-ignorable ones aside. -/
def lowerAfter (before : Text) : Text → Text
  | [] => []
  | c :: rest =>
    let form :=
      if c = 'Σ' then [if startsCased before && !startsCased rest then 'ς' else 'σ']
      else Unicode.lower c
    form ++ lowerAfter (c :: before) rest

def toLower (t : Text) : Text := lowerAfter [] t

/-- The text with its first character in upper case. -/
def capitalize : Text → Text
  | [] => []
  | c :: rest => Unicode.upper c ++ rest

end CodeWiki.Text
