import CodeWiki.Unicode.Class

/-!
Text as a list of characters, and the ways in which it is trimmed, cut and searched.
-/
namespace CodeWiki

open Unicode

/-- Text is the list of its characters, so that every rule about it is a rule about lists. -/
abbrev Text := List Char

instance : Coe String Text := ⟨String.toList⟩

namespace Text

def ofNat (n : Nat) : Text := Nat.toDigits 10 n

/-- The number of bytes that UTF-8 takes for `t`. -/
def utf8Length (t : Text) : Nat := t.foldr (fun c n => c.utf8Size + n) 0

/-- Drops the longest end of `t` whose characters all satisfy `p`. -/
def dropEndWhile (p : Char → Bool) (t : Text) : Text := (t.reverse.dropWhile p).reverse

def trimWhile (p : Char → Bool) (t : Text) : Text := dropEndWhile p (t.dropWhile p)

def trim (t : Text) : Text := trimWhile isWhiteSpace t

/-- Whether `t` holds nothing but white space. -/
def isBlank (t : Text) : Bool := t.all isWhiteSpace

/-- What follows `mark` in a text that begins with it. -/
def after? : Text → Text → Option Text
  | [], t => some t
  | _ :: _, [] => none
  | m :: mark, c :: t => if m = c then after? mark t else none

/-- The text without `mark` at its end, if it ends so. -/
def before? (mark t : Text) : Option Text := (after? mark.reverse t.reverse).map List.reverse

/-- The parts of `t` around the first occurrence of `mark`. -/
def cut? (mark : Text) : Text → Option (Text × Text)
  | [] => (after? mark []).map ([], ·)
  | c :: t =>
    match after? mark (c :: t) with
    | some rest => some ([], rest)
    | none => (cut? mark t).map fun (left, right) => (c :: left, right)

def afterLast? (sep : Char) (t : Text) : Option Text :=
  if t.contains sep then some (t.reverse.takeWhile (· ≠ sep)).reverse else none

def hasPart (part : Text) : Text → Bool
  | [] => part.isEmpty
  | c :: t => part.isPrefixOf (c :: t) || hasPart part t

/-- The pieces of a text between the occurrences of `mark`, found from the left without overlap. The
number is how many characters of the last occurrence are still to be skipped. -/
def piecesFrom (mark : Text) : Nat → Text → Text × List Text
  | _, [] => ([], [])
  | skip + 1, _ :: t => piecesFrom mark skip t
  | 0, c :: t =>
    if mark.isPrefixOf (c :: t) then
      let (piece, later) := piecesFrom mark (mark.length - 1) t
      ([], piece :: later)
    else
      let (piece, later) := piecesFrom mark 0 t
      (c :: piece, later)

/-- The piece before the first `mark`, and the pieces behind each `mark` up to the next. -/
def pieces (mark t : Text) : Text × List Text := piecesFrom mark 0 t

/-- The lines of `t`. Every `\n` ends a line, and a `\r` right before it belongs to the end; text
behind the last `\n` is a line of its own unless it is empty. -/
def lines (t : Text) : List Text :=
  let parts := t.splitOn '\n'
  let ended := parts.dropLast.map fun line => (before? ['\r'] line).getD line
  match parts.getLast? with
  | some (c :: rest) => ended ++ [c :: rest]
  | _ => ended

/-- Texts joined with `sep` between neighbours. -/
def join (sep : Text) (parts : List Text) : Text := sep.intercalate parts

/-- The words of `t`: its maximal runs without white space. -/
def words (t : Text) : List Text := (t.splitOnP isWhiteSpace).filter (!·.isEmpty)

/-- The last `n` characters of `t`, or all of it. -/
def takeEnd (n : Nat) (t : Text) : Text := t.drop (t.length - n)

end Text
end CodeWiki
