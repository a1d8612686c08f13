import CodeWiki.Excerpt.Language

/-!
Comments and quoted blocks taken out of source text. Each kind is removed by a pass of its own over
what the pass before left, and blank lines go last.
-/
namespace CodeWiki.Comment

/-- Removes every `#` with the rest of its line. The flag tells whether the text at hand stands
behind a `#` of the same line. -/
def hashFrom : Bool → Text → Text
  | _, [] => []
  | hidden, c :: t =>
    if c = '\n' then c :: hashFrom false t
    else if hidden || c = '#' then hashFrom true t
    else c :: hashFrom false t

def removeHash (t : Text) : Text := hashFrom false t

/-- Whether `//` right behind `c` opens a comment: not so in a scheme such as `http://`, nor right
behind an opening quote. -/
def opensAfter (c : Char) : Bool := c != ':' && c != '"' && c != '\''

/-- Where the removal of slash comments stands. -/
inductive Place where
  | lineStart
  | inLine
  | hidden
deriving DecidableEq, Repr

/-- Removes every `//` that opens a comment, with the rest of its line. It opens one at the start of
a line, or behind a character that allows it; that character stays. -/
def slashFrom : Place → Text → Text
  | _, [] => []
  | place, c :: t =>
    if place = .hidden && c ≠ '\n' then slashFrom .hidden t
    else if place = .lineStart && ['/', '/'].isPrefixOf (c :: t) then slashFrom .hidden t
    else if opensAfter c && ['/', '/'].isPrefixOf t then c :: slashFrom .hidden t
    else c :: slashFrom (if c = '\n' then .lineStart else .inLine) t

def removeSlash (t : Text) : Text := slashFrom .lineStart t

/-- The length of the block that `t` begins with: from an `opening` to the next `closing` behind it,
both included. A block that is never closed is no block. -/
def blockLength? (opening closing t : Text) : Option Nat :=
  (Text.after? opening t).bind fun inside =>
    (Text.cut? closing inside).map fun (body, _) => opening.length + body.length + closing.length

/-- Removes blocks from the left. The number is how many characters of the block at hand are still
to be dropped. -/
def blocksFrom (opening closing : Text) : Nat → Text → Text
  | _, [] => []
  | left + 1, _ :: t => blocksFrom opening closing left t
  | 0, c :: t =>
    match blockLength? opening closing (c :: t) with
    | some (left + 1) => blocksFrom opening closing left t
    | _ => c :: blocksFrom opening closing 0 t

/-- Removes every block between an `opening` and the next `closing`. -/
def removeBlocks (opening closing t : Text) : Text := blocksFrom opening closing 0 t

/-- Source text without its comments, quoted blocks and blank lines. -/
def strip (language : Language) (code : Text) : Text :=
  let code := if language.hasHashComments then removeHash code else code
  let code :=
    if language.hasSlashComments then removeBlocks "/*" "*/" (removeSlash code) else code
  let code :=
    if language.hasQuotedBlocks then
      removeBlocks "\"\"\"" "\"\"\"" (removeBlocks "'''" "'''" code)
    else code
  Text.join ['\n'] ((Text.lines code).filter (!Text.isBlank ·))

end CodeWiki.Comment
