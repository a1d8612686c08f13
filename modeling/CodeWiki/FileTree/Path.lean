import CodeWiki.FileTree.Basic

/-!
Paths as sequences of components, and the parts of a file name.
-/
namespace CodeWiki.Path

def slash : UInt8 := 0x2F

def dot : UInt8 := 0x2E

/-- The components of a path: the root, if it begins with a slash, then its segments. Empty segments
and single dots count for nothing, except a single dot right at the start. -/
def components (path : Bytes) : List FileName :=
  let segments := path.splitOn slash
  let plain := segments.filter fun s => !s.isEmpty && s != [dot]
  match segments with
  | [] :: _ :: _ => [slash] :: plain
  | first :: _ => if first = [dot] then first :: plain else plain
  | [] => plain

/-- The components as text, joined by slashes. -/
def display (path : List FileName) : Text := Text.join ['/'] (path.map Utf8.decodeLossy)

/-- Whether a component is the name of a file or directory, not a place relative to others. -/
def isName (component : FileName) : Bool :=
  component != [slash] && component != [dot] && component != [dot, dot]

/-- The part of a file name behind its last dot; none if there is no dot but at the start. -/
def extension? (name : FileName) : Option Bytes :=
  let behind := (name.reverse.takeWhile (· ≠ dot)).reverse
  let before := name.take (name.length - behind.length - 1)
  if name.contains dot && !before.isEmpty then some behind else none

end CodeWiki.Path
