import CodeWiki.Text.Utf8

/-!
File trees: what a checkout leaves on disk. File names are rows of bytes; nothing says that they are
text.
-/
namespace CodeWiki

abbrev FileName := Bytes

/-- A file with its content, a symbolic link, or a directory with its entries in any order. -/
inductive FileTree where
  | file (content : Bytes)
  | link
  | directory (entries : List (FileName × FileTree))

namespace FileTree

def empty : FileTree := directory []

/-- The entries of a directory; a file or link has none. -/
def entries : FileTree → List (FileName × FileTree)
  | directory entries => entries
  | _ => []

/-- Changes the entry called `name`; if there is none, an empty directory is changed and added. -/
def alter (name : FileName) (change : FileTree → FileTree) :
    List (FileName × FileTree) → List (FileName × FileTree)
  | [] => [(name, change empty)]
  | (other, tree) :: rest =>
    if other = name then (other, change tree) :: rest else (other, tree) :: alter name change rest

/-- Puts `node` at the end of a path, opening the directories on the way. What stood there before is
replaced. -/
def put (node : FileTree) : List FileName → FileTree → FileTree
  | [], _ => node
  | name :: path, tree => directory (alter name (put node path) tree.entries)

/-- Opens the directories on a path that are not there yet. -/
def openPath : List FileName → FileTree → FileTree
  | [], tree => tree
  | name :: path, tree => directory (alter name (openPath path) tree.entries)

end FileTree
end CodeWiki
