import CodeWiki.FileTree.Path
import CodeWiki.Snapshot

/-!
The files of a checkout that are worth reading, and the snapshot of them.
-/
namespace CodeWiki

/-- What is fetched, and which files of it are read. -/
structure CheckoutSettings where
  maxFiles : Nat := 40
  maxFileBytes : Nat := 50000
  cloneTimeoutSecs : Nat := 120
  revisionTimeoutSecs : Nat := 10
  /-- Extensions of source files. -/
  extensions : List Text :=
    ["py", "js", "ts", "tsx", "jsx", "java", "go", "cpp", "h", "cs"].map String.toList
  /-- Names that keep everything at or below them out. -/
  ignore : List Text :=
    [".git", ".github", "node_modules", "venv", "__pycache__", "dist", "build", ".env",
      "package-lock.json", "yarn.lock"].map String.toList
deriving DecidableEq, Repr

namespace CheckoutSettings

/-- Whether a name is on the ignore list; a name that is no text is compared as it is displayed. -/
def ignores (settings : CheckoutSettings) (name : FileName) : Bool :=
  settings.ignore.contains (Utf8.decodeLossy name)

/-- Whether a path has no ignored component and ends in a name with the extension of a source
file. -/
def admits (settings : CheckoutSettings) (path : List FileName) : Bool :=
  let extension := do
    let name ← path.getLast?
    if Path.isName name then (Path.extension? name).bind Utf8.decode? else none
  !path.any settings.ignores &&
    match extension with
    | some extension => settings.extensions.contains extension
    | none => false

end CheckoutSettings

namespace FileTree

def nameLE (a b : FileName) : Bool := decide (a ≤ b)

mutual

/-- The files of a tree, each with its path below `here`, directories on the ignore list left out.
The entries of a directory come in the order of their names. -/
def sourceFiles (settings : CheckoutSettings) (here : List FileName) :
    FileTree → List (List FileName × Bytes)
  | file content => [(here, content)]
  | link => []
  | directory entries =>
    ((entryFiles settings here entries).mergeSort fun a b => nameLE a.1 b.1).flatMap Prod.snd

def entryFiles (settings : CheckoutSettings) (here : List FileName) :
    List (FileName × FileTree) → List (FileName × List (List FileName × Bytes))
  | [] => []
  | (name, directory entries) :: rest =>
    (name,
      if settings.ignores name then []
      else sourceFiles settings (here ++ [name]) (directory entries)) ::
      entryFiles settings here rest
  | (name, tree) :: rest =>
    (name, sourceFiles settings (here ++ [name]) tree) :: entryFiles settings here rest

end

/-- The text of a file that is worth reading: not too large, UTF-8 and not blank. -/
def readable? (settings : CheckoutSettings) (content : Bytes) : Option Text := do
  if settings.maxFileBytes < content.length then none
  else
    let text ← Utf8.decode? content
    if Text.isBlank text then none else some text

/-- Takes eligible files into a snapshot, one after another, until it holds as many as it may. -/
def takeFiles (settings : CheckoutSettings) (s : Snapshot) :
    List (List FileName × Bytes) → Snapshot
  | [] => s
  | (path, content) :: rest =>
    if settings.maxFiles ≤ s.size then s
    else
      match if settings.admits path then readable? settings content else none with
      | some text => takeFiles settings (s.insert (Path.display path) text) rest
      | none => takeFiles settings s rest

def snapshot (settings : CheckoutSettings) (tree : FileTree) : Snapshot :=
  takeFiles settings Snapshot.empty (sourceFiles settings [] tree)

end FileTree
end CodeWiki
