import CodeWiki.Checkout.Eligible

/-!
The files of a tree without a walk: all of them are listed and put in order, then those that are
worth reading are selected, and then the first of these are taken.
-/
namespace CodeWiki.FileTree

/-- A tree as it can stand on disk: the names in a directory are distinct, and none holds a
slash. -/
inductive WellFormed : FileTree → Prop where
  | file {content} : WellFormed (.file content)
  | link : WellFormed .link
  | directory {entries : List (FileName × FileTree)} (distinct : (entries.map Prod.fst).Nodup)
      (unslashed : ∀ entry ∈ entries, Path.slash ∉ entry.1)
      (below : ∀ entry ∈ entries, WellFormed entry.2) : WellFormed (.directory entries)

mutual

/-- Every file of a tree, each with its path below `here`. -/
def listing (here : List FileName) : FileTree → List (List FileName × Bytes)
  | file content => [(here, content)]
  | link => []
  | directory entries => listings here entries

def listings (here : List FileName) : List (FileName × FileTree) → List (List FileName × Bytes)
  | [] => []
  | (name, tree) :: rest => listing (here ++ [name]) tree ++ listings here rest

end

/-- Files in the order of their paths, component by component. -/
def inPathOrder (files : List (List FileName × Bytes)) : List (List FileName × Bytes) :=
  files.mergeSort fun a b => decide (a.1 ≤ b.1)

/-- A file with its text, if its path is admitted and it is small enough, UTF-8 and not blank. -/
def eligible? (settings : CheckoutSettings) (file : List FileName × Bytes) :
    Option (List FileName × Text) :=
  if settings.admits file.1 && decide (file.2.length ≤ settings.maxFileBytes) then
    ((Utf8.decode? file.2).filter fun text => !Text.isBlank text).map (file.1, ·)
  else none

def eligibleFiles (settings : CheckoutSettings) (tree : FileTree) : List (List FileName × Text) :=
  (inPathOrder (listing [] tree)).filterMap (eligible? settings)

/-- A snapshot to which a file is added under its displayed path, if there is room for one more. -/
def addUpTo (limit : Nat) (s : Snapshot) (file : List FileName × Text) : Snapshot :=
  if s.size < limit then s.insert (Path.display file.1) file.2 else s

/-- Files put in under their displayed paths, until there are as many as allowed. -/
def gather (limit : Nat) (files : List (List FileName × Text)) : Snapshot :=
  files.foldl (addUpTo limit) Snapshot.empty

end CodeWiki.FileTree
