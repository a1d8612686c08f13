import CodeWiki.Snapshot
import CodeWiki.SourceModule.Topic

/-!
Modules: named groups of files that are summarised together, and the division of a snapshot into
them.
-/
namespace CodeWiki

structure SourceModule where
  name : Text
  files : Snapshot
deriving DecidableEq, Repr

/-- How files are grouped and how much of a group is shown. -/
structure GroupingSettings where
  /-- With so many files at the top of the repository, they are grouped by topic. -/
  rootThreshold : Nat := 15
  /-- The number of files shown of a module. -/
  filesPerModule : Nat := 7
  /-- The number of characters shown of a module. -/
  maxModuleChars : Nat := 20000
  /-- The number of paths shown of the repository. -/
  pathSample : Nat := 20
deriving DecidableEq, Repr

namespace SourceModule

/-- Puts a file into the module called `name`, which is opened behind the others if there is
none. -/
def add (name path content : Text) : List SourceModule → List SourceModule
  | [] => [⟨name, Snapshot.empty.insert path content⟩]
  | m :: rest =>
    if m.name = name then { m with files := m.files.insert path content } :: rest
    else m :: add name path content rest

/-- Files put into the modules that `nameOf` gives for their paths, one after another. -/
def addAll (nameOf : Text → Text) (files : List (Text × Text)) (modules : List SourceModule) :
    List SourceModule :=
  files.foldl (fun modules (path, content) => add (nameOf path) path content modules) modules

/-- The module of files at the top of the repository. -/
def rootName : Text := "root"

/-- The module of a repository whose files all have one topic and no directory. -/
def wholeName : Text := "Root Module"

/-- The first segment of a path that has more than one. -/
def directoryName (path : Text) : Text :=
  match Text.cut? ['/'] path with
  | some (first, _) => first
  | none => rootName

/-- Files grouped by topic; a single group takes the name of the whole. -/
def byTopic (files : Snapshot) : List SourceModule :=
  match addAll Topic.ofPath files.entries [] with
  | first :: second :: rest => first :: second :: rest
  | _ => [⟨wholeName, files⟩]

/-- The modules with the files of `groups` added to those of the same name. -/
def merge (modules groups : List SourceModule) : List SourceModule :=
  groups.foldl (fun modules group => addAll (fun _ => group.name) group.files.entries modules)
    modules

/-- The modules of a snapshot: one for each directory at the top, and one for the files beside them.
Where there are no directories, or where so many files stand beside them that the settings ask for
it, these files are grouped by topic. -/
def ofSnapshot (settings : GroupingSettings) (files : Snapshot) : List SourceModule :=
  let modules := addAll directoryName files.entries []
  let onlyRoot : Bool :=
    match modules with
    | [m] => m.name = rootName
    | _ => false
  if onlyRoot then byTopic files
  else
    match modules.find? fun m => m.name = rootName && settings.rootThreshold ≤ m.files.size with
    | none => modules
    | some root => merge (modules.eraseP (·.name = rootName)) (byTopic root.files)

end SourceModule
end CodeWiki
