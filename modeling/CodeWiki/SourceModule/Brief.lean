import CodeWiki.Excerpt.Basic
import CodeWiki.SourceModule.Partition

/-!
Briefs: what a language model is told about a module, and about the repository as a whole.
-/
namespace CodeWiki

structure Brief where
  module : Text
  text : Text
deriving DecidableEq, Repr

/-- The text about the repository and the list of its modules. -/
structure OverviewBrief where
  repository : Text
  moduleMap : Text
deriving DecidableEq, Repr

namespace Brief

def truncationMarker : Text := "\n\n... [content truncated for summarization]"

/-- The first `limit` characters of a text and the marker, or the whole text if it is no longer. -/
def truncate (limit : Nat) (t : Text) : Text :=
  if limit < t.length then t.take limit ++ truncationMarker else t

/-- The largest files of a module, the largest first; equally large ones stay in the order of their
paths. -/
def largest (count : Nat) (files : Snapshot) : List (Text × Text) :=
  (files.entries.mergeSort fun a b => Text.utf8Length b.2 ≤ Text.utf8Length a.2).take count

def block (excerpts : ExcerptSettings) (path code : Text) : Text :=
  "File: " ++ path ++ ['\n'] ++ Excerpt.ofFile excerpts path code

/-- The whole text about a module before it is cut. -/
def full (settings : GroupingSettings) (excerpts : ExcerptSettings) (m : SourceModule) : Text :=
  "### MODULE: " ++ m.name ++ ['\n'] ++
    Text.join ['\n', '\n'] ((largest settings.filesPerModule m.files).map fun (path, code) =>
      block excerpts path code)

def ofModule (settings : GroupingSettings) (excerpts : ExcerptSettings) (m : SourceModule) :
    Brief :=
  ⟨m.name, truncate settings.maxModuleChars (full settings excerpts m)⟩

/-- The briefs of the modules that hold files. -/
def ofModules (settings : GroupingSettings) (excerpts : ExcerptSettings)
    (modules : List SourceModule) : List Brief :=
  (modules.filter fun m => m.files.size != 0).map (ofModule settings excerpts)

end Brief

namespace OverviewBrief

def bullet (t : Text) : Text := "- " ++ t

/-- The overview of a repository known as `slug`, or by its reference if the slug is empty. -/
def ofSnapshot (settings : GroupingSettings) (slug reference : Text) (files : Snapshot)
    (modules : List Text) : OverviewBrief where
  repository :=
    "Repository: " ++ (if slug.isEmpty then reference else slug) ++ "\nStructure (sample):\n" ++
      Text.join ['\n'] ((files.paths.take settings.pathSample).map bullet)
  moduleMap := Text.join ['\n'] (modules.map bullet)

end OverviewBrief
end CodeWiki
