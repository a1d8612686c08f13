import CodeWiki.Section.Basic
import CodeWiki.Snapshot

/-!
Documents: the wiki of one repository at one revision.
-/
namespace CodeWiki

structure Origin where
  /-- The reference as the user gave it. -/
  reference : Text
  /-- The short name of the repository. -/
  slug : Text
  /-- The revision, if it could be found out. -/
  commit : Option Text
  /-- The time of the checkout. -/
  generatedAt : Text
  /-- The number of files. -/
  fileCount : Nat
deriving DecidableEq, Repr

/-- A wiki: its origin, its sections and the files it was made from. -/
structure Document where
  origin : Origin
  sections : List WikiSection
  files : Snapshot
deriving DecidableEq

end CodeWiki
