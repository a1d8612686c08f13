import CodeWiki.Checkout.Eligible
import CodeWiki.Checkout.Error
import CodeWiki.Checkout.Scratch
import CodeWiki.Document.Basic
import CodeWiki.Reference

/-!
Checkouts: a reference is resolved to a clone URL, the repository is cloned into a scratch
directory, its source files are read, and the directory is removed again whatever came of it.
-/
namespace CodeWiki

/-- What cloning a URL comes to: an error, or what then stands at the destination. The revision is
what the checkout answers when it is asked. -/
structure Checkout where
  tree : Except CheckoutError (Option FileTree)
  revision : Option Text

abbrev Fetcher := Text → Checkout

namespace Checkout

/-- The source files of a cloned tree, of which there has to be one. -/
def collect (settings : CheckoutSettings) (tree : Option FileTree) :
    Except CheckoutError Snapshot :=
  let files := (tree.map (FileTree.snapshot settings)).getD Snapshot.empty
  if files.size = 0 then .error .noEligibleFiles else .ok files

/-- Where the files of a checkout come from. -/
def origin (time reference url : Text) (revision : Option Text) (files : Snapshot) : Origin where
  reference
  slug := Reference.slug url
  commit := revision
  generatedAt := time
  fileCount := files.size

/-- The source files of a checkout, and where they come from. -/
def read (settings : CheckoutSettings) (time reference url : Text) (checkout : Checkout) :
    Except CheckoutError (Snapshot × Origin) := do
  let tree ← checkout.tree
  let files ← collect settings tree
  return (files, origin time reference url checkout.revision files)

/-- Something that is done while a repository is fetched. -/
inductive Act where
  | created
  | cloned (url : Text)
  | collected
  | askedRevision
  | removed (removal : Scratch.Removal)
deriving DecidableEq, Repr

/-- What stands at the path of the scratch directory, and what has been done. -/
structure Scene where
  occupant : Occupant := .nothing
  acts : List Act := []
deriving DecidableEq, Repr

def perform (act : Act) (effect : Occupant → Occupant) : StateM Scene Unit :=
  modify fun scene => ⟨effect scene.occupant, scene.acts ++ [act]⟩

/-- The work in the scratch directory. It ends early when the clone fails or has no eligible files;
only of a checkout with eligible files the revision is asked. -/
def stage (settings : CheckoutSettings) (time reference url : Text) (checkout : Checkout)
    (around : Scratch.Surroundings) : ExceptT CheckoutError (StateM Scene) (Snapshot × Origin) := do
  perform (.cloned url) fun _ => around.before
  let tree ← ExceptT.mk (pure checkout.tree)
  perform .collected id
  let files ← ExceptT.mk (pure (collect settings tree))
  perform .askedRevision id
  return (files, origin time reference url checkout.revision files)

/-- Makes a scratch directory, works in it, and removes it whatever came of the work. -/
def materialize (settings : CheckoutSettings) (time : Text) (fetcher : Fetcher)
    (around : Scratch.Surroundings) (reference : Text) :
    StateM Scene (Except CheckoutError (Snapshot × Origin)) := do
  match Reference.cloneUrl? reference with
  | none => return .error (.invalidReference reference)
  | some url =>
    match around.refusal with
    | some reason => return .error (.io reason)
    | none =>
      perform .created fun _ => .directory []
      let outcome ← (stage settings time reference url (fetcher url) around).run
      let removal := Scratch.removeWithRetries around (← get).occupant
      perform (.removed removal) fun _ => removal.left
      return outcome

/-- A fetched repository with its trace: the URL that was cloned, if it came to that, and what is
left at the path of the scratch directory. -/
structure Fetched where
  outcome : Except CheckoutError (Snapshot × Origin)
  cloned : Option Text
  scratch : Occupant

def Act.clonedUrl? : Act → Option Text
  | cloned url => some url
  | _ => none

/-- Fetches a repository. -/
def fetch (settings : CheckoutSettings) (time : Text) (fetcher : Fetcher)
    (around : Scratch.Surroundings) (reference : Text) : Fetched :=
  let (outcome, scene) := (materialize settings time fetcher around reference).run {}
  { outcome, cloned := scene.acts.findSome? Act.clonedUrl?, scratch := scene.occupant }

end Checkout
end CodeWiki
